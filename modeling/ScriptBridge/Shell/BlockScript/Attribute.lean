/-
The attributes of values: those that objects and classes of a program were given, the methods of what is built in, and
the contents of modules.
-/
import ScriptBridge.Shell.BlockScript.Container

namespace ScriptBridge.Shell.BlockScript

/-! ## Modules -/

/-- the functions of modules -/
def moduleFunctions (module : String) : List String :=
  match module with
  | "sys" => ["exit", "getrecursionlimit", "setrecursionlimit", "getdefaultencoding", "getfilesystemencoding", "exc_info",
    "intern", "getsizeof"]
  | "os" => ["getcwd", "getenv", "listdir", "remove", "unlink", "mkdir", "makedirs", "rename", "replace", "rmdir", "getpid",
    "write", "read", "_exit", "fsencode", "fsdecode", "getuid", "cpu_count", "access", "isatty", "fspath", "urandom",
    "walk", "chdir", "close", "kill", "killpg", "abort"]
  | "os.path" => ["join", "basename", "dirname", "exists", "isfile", "isdir", "abspath", "realpath", "splitext", "split",
    "normpath", "getsize", "expanduser", "relpath", "isabs", "commonprefix", "lexists", "islink"]
  | "re" => ["match", "fullmatch", "search", "sub", "subn", "findall", "finditer", "split", "compile", "escape", "error",
    "Pattern", "Match", "purge"]
  | "json" => ["loads", "dumps", "load", "dump", "JSONDecodeError"]
  | "math" => ["floor", "ceil", "sqrt", "gcd", "lcm", "factorial", "pow", "log", "log2", "log10", "exp", "sin", "cos", "tan",
    "fabs", "trunc", "isnan", "isinf", "isfinite", "isclose", "comb", "perm", "prod", "hypot", "fmod", "copysign", "isqrt",
    "fsum", "atan2", "atan", "degrees", "radians"]
  | "string" => ["capwords"]
  | "textwrap" => ["dedent", "indent", "fill", "wrap", "shorten"]
  | "itertools" => ["chain", "count", "islice", "repeat", "groupby", "zip_longest", "accumulate", "product", "permutations",
    "combinations", "takewhile", "dropwhile", "starmap", "pairwise", "filterfalse", "compress", "tee", "cycle", "batched"]
  | "functools" => ["reduce", "partial", "lru_cache", "cache", "wraps", "cmp_to_key", "total_ordering"]
  | "collections" => ["Counter", "defaultdict", "OrderedDict", "deque", "namedtuple"]
  | "operator" => ["itemgetter", "attrgetter", "methodcaller", "add", "sub", "mul", "truediv", "floordiv", "mod", "neg", "not_",
    "eq", "ne", "lt", "le", "gt", "ge", "contains", "getitem", "and_", "or_", "xor", "concat"]
  | "time" => ["time", "sleep", "perf_counter", "monotonic", "time_ns"]
  | "io" => ["StringIO", "BytesIO", "TextIOWrapper", "open", "UnsupportedOperation", "BufferedReader"]
  | "pathlib" => ["Path", "PurePath", "PosixPath"]
  | "typing" => ["List", "Dict", "Set", "Tuple", "Optional", "Union", "Any", "Callable", "Iterable", "Iterator", "Sequence",
    "Mapping", "NamedTuple", "TextIO", "Generator", "cast", "Final", "Literal", "Type", "TypeVar", "FrozenSet", "Match",
    "Pattern", "DefaultDict", "NoReturn", "Counter", "Deque"]
  | "shutil" => ["copyfileobj", "copy", "copyfile", "move", "which"]
  | "fileinput" => ["input"]
  | "hashlib" => ["md5", "sha1", "sha224", "sha256", "sha384", "sha512"]
  | "base64" => ["b64encode", "b64decode"]
  | "codecs" => ["open", "encode", "decode", "getreader", "getwriter"]
  | "html" => ["escape", "unescape"]
  | "contextlib" => ["suppress"]
  | "copy" => ["copy", "deepcopy"]
  | "signal" => ["signal", "raise_signal"]
  | "dataclasses" => ["dataclass", "field", "asdict", "astuple"]
  | "locale" => ["setlocale", "getpreferredencoding"]
  | "unicodedata" => ["normalize"]
  | "warnings" => ["filterwarnings", "simplefilter", "warn"]
  | _ => []

/-- the modules that can be brought in -/
def moduleNames : List String :=
  ["sys", "os", "os.path", "posixpath", "re", "json", "math", "string", "textwrap", "itertools", "functools", "collections",
    "operator", "time", "io", "pathlib", "typing", "shutil", "fileinput", "hashlib", "base64", "codecs", "html",
    "contextlib", "copy", "signal", "locale", "unicodedata", "warnings", "__future__", "builtins", "collections.abc",
    "json.decoder", "abc", "argparse", "array", "ast", "asyncio", "atexit", "bisect", "binascii", "calendar", "cmath", "cmd",
    "concurrent", "configparser", "csv", "ctypes", "curses", "dataclasses", "datetime", "decimal", "difflib", "dis",
    "email", "enum", "errno", "filecmp", "fnmatch", "fractions", "gc", "getopt", "getpass", "gettext", "glob", "gzip",
    "heapq", "hmac", "http", "importlib", "inspect", "keyword", "linecache", "logging", "lzma", "mmap", "multiprocessing",
    "numbers", "optparse", "pickle", "platform", "posix", "pprint", "profile", "pwd", "queue", "random", "readline",
    "reprlib", "resource", "runpy", "sched", "secrets", "select", "shelve", "shlex", "site", "socket", "sqlite3", "ssl",
    "stat", "statistics", "struct", "subprocess", "symtable", "tarfile", "tempfile", "termios", "threading", "token",
    "tokenize", "traceback", "tty", "types", "unittest", "urllib", "uuid", "weakref", "xml", "zipfile", "zlib"]

/-- where a module lies -/
def moduleFile (module : String) : String :=
  let folder := "/usr/lib/python3.12/"
  if ["os", "string", "textwrap", "functools", "operator", "io", "pathlib", "typing", "shutil", "fileinput", "hashlib",
      "base64", "codecs", "contextlib", "copy", "signal", "locale", "warnings", "random", "datetime", "glob", "argparse",
      "subprocess", "tempfile", "dataclasses", "enum"].contains module then folder ++ module ++ ".py"
  else if ["re", "json", "collections", "html"].contains module then folder ++ module ++ "/__init__.py"
  else if module == "os.path" then folder ++ "posixpath.py"
  else "unknown location"

/-- a value of a module that never changes -/
def moduleConstant? (module name : String) : Option Value :=
  let real (x : Float) : Option Value := some (.real (.ofFloat x))
  let letters : String := "abcdefghijklmnopqrstuvwxyz"
  let capitals : String := "ABCDEFGHIJKLMNOPQRSTUVWXYZ"
  let marks : String := "!\"#$%&'()*+,-./:;<=>?@[\\]^_\x60\x7b|\x7d~"
  let whitespace : String := " \t\n\r\x0b\x0c"
  match module, name with
  | "sys", "platform" => some (textValue "linux")
  | "sys", "maxsize" => some (.int 9223372036854775807)
  | "sys", "maxunicode" => some (.int 1114111)
  | "sys", "byteorder" => some (textValue "little")
  | "sys", "executable" => some (textValue "/usr/bin/python3")
  | "sys", "version" => some (textValue "3.12.3 (main, Jun 18 2025, 17:59:45) [GCC 13.3.0]")
  | "sys", "version_info" => some (.tuple [.int 3, .int 12, .int 3, textValue "final", .int 0])
  | "sys", "prefix" => some (textValue "/usr")
  | "sys", "flags" => some .none
  | "os", "sep" => some (textValue "/")
  | "os", "linesep" => some (textValue "\n")
  | "os", "name" => some (textValue "posix")
  | "os", "devnull" => some (textValue "/dev/null")
  | "os", "pathsep" => some (textValue ":")
  | "os", "curdir" => some (textValue ".")
  | "os", "pardir" => some (textValue "..")
  | "os", "extsep" => some (textValue ".")
  | "os", "path" => some (.module "os.path")
  | "os", "R_OK" => some (.int 4)
  | "os", "W_OK" => some (.int 2)
  | "os", "X_OK" => some (.int 1)
  | "os", "F_OK" => some (.int 0)
  | "os", "error" => some (.builtin "OSError")
  | "os.path", "sep" => some (textValue "/")
  | "re", "I" | "re", "IGNORECASE" => some (.int 2)
  | "re", "M" | "re", "MULTILINE" => some (.int 8)
  | "re", "S" | "re", "DOTALL" => some (.int 16)
  | "re", "U" | "re", "UNICODE" => some (.int 32)
  | "re", "X" | "re", "VERBOSE" => some (.int 64)
  | "re", "A" | "re", "ASCII" => some (.int 256)
  | "json", "decoder" => some (.module "json")
  | "math", "pi" => real 3.141592653589793
  | "math", "e" => real 2.718281828459045
  | "math", "tau" => real 6.283185307179586
  | "math", "inf" => some (.real (.infinite false))
  | "math", "nan" => some (.real .notANumber)
  | "string", "ascii_lowercase" => some (textValue letters)
  | "string", "ascii_uppercase" => some (textValue capitals)
  | "string", "ascii_letters" => some (textValue (letters ++ capitals))
  | "string", "digits" => some (textValue "0123456789")
  | "string", "hexdigits" => some (textValue "0123456789abcdefABCDEF")
  | "string", "octdigits" => some (textValue "01234567")
  | "string", "punctuation" => some (textValue marks)
  | "string", "whitespace" => some (textValue " \t\n\r\x0b\x0c")
  | "string", "printable" => some (textValue ("0123456789" ++ letters ++ capitals ++ marks ++ whitespace))
  | "collections", "abc" => some (.module "collections.abc")
  | "signal", "SIG_DFL" => some (.int 0)
  | "signal", "SIG_IGN" => some (.int 1)
  | "signal", name => if name.startsWith "SIG" then (signalNumber? (octets (name.drop 3).toString)).map fun n => .int n else none
  | "locale", "LC_ALL" => some (.int 6)
  | "typing", "TYPE_CHECKING" => some (.bool false)
  | "io", "SEEK_SET" | "os", "SEEK_SET" => some (.int 0)
  | "errno", "ENOENT" => some (.int 2)
  | _, _ => none

/-- the names of functions that belong to no module in particular, where a module has them too -/
def plainName (module name : String) : String :=
  match module, name with
  | "io", "open" | "codecs", "open" => "open"
  | "io", "UnsupportedOperation" => "UnsupportedOperation"
  | "collections", n => n
  | "typing", "Counter" => "Counter"
  | "pathlib", _ => "Path"
  | "json", "JSONDecodeError" => "json.JSONDecodeError"
  | "collections.abc", n => "typing." ++ n
  | module, name => module ++ "." ++ name

/-- the names of the values of a module that never change -/
def moduleConstants (module : String) : List String :=
  match module with
  | "sys" => ["platform", "maxsize", "maxunicode", "byteorder", "executable", "version", "version_info", "prefix", "flags"]
  | "os" => ["sep", "linesep", "name", "devnull", "pathsep", "curdir", "pardir", "extsep", "path", "error"]
  | "re" => ["I", "IGNORECASE", "M", "MULTILINE", "S", "DOTALL", "U", "UNICODE", "X", "VERBOSE", "A", "ASCII"]
  | "math" => ["pi", "e", "tau", "inf", "nan"]
  | "string" => ["ascii_lowercase", "ascii_uppercase", "ascii_letters", "digits", "hexdigits", "octdigits", "punctuation",
    "whitespace", "printable"]
  | _ => []

/-- what a module has under a name -/
def moduleAttribute? (module name : String) : Work (Option Value) := do
  let own ← match (← get).modules.lookup module with
    | some a => match ← thingAt a with
      | .scope values _ _ _ => pure (attribute? name values)
      | _ => pure none
    | none => pure none
  match own with
  | some v => return some v
  | none =>
    match moduleConstant? module name with
    | some v => return some v
    | none =>
      if name == "__name__" then return some (textValue module)
      else if (moduleFunctions module).contains name then return some (.builtin (plainName module name))
      else if module == "collections.abc" || module == "__future__" then return some (.builtin ("typing." ++ name))
      else if moduleNames.contains (module ++ "." ++ name) then return some (.module (module ++ "." ++ name))
      else return none

/-! ## What is built in -/

/-- the methods of whole numbers -/
def intMethodNames : List String := ["bit_length", "bit_count", "to_bytes", "conjugate", "is_integer", "from_bytes"]

/-- the methods of real numbers -/
def realMethodNames : List String := ["is_integer", "hex", "conjugate", "as_integer_ratio", "fromhex"]

/-- the methods of paths -/
def pathMethodNames : List String :=
  ["absolute", "as_posix", "exists", "is_dir", "is_file", "iterdir", "joinpath", "mkdir", "open", "read_bytes", "read_text",
    "resolve", "rmdir", "unlink", "with_name", "with_suffix", "write_bytes", "write_text", "is_absolute", "touch"]

/-- the methods of a type that is built in -/
def typeMethodNames (type : String) : List String :=
  match type with
  | "str" => textMethodNames
  | "bytes" | "bytearray" => bytesMethodNames
  | "list" => listMethodNames.take 11
  | "deque" => listMethodNames
  | "tuple" | "range" => ["count", "index"]
  | "dict" => dictMethodNames.take 11
  | "Counter" | "defaultdict" | "OrderedDict" => dictMethodNames
  | "set" => setMethodNames
  | "frozenset" => setMethodNames.filter fun n => !(["add", "clear", "discard", "pop", "remove", "update"].contains n)
  | "int" | "bool" => intMethodNames
  | "float" => realMethodNames
  | "Path" => pathMethodNames ++ ["cwd", "home"]
  | "TextIOWrapper" | "BufferedReader" => fileMethodNames
  | "Pattern" => patternMethodNames
  | "Match" => foundMethodNames
  | "generator" => ["__next__", "send", "close"]
  | "itertools.chain" => ["from_iterable"]
  | "object" => ["__init__", "__repr__", "__str__", "__eq__", "__new__"]
  | _ => []

/-- the attributes of a value that is built in, other than its methods -/
def plainAttribute? (v : Value) (name : String) : Work (Option Value) := do
  match v with
  | .int n => return match name with
    | "real" | "numerator" => some (.int n)
    | "imag" => some (.int 0)
    | "denominator" => some (.int 1)
    | _ => none
  | .range a b c => return match name with
    | "start" => some (.int a)
    | "stop" => some (.int b)
    | "step" => some (.int c)
    | _ => none
  | .slice a b c => return match name with
    | "start" => some a
    | "stop" => some b
    | "step" => some c
    | _ => none
  | .tuple items =>
    let versions : List String := ["major", "minor", "micro", "releaselevel", "serial"]
    return match versions.findIdx? (· == name), items with
      | some i, [.int 3, .int 12, .int 3, _, _] => items[i]?
      | _, _ => none
  | .ref a =>
    match ← thingAt a with
    | .file f =>
      match name with
      | "buffer" | "raw" =>
        match f.stream with
        | some _ => do
          let mode := (f.mode.replace "b" "") ++ "b"
          return some (← allocate (.file { f with mode }))
        | none => return some v
      | "name" => return some (.text f.path)
      | "mode" => return some (textValue f.mode)
      | "closed" => return some (.bool f.closed)
      | "encoding" => return some (textValue "utf-8")
      | "errors" => return some (textValue (if (f.stream.getD 3) < 2 then "surrogateescape" else "strict"))
      | "newlines" => return some .none
      | _ => return none
    | .pattern source bytes e => return match name with
      | "pattern" => some (if bytes then .bytes source else .text source)
      | "groups" => some (.int e.groups)
      | "flags" => some (.int (32 + (if e.flags.fold then 2 else 0) + (if e.flags.lines then 8 else 0)
          + (if e.flags.dotAll then 16 else 0)))
      | _ => none
    | .found p subject spot =>
      match name with
      | "string" => return some (.text subject)
      | "re" => return some (.ref p)
      | "pos" => return some (.int 0)
      | "endpos" => return some (.int subject.length)
      | "lastindex" => return some (match spot.groups with
        | (i, _, _) :: _ => .int i
        | [] => .none)
      | "lastgroup" =>
        match spot.groups, ← thingAt p with
        | (i, _, _) :: _, .pattern _ _ e =>
          return some (((e.names.find? fun n => n.2 == i).map fun n => Value.text n.1).getD .none)
        | _, _ => return some .none
      | _ => return none
    | .dict "defaultdict" default _ => return if name == "default_factory" then some default else none
    | .function f => return match name with
      | "__name__" | "__qualname__" => some (textValue f.name)
      | "__doc__" => some .none
      | "__module__" => some (textValue "__main__")
      | _ => none
    | _ => return none
  | .builtin n => return match name with
    | "__name__" | "__qualname__" => some (textValue (((n.splitOn ".").getLast?).getD n))
    | "__module__" => some (textValue "builtins")
    | _ => none
  | _ => return none

/-- the path that a value is -/
def pathText? (v : Value) : Work (Option Characters) := do
  match v with
  | .text o => return some o
  | .bytes o => return some (decode o)
  | v => match attribute? "path" (← objectAttributes v) with
    | some (.text o) => return some o
    | _ => return none

/-- a path as a value -/
def pathValue (o : Characters) : Work Value := allocate (.instanceOf (.builtin "Path") [("path", .text o)])

/-- the last part of a path -/
def nameOfPath (o : Characters) : Characters := (o.reverse.takeWhile (· != '/')).reverse

/-- the part of a name before its ending, and the ending -/
def endingOf (name : Characters) : Characters × Characters :=
  let ending := (name.reverse.takeWhile (· != '.')).reverse
  let start := name.take (name.length - ending.length - 1)
  if ending.length < name.length && start.any (· != '.') then (start, '.' :: ending) else (name, [])

/-- the folder of a path; the text before the last slash -/
def folderOfPath (o : Characters) : Characters :=
  let before := o.take (o.length - (nameOfPath o).length)
  let trimmed := dropEndWhile (· == '/') before
  if trimmed.isEmpty then before else trimmed

/-- the attributes of a path -/
def pathAttribute? (o : Characters) (name : String) : Work (Option Value) := do
  let last := nameOfPath o
  match name with
  | "name" => return some (.text last)
  | "stem" => return some (.text (endingOf last).1)
  | "suffix" => return some (.text (endingOf last).2)
  | "parent" => some <$> pathValue (if (folderOfPath o).isEmpty then ['.'] else folderOfPath o)
  | "parts" =>
    let parts := (cutBy ['/'] (o.length + 1) none o []).filter fun p => !p.isEmpty
    return some (.tuple ((if o.head? == some '/' then [textValue "/"] else []) ++ parts.map .text))
  | _ => return none

section

variable (call : Caller)

/-- a value of a class as its object sees it -/
def boundTo (object : Value) (owner : Value) (v : Value) : Work Value := do
  match ← thing? v with
  | some (.function _) => return .bound object v
  | some (.wrapped "staticmethod" f _) => return f
  | some (.wrapped "classmethod" f _) => return .bound owner f
  | some (.wrapped "property" f _) => call f [object] []
  | _ => return v

/-- what a value has under a name; none where it has nothing -/
def findAttribute? (v : Value) (name : String) : Work (Option Value) := do
  if name == "__class__" then return some (← classOf v)
  match v with
  | .module m => moduleAttribute? m name
  | _ =>
    match ← plainAttribute? v name with
    | some r => return some r
    | none =>
      match ← thing? v with
      | some (.instanceOf kind attributes) => do
        let shared ← classAttribute? kind name
        let isComputed ← match shared with
          | some s => match ← thing? s with
            | some (.wrapped "property" _ _) => pure true
            | _ => pure false
          | none => pure false
        match if isComputed then none else attribute? name attributes, shared with
        | some r, _ => return some r
        | none, some s => some <$> boundTo call v kind s
        | none, none =>
          match kind, attribute? "path" attributes with
          | .builtin "Path", some (.text o) =>
            match ← pathAttribute? o name with
            | some r => return some r
            | none => return if pathMethodNames.contains name then some (.method v name) else none
          | _, _ =>
            if name == "__dict__" then
              some <$> makeDict ((attributes.filter fun a => a.1.front? != some ' ').map fun (n, v) => (textValue n, v))
            else if ← isException v then
              match name with
              | "__cause__" | "__context__" | "__traceback__" => return some .none
              | "code" => return some ((← exceptionArgs v).headD .none)
              | "value" => return some ((← exceptionArgs v).headD .none)
              | "errno" => do
                let args ← exceptionArgs v
                return some (if args.length < 2 then .none else args.headD .none)
              | "msg" => return some ((← exceptionArgs v).headD .none)
              | "with_traceback" | "add_note" => return some (.method v name)
              | _ => return none
            else match attribute? " fields" attributes, name with
              | some fields, "_fields" => return some fields
              | some _, "_asdict" | some _, "_replace" => return some (.method v name)
              | _, _ =>
                if ["hexdigest", "digest"].contains name && (attribute? " digest" attributes).isSome then
                  return some (.method v name)
                else match ← classAttribute? kind "__getattr__" with
                  | some f => some <$> call f [v, textValue name] []
                  | none => return none
      | some (.classOf own bases attributes) =>
        match ← classAttribute? v name with
        | some r =>
          match ← thing? r with
          | some (.wrapped "staticmethod" f _) => return some f
          | some (.wrapped "classmethod" f _) => return some (.bound v f)
          | _ => return some r
        | none => match name with
          | "__name__" | "__qualname__" => return some (textValue own)
          | "__bases__" => return some (.tuple bases)
          | "__doc__" => return some .none
          | "__module__" => return some (textValue "__main__")
          | "__dict__" => some <$> makeDict (attributes.map fun (n, v) => (textValue n, v))
          | "__init__" => return some (.builtin "object.__init__")
          | _ => return none
      | some (.wrapped "super" object owner) => do
        let kind ← match ← thing? object with
          | some (.classOf ..) => pure object
          | _ => classOf object
        let line ← lineage classDepth kind
        let after := (line.dropWhile fun c => !sameKey c owner).drop 1
        for k in after do
          match ← thing? k with
          | some (.classOf _ _ attributes) =>
            match attribute? name attributes with
            | some r => return some (← boundTo call object kind r)
            | none => pure ()
          | _ => pure ()
        if ["__init__", "__str__", "__repr__", "__setattr__", "__init_subclass__"].contains name then
          return some (.bound object (.builtin ("object." ++ name)))
        else return none
      | some (.wrapped "property" f setter) =>
        if name == "setter" || name == "getter" || name == "deleter" then return some (.method v name)
        else if name == "fget" then return some f else if name == "fset" then return some setter else return none
      | _ => do
        match v with
        | .builtin n =>
          if (typeMethodNames n).contains name then return some (.builtin (n ++ "." ++ name)) else return none
        | .bound _ f => if name == "__name__" then plainAttribute? f name else return none
        | v => do
          let type ← typeName v
          let known := typeMethodNames type
          let special : List String := ["__len__", "__iter__", "__next__", "__str__", "__repr__", "__eq__", "__contains__",
            "__getitem__", "__enter__", "__exit__", "__add__", "__doc__", "__hash__"]
          let deep : Bool := type == "list" && ["appendleft", "popleft", "extendleft", "rotate"].contains name
          if known.contains name || special.contains name || deep || (type == "dict" && name == "most_common") then
            return some (.method v name)
          else return none

/-- raises that a value has no attribute of a name -/
def raiseMissing {α : Type} (v : Value) (name : String) : Work α := do
  let message ← match v with
    | .module m => pure s!"module '{m}' has no attribute '{name}'"
    | .builtin n =>
      if (← typeName v) == "type" then pure s!"type object '{n}' has no attribute '{name}'"
      else pure s!"'builtin_function_or_method' object has no attribute '{name}'"
    | v => match ← thing? v with
      | some (.classOf n _ _) => pure s!"type object '{n}' has no attribute '{name}'"
      | some (.wrapped "super" _ _) => pure s!"'super' object has no attribute '{name}'"
      | some (.found ..) => pure s!"'re.Match' object has no attribute '{name}'"
      | some (.pattern ..) => pure s!"'re.Pattern' object has no attribute '{name}'"
      | _ => do
        let kind ← typeName v
        let kind := match kind with
          | "TextIOWrapper" => "_io.TextIOWrapper"
          | "BufferedReader" => "_io.BufferedReader"
          | kind => kind
        pure s!"'{kind}' object has no attribute '{name}'"
  let e ← allocate (.instanceOf (.builtin "AttributeError")
    [("args", .tuple [textValue message]), ("name", textValue name), ("obj", v)])
  throw (.raised e [])

/-- what a value has under a name -/
def getAttribute (v : Value) (name : String) : Work Value := do
  match ← findAttribute? call v name with
  | some r => return r
  | none => raiseMissing v name

/-- gives a value an attribute -/
def setAttribute (v : Value) (name : String) (value : Value) : Work Unit := do
  match v with
  | .module m =>
    match (← get).modules.lookup m with
    | some a => match ← thingAt a with
      | .scope values parent locals isClass => update a (.scope (putAttribute name value values) parent locals isClass)
      | _ => pure ()
    | none => do
      let a := (← get).heap.size
      let _ ← allocate (.scope [(name, value)] none [] false)
      modify fun w => { w with modules := (m, a) :: w.modules }
  | v =>
    match v, ← thing? v with
    | .ref a, some (.instanceOf kind attributes) => do
      let shared ← classAttribute? kind name
      let wrapped ← match shared with
        | some s => thing? s
        | none => pure none
      match wrapped, ← classAttribute? kind "__setattr__" with
      | some (.wrapped "property" _ setter), _ =>
        match setter with
        | .none => do
          let kind ← typeName v
          raise "AttributeError" s!"property '{name}' of '{kind}' object has no setter"
        | f => do
          let _ ← call f [v, value] []
      | _, some f => do
        let _ ← call f [v, textValue name, value] []
      | _, none => update a (.instanceOf kind (putAttribute name value attributes))
    | .ref a, some (.classOf n bases attributes) => update a (.classOf n bases (putAttribute name value attributes))
    | .ref _, some (.function _) => pure ()
    | v, _ => do
      let kind ← typeName v
      if (← findAttribute? call v name).isSome then
        raise "AttributeError" s!"'{kind}' object attribute '{name}' is read-only"
      else raiseMissing v name

/-- takes an attribute from a value -/
def deleteAttribute (v : Value) (name : String) : Work Unit := do
  match v, ← thing? v with
  | .ref a, some (.instanceOf kind attributes) =>
    if (attribute? name attributes).isSome then update a (.instanceOf kind (attributes.filter fun x => x.1 != name))
    else raiseMissing v name
  | .ref a, some (.classOf n bases attributes) => update a (.classOf n bases (attributes.filter fun x => x.1 != name))
  | v, _ => raiseMissing v name

end

end ScriptBridge.Shell.BlockScript
