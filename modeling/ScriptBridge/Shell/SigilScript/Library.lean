/-
Functions of modules: about lists, about what values are, about numbers and paths, and for showing data.
-/
import ScriptBridge.Shell.Digest
import ScriptBridge.Shell.Dump
import ScriptBridge.Shell.SigilScript.Call

namespace ScriptBridge.Shell.SigilScript

/-! ## What there is -/

/-- the functions of a module -/
def moduleFunctions (name : String) : List String :=
  match name with
  | "List::Util" =>
    ["first", "any", "all", "none", "notall", "sum", "sum0", "product", "min", "max", "minstr", "maxstr", "reduce", "shuffle",
      "uniq", "uniqnum", "uniqint", "uniqstr", "pairs", "pairkeys", "pairvalues", "head", "tail"]
  | "Scalar::Util" => ["blessed", "reftype", "looks_like_number", "refaddr", "weaken", "readonly", "dualvar"]
  | "POSIX" =>
    ["floor", "ceil", "fmod", "pow", "strftime", "strtol", "strtod", "isatty", "INT_MAX", "INT_MIN", "UINT_MAX", "LONG_MAX",
      "LONG_MIN", "DBL_MAX", "DBL_MIN", "DBL_EPSILON", "EXIT_SUCCESS", "EXIT_FAILURE", "toupper", "tolower", "round", "trunc",
      "isdigit", "isalpha", "isspace", "abs", "fmin", "fmax", "_exit"]
  | "Data::Dumper" => ["Dumper"]
  | "File::Basename" => ["basename", "dirname", "fileparse"]
  | "Cwd" => ["cwd", "getcwd", "abs_path", "realpath"]
  | "Carp" => ["croak", "carp", "confess", "cluck"]
  | "Encode" => ["encode", "decode", "encode_utf8", "decode_utf8"]
  | "JSON::PP" => ["encode_json", "decode_json"]
  | "MIME::Base64" => ["encode_base64", "decode_base64"]
  | "Digest::MD5" => ["md5_hex"]
  | "Digest::SHA" => ["sha1_hex", "sha224_hex", "sha256_hex", "sha384_hex", "sha512_hex"]
  | "Getopt::Long" => ["GetOptions"]
  | "Time::HiRes" => ["time", "sleep", "usleep"]
  | "Time::Local" => ["timegm", "timelocal"]
  | "utf8" => ["encode", "decode", "upgrade", "downgrade", "is_utf8", "valid"]
  | "Text::ParseWords" => ["shellwords"]
  | _ => []

/-- the functions that a module brings where none are named -/
def moduleDefaults (name : String) : List String :=
  match name with
  | "POSIX" => moduleFunctions name
  | "Data::Dumper" => ["Dumper"]
  | "File::Basename" => ["basename", "dirname", "fileparse"]
  | "Cwd" => ["cwd", "getcwd"]
  | "Carp" => ["croak", "carp", "confess"]
  | "Encode" => moduleFunctions name
  | "JSON::PP" => ["encode_json", "decode_json"]
  | "MIME::Base64" => ["encode_base64", "decode_base64"]
  | "Getopt::Long" => ["GetOptions"]
  | "Time::Local" => ["timegm", "timelocal"]
  | "Text::ParseWords" => ["shellwords"]
  | _ => []

/-- the modules that are there -/
def knownModules : List String :=
  ["strict", "warnings", "utf8", "feature", "lib", "vars", "constant", "parent", "base", "integer", "open", "overload", "bytes",
    "locale", "diagnostics", "sort", "mro", "re", "subs", "fields", "if", "experimental", "Exporter", "IO::Handle", "IO::File",
    "List::Util", "Scalar::Util", "POSIX", "Data::Dumper", "File::Basename", "File::Spec", "File::Spec::Functions", "Cwd", "Carp",
    "Encode", "JSON::PP", "MIME::Base64", "Digest::MD5", "Digest::SHA", "Getopt::Long", "Time::HiRes", "Time::Local", "FindBin",
    "Text::ParseWords", "Text::Wrap", "Text::Tabs", "Text::Abbrev", "Term::ANSIColor", "Symbol", "Errno", "Fcntl", "Socket",
    "Tie::Hash", "Tie::Array", "File::Temp", "File::Path", "File::Copy", "File::Find", "Storable", "Test::More", "Benchmark",
    "English", "Env", "Math::BigInt", "Math::Trig", "Unicode::Normalize", "charnames", "autodie", "threads", "version"]

/-! ## Lists -/

/-- the cells for which a function is true of the name that is meant by itself -/
def chosen (ev : Evaluator) (f : Nat) (cells : List Nat) : Work (List (Nat × Bool)) :=
  cells.mapM fun a => withTopic a do return (a, isTrue (← callOne ev f []))

/-- the first cell for which a function comes to what is sought -/
def firstCell? (ev : Evaluator) (f : Nat) (sought : Bool) : List Nat → Work (Option Nat)
  | [] => return none
  | a :: rest => do
    if (← withTopic a do return isTrue (← callOne ev f [])) == sought then return some a else firstCell? ev f sought rest

/-- values without those that were there before -/
def withoutRepeats (values : List Value) (key : Value → Work Octets) : Work (List Value) := do
  let mut seen : Std.HashMap String Unit := {}
  let mut done : List Value := []
  for v in values do
    let k := String.ofList (← key v)
    if !seen.contains k then
      seen := seen.insert k ()
      done := v :: done
  return done.reverse

/-- folds values with an operator -/
def foldValues (f : Value → Value → Work Value) : List Value → Work Value
  | [] => return .undefined
  | v :: rest => rest.foldlM f v

/-! ## Showing data -/

/-- a text between quotes -/
def quotedText (o : Octets) : Octets :=
  '\'' :: o.flatMap (fun c => if c == '\'' || c == '\\' then ['\\', c] else [c]) ++ ['\'']

/-- whether a text is a whole number that is shown without quotes -/
def isShortNumber (o : Octets) : Bool :=
  match o with
  | ['0'] => true
  | '-' :: c :: rest => c.isDigit && c != '0' && rest.all Char.isDigit && rest.length ≤ 8
  | c :: rest => c.isDigit && c != '0' && rest.all Char.isDigit && rest.length ≤ 8
  | [] => false

/-- how data are shown: how far parts are set in, and whether keys are sorted -/
structure ShowStyle where
  indent : Nat
  sorted : Bool

/-- shows data; `column` is where the value begins -/
def showData (style : ShowStyle) : Nat → Nat → Value → Work Octets
  | 0, _, _ => return octets "..."
  | fuel + 1, column, v => do
    match v with
    | .undefined => return octets "undef"
    | .int n => do
      let o := number n
      return if isShortNumber o then o else quotedText o
    | .text o => return if isShortNumber o then o else quotedText o
    | .both _ o => return quotedText o
    | .real x => do
      let o := realText x
      return if isShortNumber o then o else quotedText o
    | .handle name => return octets ("\\*main::" ++ name)
    | .ref a => do
      let package := (← get).blessed.get? a
      let column := if package.isSome && style.indent = 2 then column + 7 else column
      let inner := if style.indent = 2 then column + 2 else if style.indent = 1 then column + 2 else 0
      let fill (n : Nat) : Octets := if style.indent = 0 then [] else '\n' :: List.replicate n ' '
      let around (opening closing : Char) (parts : List Octets) : Octets :=
        if parts.isEmpty then [opening, closing]
        else opening :: fill inner ++ joinWith (',' :: fill inner) parts ++ fill column ++ [closing]
      let body ← match ← thingAt a with
        | .array items => do
          let parts ← items.toList.mapM fun c => do showData style fuel inner (← itemValue c)
          pure (around '[' ']' parts)
        | .table entries => do
          let entries := if style.sorted then entries.mergeSort fun x y => textOrder x.1 y.1 != .gt else entries
          let parts ← entries.mapM fun (k, c) => do
            let key := quotedText k ++ octets " => "
            return key ++ (← showData style fuel (if style.indent = 2 then inner + key.length else inner) (← cellAt c))
          pure (around '\x7b' '\x7d' parts)
        | .function _ => pure (octets "sub \x7b \"DUMMY\" \x7d")
        | .native _ => pure (octets "sub \x7b \"DUMMY\" \x7d")
        | .pattern shown _ => do
          -- the expression between slashes, with its letters behind
          let inner := (shown.drop 3).dropLast
          let letters := inner.takeWhile (· != ':')
          pure (octets "qr/" ++ inner.drop (letters.length + 1) ++ '/' :: letters)
        | .cell inner => do pure ('\\' :: (← showData style fuel (column + 2) inner))
        | _ => pure (octets "\\*" ++ (octets "\x7b'::$fh'\x7d"))
      match package with
      | some p => return octets "bless( " ++ body ++ octets ", " ++ quotedText (octets p) ++ octets " )"
      | none => return body

/-- a text in the form of data -/
def jsonText (ascii : Bool) (o : Octets) : Octets :=
  '"' :: o.flatMap (fun c => match c with
    | '"' => ['\\', '"']
    | '\\' => ['\\', '\\']
    | '\n' => ['\\', 'n']
    | '\r' => ['\\', 'r']
    | '\t' => ['\\', 't']
    | '\x08' => ['\\', 'b']
    | '\x0c' => ['\\', 'f']
    | c =>
      if c < ' ' || (ascii && 127 < c.toNat) || c.toNat = 127 then
        let digits := Nat.toDigits 16 c.toNat
        ['\\', 'u'] ++ List.replicate (4 - digits.length) '0' ++ digits
      else [c]) ++ ['"']

/-- how data are written: whether in lines, with blanks around the colon, and with sorted keys -/
structure JsonStyle where
  lines : Bool
  spaced : Bool
  sorted : Bool

/-- data as they are written -/
def jsonData (style : JsonStyle) : Nat → Nat → Value → Work Octets
  | 0, _, _ => die "data too deep"
  | fuel + 1, depth, v => do
    let fill (n : Nat) : Octets := if style.lines then '\n' :: List.replicate (3 * n) ' ' else []
    let around (opening closing : Char) (parts : List Octets) : Octets :=
      if parts.isEmpty then [opening, closing]
      else opening :: fill (depth + 1) ++ joinWith (',' :: fill (depth + 1)) parts ++ fill depth ++ [closing]
    match v with
    | .undefined => return octets "null"
    | .int n => return number n
    | .real x => return realText x
    | .text o => return jsonText false o
    | .both _ o => return jsonText false o
    | .handle name => return jsonText false name.toList
    | .ref a =>
      match ← thingAt a with
      | .array items => do
        return around '[' ']' (← items.toList.mapM fun c => do jsonData style fuel (depth + 1) (← itemValue c))
      | .table entries => do
        let entries := if style.sorted then entries.mergeSort fun x y => textOrder x.1 y.1 != .gt else entries
        return around '\x7b' '\x7d' (← entries.mapM fun (k, c) => do
          let o ← jsonData style fuel (depth + 1) (← cellAt c)
          return jsonText false k ++ (if style.spaced then octets " : " else [':']) ++ o)
      | .cell inner => return octets (if isTrue inner then "true" else "false")
      | _ => die s!"cannot encode reference to scalar '{String.ofList (← textOf v)}' unless the scalar is 0 or 1"

/-- reads data at the start of a text; what follows them is given with them -/
def readData : Nat → Octets → Work (Value × Octets)
  | 0, _ => die "malformed JSON string, neither tag, array, object, number, string or atom"
  | fuel + 1, o => do
    let o := o.dropWhile isGap
    let malformed {α : Type} : Work α :=
      die "malformed JSON string, neither tag, array, object, number, string or atom, at character offset 0"
    match o with
    | '"' :: rest => do
      let (text, after) := readText (rest.length + 1) rest []
      return (.text text, after)
    | '[' :: rest => do
      let mut left := rest.dropWhile isGap
      let mut values : List Value := []
      if left.head? == some ']' then return (.ref (← newArray []), left.drop 1)
      for _ in [:o.length] do
        let (v, after) ← readData fuel left
        values := v :: values
        match after.dropWhile isGap with
        | ',' :: more => left := more
        | ']' :: more => return (.ref (← newArray values.reverse), more)
        | _ => die ", or ] expected while parsing array, at character offset 0"
      malformed
    | '\x7b' :: rest => do
      let mut left := rest.dropWhile isGap
      let mut values : List Value := []
      if left.head? == some '\x7d' then return (.ref (← allocate (.table [])), left.drop 1)
      for _ in [:o.length] do
        let (k, after) ← readData fuel left
        match after.dropWhile isGap with
        | ':' :: more => do
          let (v, after) ← readData fuel more
          values := v :: k :: values
          match after.dropWhile isGap with
          | ',' :: more => left := more
          | '\x7d' :: more => return (.ref (← allocate (.table (← tableEntries values.reverse))), more)
          | _ => die ", or \x7d expected while parsing object/hash, at character offset 0"
        | _ => die "':' expected, at character offset 0"
      malformed
    | o => do
      if (octets "true").isPrefixOf o then return (.int 1, o.drop 4)
      else if (octets "false").isPrefixOf o then return (.int 0, o.drop 5)
      else if (octets "null").isPrefixOf o then return (.undefined, o.drop 4)
      else
        let digits := o.takeWhile fun c => c.isDigit || "+-.eE".toList.contains c
        if digits.isEmpty then malformed else return ((numberIn digits).1, o.drop digits.length)
where
  /-- the text up to its closing quote -/
  readText : Nat → Octets → Octets → Octets × Octets
    | 0, o, done => (done.reverse, o)
    | fuel + 1, o, done =>
      match o with
      | '"' :: rest => (done.reverse, rest)
      | '\\' :: 'u' :: rest =>
        let n := (digitsIn 16 (rest.take 4)).1
        match rest.drop 4 with
        | '\\' :: 'u' :: more =>
          let m := (digitsIn 16 (more.take 4)).1
          if 0xD800 ≤ n && n < 0xDC00 then
            readText fuel (more.drop 4) (Char.ofNat (0x10000 + (n - 0xD800) * 0x400 + (m - 0xDC00)) :: done)
          else readText fuel (rest.drop 4) (Char.ofNat n :: done)
        | after => readText fuel after (Char.ofNat n :: done)
      | '\\' :: c :: rest => readText fuel rest (((match c with
          | 'n' => '\n'
          | 't' => '\t'
          | 'r' => '\r'
          | 'b' => '\x08'
          | 'f' => '\x0c'
          | c => c) : Char) :: done)
      | c :: rest => readText fuel rest (c :: done)
      | [] => (done.reverse, [])

/-! ## Paths -/

/-- a path without slashes at its end -/
def trimmedPath (o : Octets) : Octets :=
  let kept := (o.reverse.dropWhile (· == '/')).reverse
  if kept.isEmpty && !o.isEmpty then ['/'] else kept

/-- the last part of a path, and what stands in front of it -/
def pathEnd (o : Octets) : Octets × Octets :=
  let base := (o.reverse.takeWhile (· != '/')).reverse
  (o.take (o.length - base.length), base)

/-- the folder that a path lies in -/
def folderOf (o : Octets) : Octets :=
  let (folder, base) := pathEnd o
  if base.isEmpty && !folder.isEmpty then
    let (outer, _) := pathEnd (trimmedPath folder)
    if outer.isEmpty then (if trimmedPath folder == ['/'] then ['/'] else ['.']) else trimmedPath outer
  else if folder.isEmpty then ['.']
  else trimmedPath folder

/-- a path of parts -/
def joinedPath (parts : List Octets) : Octets :=
  let o := joinWith ['/'] (parts.filter fun p => !p.isEmpty)
  let o := if (parts.head?.any List.isEmpty) then '/' :: o else o
  -- slashes that follow each other are one, and parts that lead nowhere are left out
  let rec tidy : Octets → Octets
    | '/' :: '/' :: rest => tidy ('/' :: rest)
    | '/' :: '.' :: '/' :: rest => tidy ('/' :: rest)
    | c :: rest => c :: tidy rest
    | [] => []
  termination_by o => o.length
  tidy o

/-! ## Options -/

/-- an option that a program takes: its names, whether it has a value and of what kind, whether it can be given often or be
negated, and where it goes -/
structure OptionForm where
  names : List Octets
  kind : Option Char
  needed : Bool
  negatable : Bool
  counted : Bool
  listed : Bool
  target : Nat

/-- the form that a text tells -/
def optionForm (o : Octets) (target : Nat) : OptionForm :=
  let names := o.takeWhile fun c => c != '=' && c != ':' && c != '!' && c != '+'
  let rest := o.drop names.length
  let kind := match rest with
    | '=' :: c :: _ => some c
    | ':' :: c :: _ => some c
    | _ => none
  ⟨cutAt '|' names, kind, rest.head? == some '=', rest.head? == some '!', rest.head? == some '+',
    rest.contains '@' || rest.contains '%',
    target⟩

/-- takes options out of arguments; what is wrong is said -/
def takeOptions (ev : Evaluator) (forms : List OptionForm) : Nat → List Octets → List Octets → Bool → Work (List Octets × Bool)
  | 0, args, kept, ok => return (kept.reverse ++ args, ok)
  | fuel + 1, args, kept, ok => do
    match args with
    | [] => return (kept.reverse, ok)
    | ['-', '-'] :: rest => return (kept.reverse ++ rest, ok)
    | arg :: rest =>
      if arg.head? != some '-' || arg == ['-'] then takeOptions ev forms fuel rest (arg :: kept) ok
      else do
        let body := (arg.drop 1).drop (if arg[1]? == some '-' then 1 else 0)
        let name := body.takeWhile (· != '=')
        let given : Option Octets := if name.length < body.length then some (body.drop (name.length + 1)) else none
        let isNamed (f : OptionForm) (n : Octets) : Bool := f.names.any (· == n)
        let unique : Option OptionForm := match forms.filter fun f => f.names.any fun n => name.isPrefixOf n with
          | [f] => some f
          | _ => none
        let form? := (forms.find? fun f => isNamed f name).orElse fun _ => unique
        let negated? := forms.find? fun f =>
          f.negatable && (f.names.any fun n => octets "no" ++ n == name || octets "no-" ++ n == name)
        match form?, negated? with
        | none, some f => do
          setCell f.target (.int 0)
          takeOptions ev forms fuel rest kept ok
        | none, none => do
          writeErr (octets "Unknown option: " ++ name ++ ['\n'])
          takeOptions ev forms fuel rest kept false
        | some f, _ => do
          let put (v : Value) : Work Unit := do
            match ← thingAt f.target with
            | .array items => do
              let a ← newCell v
              update f.target (.array (items.push a))
            | .table _ => do
              let o ← textOf v
              let key := o.takeWhile (· != '=')
              setCell (← entrySlot f.target key) (if key.length < o.length then .text (o.drop (key.length + 1)) else .int 1)
            | .function _ => do
              let _ ← ev.apply f.target [← newCell (.text (f.names.headD [])), ← newCell v] .nothing
            | _ => do
              if f.listed then
                let before ← cellAt f.target
                match before with
                | .ref list => do
                  let a ← newCell v
                  changeArray list fun items => items.push a
                | _ => setCell f.target (.ref (← newArray [v]))
              else setCell f.target v
          match f.kind with
          | none => do
            if f.counted then
              let n ← intOf (← cellAt f.target)
              setCell f.target (.int (n + 1))
            else put (.int 1)
            takeOptions ev forms fuel rest kept ok
          | some kind => do
            let (v?, rest) : Option Octets × List Octets := match given, rest with
              | some o, rest => (some o, rest)
              | none, o :: more =>
                if !f.needed && o.head? == some '-' then (none, rest) else (some o, more)
              | none, [] => (none, [])
            match v? with
            | none => do
              if f.needed then
                writeErr (octets "Option " ++ name ++ octets " requires an argument\n")
                takeOptions ev forms fuel rest kept false
              else do
                put (if kind == 'i' then .int 0 else .text [])
                takeOptions ev forms fuel rest kept ok
            | some o => do
              let (n, whole) := numberIn o
              if (kind == 'i' || kind == 'f') && !whole then
                writeErr (octets "Value \"" ++ o ++ octets "\" invalid for option " ++ name ++ octets " ("
                  ++ octets (if kind == 'i' then "number" else "real number") ++ octets " expected)\n")
                takeOptions ev forms fuel rest kept false
              else do
                put (if kind == 'i' || kind == 'f' then n else .text o)
                takeOptions ev forms fuel rest kept ok

/-! ## By name -/

/-- a flag of an object that is a table -/
def flagOf (object : Nat) (name : String) : Work Bool := do
  match ← entrySlot? object name.toList with
  | some a => return isTrue (← cellAt a)
  | none => return false

/-- how deep data may lie in each other -/
def dataDepth : Nat := 200

/-- applies a function of a module -/
def nativeFunction (ev : Evaluator) (name : String) (args : List Nat) (want : Want) : Work (List Value) := do
  let values ← args.mapM cellAt
  let first := values.headD .undefined
  let second := values.getD 1 .undefined
  let code : Work Nat := do
    match ← referred '&' first false with
    | some f => return f
    | none => die "Not a subroutine reference"
  let one (v : Value) : Work (List Value) := return [v]
  let texts (pick : Ordering → Bool) : Work (List Value) := do
    one (← foldValues (fun a b => do return if pick (textOrder (← textOf a) (← textOf b)) then a else b) values)
  let numbers (pick : Ordering → Bool) : Work (List Value) := do
    let found ← foldValues (fun a b => do
      return if ((numberOrder? (← numberOf a) (← numberOf b)).map pick).getD true then a else b) values
    match found with
    | .undefined => one .undefined
    | v => do one (← numberOf v)
  let listed (all : List Value) : Work (List Value) := return if want == .many then all else [.int all.length]
  let real (f : Float → Float) : Work (List Value) := do one (settled (.real (.ofFloat (f (realOf (← numberOf first)).toFloat))))
  match name with
  | "List::Util::first" => do
    match ← firstCell? ev (← code) true (args.drop 1) with
    | some a => do one (← cellAt a)
    | none => one .undefined
  | "List::Util::any" => do one (truthValue (← firstCell? ev (← code) true (args.drop 1)).isSome)
  | "List::Util::none" => do one (truthValue (← firstCell? ev (← code) true (args.drop 1)).isNone)
  | "List::Util::all" => do one (truthValue (← firstCell? ev (← code) false (args.drop 1)).isNone)
  | "List::Util::notall" => do one (truthValue (← firstCell? ev (← code) false (args.drop 1)).isSome)
  | "List::Util::sum" => do
    if values.isEmpty then one .undefined
    else do one (← values.foldlM (fun a b => applyBinary "+" a b) (.int 0))
  | "List::Util::sum0" => do one (← values.foldlM (fun a b => applyBinary "+" a b) (.int 0))
  | "List::Util::product" => do one (← values.foldlM (fun a b => applyBinary "*" a b) (.int 1))
  | "List::Util::min" => numbers (· != .gt)
  | "List::Util::max" => numbers (· != .lt)
  | "List::Util::minstr" => texts (· != .gt)
  | "List::Util::maxstr" => texts (· != .lt)
  | "List::Util::reduce" => do
    let f ← code
    let package := (← get).package
    let rec go : List Nat → Nat → Work Value
      | [], done => cellAt done
      | a :: rest, done => do
        let v ← withNames [(package ++ "::a", done), (package ++ "::b", a)] (callOne ev f [])
        go rest (← newCell v)
    match args.drop 1 with
    | [] => one .undefined
    | a :: rest => do one (← go rest a)
  | "List::Util::shuffle" => return values
  | "List::Util::uniq" | "List::Util::uniqstr" => do listed (← withoutRepeats values textOf)
  | "List::Util::uniqnum" | "List::Util::uniqint" => do
    listed (← withoutRepeats values fun v => do textOf (settled (← numberOf v)))
  | "List::Util::pairs" => do
    let rec inPairs : List Value → Work (List Value)
      | a :: b :: rest => do
        let pair ← newArray [a, b]
        modify fun w => { w with blessed := w.blessed.insert pair "List::Util::_Pair" }
        return .ref pair :: (← inPairs rest)
      | [a] => do return [.ref (← newArray [a, .undefined])]
      | [] => return []
    listed (← inPairs values)
  | "List::Util::pairkeys" => listed ((values.zipIdx.filter fun p => p.2 % 2 = 0).map Prod.fst)
  | "List::Util::pairvalues" => listed ((values.zipIdx.filter fun p => p.2 % 2 = 1).map Prod.fst)
  | "List::Util::head" => do
    let n ← intOf first
    let rest := values.drop 1
    listed (if 0 ≤ n then rest.take n.toNat else rest.take (rest.length - n.natAbs))
  | "List::Util::tail" => do
    let n ← intOf first
    let rest := values.drop 1
    listed (if 0 ≤ n then rest.drop (rest.length - n.toNat) else rest.drop n.natAbs)
  | "Scalar::Util::blessed" => do
    match first with
    | .ref a =>
      match (← get).blessed.get? a with
      | some p => one (textValue p)
      | none => match ← thingAt a with
        | .pattern .. => one (textValue "Regexp")
        | _ => one .undefined
    | _ => one .undefined
  | "Scalar::Util::reftype" => do
    match first with
    | .ref a => do one (textValue (← kindOf a))
    | _ => one .undefined
  | "Scalar::Util::refaddr" => do
    match first with
    | .ref _ => do one (← numberOf first)
    | _ => one .undefined
  | "Scalar::Util::looks_like_number" => do
    match first with
    | .undefined => one (.text [])
    | .text o => one (truthValue (!o.isEmpty && (numberIn o).2))
    | .ref _ => one (.text [])
    | _ => one (.int 1)
  | "Scalar::Util::weaken" => return []
  | "Scalar::Util::readonly" => one (.int 0)
  | "Scalar::Util::dualvar" => one second
  | "POSIX::floor" => real Float.floor
  | "POSIX::ceil" => real Float.ceil
  | "POSIX::round" => real Float.round
  | "POSIX::trunc" => do one (settled (.real (realOf (← numberOf first)).truncate))
  | "POSIX::abs" => real Float.abs
  | "POSIX::fmod" => do one (settled (.real ((realOf (← numberOf first)).rem (realOf (← numberOf second)))))
  | "POSIX::pow" => do one (settled (.real ((realOf (← numberOf first)).pow (realOf (← numberOf second)))))
  | "POSIX::fmin" => numbers (· != .gt)
  | "POSIX::fmax" => numbers (· != .lt)
  | "POSIX::strtol" => do
    let base ← if values.length < 2 then pure 10 else sizeOf second
    let o := (← textOf first).dropWhile isGap
    let (negative, body) := signOf o
    let body := if base = 16 && ((octets "0x").isPrefixOf body) then body.drop 2 else body
    let (n, count) := digitsIn base body
    let n : Int := if negative then -(n : Int) else n
    if want == .many then return [.int n, .int (body.length - count)] else one (.int n)
  | "POSIX::strtod" => do one (numberIn (← textOf first)).1
  | "POSIX::isatty" => one (.text [])
  | "POSIX::INT_MAX" => one (.int 2147483647)
  | "POSIX::INT_MIN" => one (.int (-2147483648))
  | "POSIX::UINT_MAX" => one (.int 4294967295)
  | "POSIX::LONG_MAX" => one (.int 9223372036854775807)
  | "POSIX::LONG_MIN" => one (.int (-9223372036854775808))
  | "POSIX::DBL_MAX" => do one (numberIn (octets "1.7976931348623157e308")).1
  | "POSIX::DBL_MIN" => do one (numberIn (octets "2.2250738585072014e-308")).1
  | "POSIX::DBL_EPSILON" => do one (numberIn (octets "2.220446049250313e-16")).1
  | "POSIX::EXIT_SUCCESS" => one (.int 0)
  | "POSIX::EXIT_FAILURE" => one (.int 1)
  | "POSIX::toupper" => do one (.text (recased .upper (← textOf first)))
  | "POSIX::tolower" => do one (.text (recased .lower (← textOf first)))
  | "POSIX::_exit" => do throw (.halted (← sizeOf first))
  | "POSIX::strftime" => do
    let parts ← (values.drop 1).mapM intOf
    let at_ (i : Nat) : Int := parts.getD i 0
    let days := daysTo (at_ 5 + 1900 + Int.fdiv (at_ 4) 12) (Int.fmod (at_ 4) 12 + 1) 1 + at_ 3 - 1
    one (.text (timeLayout (timeParts (days * 86400 + at_ 2 * 3600 + at_ 1 * 60 + at_ 0)) (← textOf first)))
  | "Time::Local::timegm" | "Time::Local::timelocal" => do
    let parts ← values.mapM intOf
    let at_ (i : Nat) : Int := parts.getD i 0
    let year := if at_ 5 < 1000 then at_ 5 + 1900 else at_ 5
    one (.int (daysTo year (at_ 4 + 1) (at_ 3) * 86400 + at_ 2 * 3600 + at_ 1 * 60 + at_ 0))
  | "Time::HiRes::time" => one (.int timeNow)
  | "Time::HiRes::sleep" | "Time::HiRes::usleep" => one first
  | "Data::Dumper::Dumper" => do
    let setting (name : String) (otherwise : Nat) : Work Nat := do
      match (← get).globals.get? ("$Data::Dumper::" ++ name) with
      | some a => match ← cellAt a with
        | .undefined => return otherwise
        | v => sizeOf v
      | none => return otherwise
    let indent ← setting "Indent" 2
    let style : ShowStyle := ⟨min indent 2, (← setting "Sortkeys" 0) != 0⟩
    let terse := (← setting "Terse" 0) != 0
    let rows ← values.zipIdx.mapM fun (v, i) => do
      let head := if terse then [] else octets s!"$VAR{i + 1} = "
      let o ← showData style dataDepth (if indent = 2 then head.length else 0) v
      return head ++ o ++ (if terse then [] else [';']) ++ (if indent = 0 && !terse then [] else ['\n'])
    one (.text rows.flatten)
  | "File::Basename::basename" => do
    let base := (pathEnd (trimmedPath (← textOf first))).2
    let base := if base.isEmpty then ['/'] else base
    let suffixes ← (values.drop 1).mapM textOf
    let kept := suffixes.findSome? fun s =>
      if s.isSuffixOf base && s.length < base.length then some (base.take (base.length - s.length)) else none
    one (.text (kept.getD base))
  | "File::Basename::dirname" => do one (.text (folderOf (← textOf first)))
  | "File::Basename::fileparse" => do
    let (folder, base) := pathEnd (← textOf first)
    let folder := if folder.isEmpty then ['.', '/'] else folder
    let mut base := base
    let mut suffix : Octets := []
    for s in values.drop 1 do
      if suffix.isEmpty then
        let e ← match s with
          | .ref a => match ← thingAt a with
            | .pattern _ e => pure e
            | _ => compile (← textOf s) ""
          | s => compile (← textOf s) ""
        let subject : Branching.Subject := ⟨base.toArray, 0⟩
        match e.node.search subject (fun after => after.place = base.length) 0 with
        | some spot => do
          suffix := base.drop spot.start
          base := base.take spot.start
        | none => pure ()
    if want == .many then return [.text base, .text folder, .text suffix] else one (.text base)
  | "Cwd::cwd" | "Cwd::getcwd" => do one (.text (Shell.placeText (← get).files.here))
  | "Cwd::abs_path" | "Cwd::realpath" => do
    let o ← if values.isEmpty then pure ['.'] else textOf first
    let files := (← get).files
    match files.locate (pathOf o) true with
    | .ok (.found names) => one (textValue ("/" ++ String.intercalate "/" names))
    | _ => one .undefined
  | "Carp::croak" | "Carp::confess" => do
    match values with
    | [.ref a] => dieWith ev (.ref a)
    | values => do
      let o := (← values.mapM textOf).flatten
      if o.getLast? == some '\n' then dieWith ev (.text o) else dieWith ev (.text (o ++ (← callerPlace)))
  | "Carp::carp" | "Carp::cluck" => do
    let o := (← values.mapM textOf).flatten
    warnWith ev (.text (o ++ (← callerPlace)))
    one (.int 1)
  | "Encode::encode_utf8" => do one (.text (bytesOf true (← textOf first)).1)
  | "Encode::decode_utf8" => do one (.text (charactersOf (← textOf first)))
  | "Encode::encode" => do
    let coding := (String.ofList (← textOf first)).toLower
    let o ← textOf second
    if coding.startsWith "utf" then one (.text (bytesOf true o).1)
    else one (.text (o.map fun c => if c.toNat < (if coding == "ascii" then 128 else 256) then c else '?'))
  | "Encode::decode" => do
    let coding := (String.ofList (← textOf first)).toLower
    if coding.startsWith "utf" then one (.text (charactersOf (← textOf second))) else one second
  | "UNIVERSAL::isa" => do
    let other := String.ofList (← textOf second)
    match first with
    | .ref a => do
      let bases ← match (← get).blessed.get? a with
        | some p => linesOf baseDepth p
        | none => pure []
      one (truthValue (bases.contains other || (← kindOf a) == other))
    | v => do one (truthValue ((← linesOf baseDepth (String.ofList (← textOf v))).contains other))
  | "utf8::encode" => do
    match args with
    | a :: _ => setCell a (.text (bytesOf true (← textOf first)).1)
    | [] => pure ()
    return []
  | "utf8::decode" => do
    match args with
    | a :: _ => setCell a (.text (charactersOf (← textOf first)))
    | [] => pure ()
    one (.int 1)
  | "utf8::upgrade" | "utf8::downgrade" | "utf8::valid" => one (.int 1)
  | "utf8::is_utf8" => do one (truthValue ((← textOf first).any fun c => 255 < c.toNat))
  | "JSON::PP::encode_json" => do
    one (.text (bytesOf true (← jsonData ⟨false, false, false⟩ dataDepth 0 first)).1)
  | "JSON::PP::decode_json" => do
    let (v, rest) ← readData dataDepth (charactersOf (← textOf first))
    if rest.all isGap then one v else die "garbage after JSON object, at character offset 0"
  | "MIME::Base64::encode_base64" => do
    let letters := encodeSextets (← textOf first)
    let ends ← if values.length < 2 then pure ['\n'] else textOf second
    let rows := wrapped 76 (letters.length + 1) letters
    one (.text (if ends == ['\n'] then (if rows.getLast? == some '\n' || rows.isEmpty then rows else rows ++ ['\n'])
      else letters))
  | "MIME::Base64::decode_base64" => do
    one (.text (decodeSextets ((← textOf first).filter fun c => sextets.contains c || c == '=')).1)
  | "Digest::MD5::md5_hex" => digest .md5 values
  | "Digest::SHA::sha1_hex" => digest .sha1 values
  | "Digest::SHA::sha224_hex" => digest .sha224 values
  | "Digest::SHA::sha256_hex" => digest .sha256 values
  | "Digest::SHA::sha384_hex" => digest .sha384 values
  | "Digest::SHA::sha512_hex" => digest .sha512 values
  | "Text::ParseWords::shellwords" => do
    let o := (← values.mapM textOf).flatten
    return (wordsOf (o.length + 1) o [] none).map Value.text
  | "Getopt::Long::GetOptions" => do
    let argv ← globalSlot '@' "ARGV"
    let words ← (← valuesOf argv).mapM textOf
    let table? ← match first with
      | .ref a => match ← thingAt a with
        | .table _ => pure (some a)
        | _ => pure none
      | _ => pure none
    let forms ← match table? with
      | some table => (values.drop 1).mapM fun v => do
        let o ← textOf v
        let names := o.takeWhile fun c => c != '|' && c != '=' && c != ':' && c != '!' && c != '+'
        return optionForm o (← entrySlot table names)
      | none => do
        let rec pairs : List Value → Work (List OptionForm)
          | o :: .ref a :: rest => do return optionForm (← textOf o) a :: (← pairs rest)
          | _ => return []
        pairs values
    let (kept, ok) ← takeOptions ev forms (words.length + 1) words [] true
    setArray argv (kept.map Value.text)
    one (truthValue ok)
  | name => die s!"Undefined subroutine &{name} called"
where
  /-- the sum of texts, in digits -/
  digest (kind : DigestKind) (values : List Value) : Work (List Value) := do
    return [.text (inSixteen (kind.digest (← values.mapM textOf).flatten))]
  /-- the place from where the running function was called -/
  callerPlace : Work Octets := do
    match (← get).frames with
    | f :: _ => return octets s!" at {f.file} line {f.line}.\n"
    | [] => placeWords
  /-- the words of a command -/
  wordsOf : Nat → Octets → Octets → Option Char → List Octets
    | 0, _, word, _ => if word.isEmpty then [] else [word.reverse]
    | fuel + 1, o, word, quote =>
      match o, quote with
      | [], _ => if word.isEmpty then [] else [word.reverse]
      | c :: rest, some q =>
        if c == q then wordsOf fuel rest word none
        else match c, rest with
          | '\\', d :: more => if q == '"' then wordsOf fuel more (d :: word) quote else wordsOf fuel rest (c :: word) quote
          | c, _ => wordsOf fuel rest (c :: word) quote
      | '\\' :: d :: rest, none => wordsOf fuel rest (d :: word) none
      | c :: rest, none =>
        if c == '"' || c == '\'' then wordsOf fuel rest word (some c)
        else if isGap c then (if word.isEmpty then [] else [word.reverse]) ++ wordsOf fuel rest [] none
        else wordsOf fuel rest (c :: word) none

end ScriptBridge.Shell.SigilScript
