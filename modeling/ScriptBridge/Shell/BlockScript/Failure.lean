/-
How failures are shown that a program does not handle: the places that they came through with the lines there, the marks
below what is to blame, and names that may have been meant.
-/
import ScriptBridge.Shell.BlockScript.Call
import ScriptBridge.Shell.BlockScript.Token

namespace ScriptBridge.Shell.BlockScript

/-! ## Names that may have been meant -/

/-- what it costs to take one character for another one -/
def exchangeCost (a b : Char) : Nat := if a == b then 0 else if a.toLower == b.toLower then 1 else 2

/-- the cost to make one name of another one -/
def nameDistance (a b : List Char) : Nat :=
  let first := (List.range (b.length + 1)).map (2 * ·)
  let last := a.foldl (fun row c =>
    let start := row.headD 0 + 2
    let cells := (row.zip (row.drop 1)).zip b
    (cells.foldl (fun (acc : List Nat) ((corner, above), d) =>
      min (corner + exchangeCost c d) (min (above + 2) (acc.headD 0 + 2)) :: acc) [start]).reverse) first
  (last.getLast?).getD 0

/-- the name that was meant, of several ones -/
def meantName? (name : String) (candidates : List String) : Option String :=
  let limit (item : String) : Nat := (name.length + item.length + 3) * 2 / 6
  (candidates.foldl (fun (best : Option (String × Nat)) item =>
    if item == name || item.length > 40 || name.length > 40 then best
    else
      let d := nameDistance name.toList item.toList
      let bound := match best with
        | some (_, n) => min (limit item) (n - 1)
        | none => limit item
      if d ≤ bound && best.all (fun b => d < b.2) then some (item, d) else best) none).map Prod.fst

/-- the names of what is built in, in the order in which they are looked through -/
def builtinOrder : List String :=
  ["abs", "all", "any", "ascii", "bin", "breakpoint", "callable", "chr", "compile", "delattr", "dir", "divmod", "eval",
    "exec", "format", "getattr", "globals", "hasattr", "hash", "hex", "id", "input", "isinstance", "issubclass", "iter",
    "aiter", "len", "locals", "max", "min", "next", "anext", "oct", "ord", "pow", "print", "repr", "round", "setattr",
    "sorted", "sum", "vars", "None", "Ellipsis", "NotImplemented", "False", "True", "bool", "memoryview", "bytearray",
    "bytes", "classmethod", "complex", "dict", "enumerate", "filter", "float", "frozenset", "property", "int", "list", "map",
    "object", "range", "reversed", "set", "slice", "staticmethod", "str", "super", "tuple", "type", "zip", "__debug__"]
  ++ (builtinNames.filter isExceptionKind) ++ ["EnvironmentError", "IOError", "open", "quit", "exit", "copyright", "credits",
    "license", "help"]

/-- what is added to a failure about a name -/
def nameAdvice (globals : List String) (e : Value) : Work String := do
  let attributes ← objectAttributes e
  let name := match attribute? "name" attributes with
    | some (.text n) => String.ofList n
    | _ => ""
  if name.isEmpty then return ""
  match ← exceptionName e with
  | "NameError" =>
    let locals := match attribute? " locals" attributes with
      | some (.tuple names) => names.filterMap fun v => match v with
        | .text n => some (String.ofList n)
        | _ => none
      | _ => []
    let known := moduleNames.contains name && !name.contains '.'
    match ((meantName? name locals).orElse fun _ => meantName? name globals).orElse fun _ => meantName? name builtinOrder with
    | some n =>
      return if known then s!". Did you mean: '{n}'? Or did you forget to import '{name}'?" else s!". Did you mean: '{n}'?"
    | none => return if known then s!". Did you forget to import '{name}'?" else ""
  | "AttributeError" => do
    let names ← namesIn ((attribute? "obj" attributes).getD .none)
    match meantName? name (names.mergeSort fun a b => a ≤ b) with
    | some n => return s!". Did you mean: '{n}'?"
    | none => return ""
  | _ => return ""

/-! ## Places -/

/-- the marks below a line -/
def marksBelow (line : Characters) (s : Span) : Characters :=
  let indent := (line.takeWhile fun c => c == ' ' || c == '\t' || c == '\x0c').length
  let shown := line.drop indent
  let lastSolid := (dropEndWhile isSpaceChar line).length
  let (stop, anchor) := if s.endLine = s.line then (s.stop, s.anchor) else (lastSolid, none)
  if anchor.isNone && stop - s.start = shown.length then []
  else
    let marks := (List.range (stop - s.start)).map fun i =>
      match anchor with
      | some (a, b) => if a ≤ s.start + i && s.start + i < b then '^' else '~'
      | none => '^'
    "    ".toList ++ List.replicate (s.start - indent) ' ' ++ marks ++ ['\n']

/-- a place with its line -/
def tracedRow (file : Characters) (lines : List Characters) (p : Place) : Characters :=
  let line := p.span.line
  let name := p.name
  s!"  File \"{String.ofList file}\", line {line}, in {name}\n".toList ++
    match lines[line - 1]? with
    | some o =>
      let shown := dropStartWhile (fun c => c == ' ' || c == '\t' || c == '\x0c') o
      if shown.isEmpty then [] else "    ".toList ++ shown ++ '\n' :: marksBelow o p.span
    | none => []

/-- places; those that come again and again are counted -/
def tracedRows (file : Characters) (lines : List Characters) : Option (Nat × String) → Nat → List Place → Characters
  | _, count, [] => more count
  | last, count, p :: rest =>
    if last == some (p.span.line, p.name) then
      let shown := if count < 3 then tracedRow file lines p else []
      shown ++ tracedRows file lines last (count + 1) rest
    else more count ++ tracedRow file lines p ++ tracedRows file lines (some (p.span.line, p.name)) 1 rest
where
  /-- how often a place came again without being shown -/
  more (count : Nat) : Characters :=
    if count ≤ 3 then []
    else
      let times := if count = 4 then "time" else "times"
      s!"  [Previous line repeated {count - 3} more {times}]\n".toList

/-! ## Failures -/

/-- a failure with all that led to it -/
def failureText (call : Caller) (file : Characters) (lines : List Characters) (globals : List String) :
    Nat → Value → List Place → Work Characters
  | 0, _, _ => return []
  | fuel + 1, e, trace => do
    let attributes ← objectAttributes e
    let traceOf (v : Value) : Work (List Place) := do
      match v with
      | .ref a => return ((← get).traces.lookup a).getD []
      | _ => return []
    let before ← match attribute? " cause" attributes, attribute? " context" attributes with
      | some .none, _ => pure []
      | some c, _ => do
        let text ← failureText call file lines globals fuel c (← traceOf c)
        pure (text ++ "\nThe above exception was the direct cause of the following exception:\n\n".toList)
      | none, some c => do
        let text ← failureText call file lines globals fuel c (← traceOf c)
        pure (text ++ "\nDuring handling of the above exception, another exception occurred:\n\n".toList)
      | none, none => pure []
    let name ← exceptionName e
    let message ← tryCatch (shown call e) fun _ => return "<exception str() failed>".toList
    let advice ← nameAdvice globals e
    let heading := if trace.isEmpty then [] else "Traceback (most recent call last):\n".toList
    let places := tracedRows file lines none 0 trace
    let last := if message.isEmpty && advice.isEmpty then name.toList else name.toList ++ [':', ' '] ++ message ++ advice.toList
    return before ++ heading ++ places ++ last ++ ['\n']

/-- a fault that lies at the end of a program; in one that was given as a text, the place itself is marked -/
def endFaultText (file text : Characters) (f : Fault) : Characters :=
  let given : Bool := file == "<string>".toList
  let isClosed : Bool := text.getLast? == some '\n'
  -- a program that was given as a text had its last end of line added
  let text := if given && isClosed then text.dropLast else text
  let rows := cutBy ['\n'] (text.length + 1) none text []
  let rows := if given || !isClosed then rows else rows.dropLast
  let row := rows.getLastD []
  let body := row.dropWhile fun c => c == ' ' || c == '\t' || c == '\x0c'
  let marks := if given then "    ".toList ++ List.replicate body.length ' ' ++ ['^', '\n'] else []
  s!"  File \"{String.ofList file}\", line {rows.length}\n    ".toList ++ body ++ '\n' :: marks
    ++ s!"{f.kind}: {f.message}\n".toList

/-- a fault in the form of a program -/
def faultText (file : Characters) (lines : List Characters) (f : Fault) : Characters :=
  let line := f.line
  let heading := s!"  File \"{String.ofList file}\", line {line}\n".toList
  let shown := match lines[line - 1]? with
    | some o =>
      let indent := (o.takeWhile fun c => c == ' ' || c == '\t' || c == '\x0c').length
      let body := o.drop indent
      if body.isEmpty then []
      else
        let isUnmarked : Bool := f.message == "unexpected indent" || f.start < indent
          || (f.kind == "IndentationError" && f.stop = f.start)
        let marks := if isUnmarked then []
          else "    ".toList ++ List.replicate (f.start - indent) ' ' ++ List.replicate (max 1 (f.stop - f.start)) '^' ++ ['\n']
        "    ".toList ++ body ++ '\n' :: marks
    | none => []
  heading ++ shown ++ s!"{f.kind}: {f.message}\n".toList

end ScriptBridge.Shell.BlockScript
