/-
What modules do with texts: searching them, writing values in the form of data exchange and reading them, filling
paragraphs, and coding bytes.
-/
import ScriptBridge.Shell.BlockScript.Builtin
import ScriptBridge.Shell.Digest
import ScriptBridge.Shell.Dump

namespace ScriptBridge.Shell.BlockScript

/-! ## Data as text -/

/-- a text between quotes, as data -/
def dataText (ascii : Bool) (o : Characters) : Characters :=
  '"' :: o.flatMap escaped ++ ['"']
where
  /-- a character of it -/
  escaped (c : Char) : Characters :=
    match c with
    | '"' => ['\\', '"']
    | '\\' => ['\\', '\\']
    | '\n' => ['\\', 'n']
    | '\r' => ['\\', 'r']
    | '\t' => ['\\', 't']
    | '\x08' => ['\\', 'b']
    | '\x0c' => ['\\', 'f']
    | c =>
      if c.toNat < 32 then '\\' :: 'u' :: hexDigits 4 c.toNat
      else if ascii && 127 ≤ c.toNat then
        if c.toNat < 0x10000 then '\\' :: 'u' :: hexDigits 4 c.toNat
        else
          let n := c.toNat - 0x10000
          '\\' :: 'u' :: hexDigits 4 (0xD800 + n / 1024) ++ '\\' :: 'u' :: hexDigits 4 (0xDC00 + n % 1024)
      else [c]

/-- how data is written: the step of the indentation, what stands between items and after keys, whether keys are sorted,
whether other letters are escaped, and what makes data of other values -/
structure DataForm where
  indent : Option Characters
  between : Characters
  afterKey : Characters
  sorted : Bool
  ascii : Bool
  default : Value

/-- a real number as data -/
def dataReal (x : Extended) : Characters :=
  match x with
  | .infinite negative => (if negative then "-Infinity" else "Infinity").toList
  | .notANumber => "NaN".toList
  | x => realRepr x

/-- a key as data -/
def dataKey (v : Value) : Work (Option Characters) := do
  match v with
  | .text o => return some o
  | .int n => return some (toString n).toList
  | .bool b => return some (if b then "true" else "false").toList
  | .none => return some "null".toList
  | .real x => return some (dataReal x)
  | _ => do
    let kind ← typeName v
    typeError s!"keys must be str, int, float, bool or None, not {kind}"

/-- items between marks, with line ends and indentation where they are wanted -/
def dataBlock (f : DataForm) (level : Nat) (opening closing : Char) (items : List Characters) : Characters :=
  if items.isEmpty then [opening, closing]
  else match f.indent with
    | none => opening :: (List.intersperse f.between items).flatten ++ [closing]
    | some step =>
      let line (n : Nat) : Characters := '\n' :: (List.replicate n step).flatten
      opening :: line (level + 1) ++ (List.intersperse (f.between ++ line (level + 1)) items).flatten ++ line level ++ [closing]

/-- a value as data -/
def dataOf (call : Caller) (f : DataForm) : Nat → Nat → Value → Work Characters
  | 0, _, _ => valueError "Circular reference detected"
  | fuel + 1, level, v => do
    match v with
    | .none => return "null".toList
    | .bool b => return (if b then "true" else "false").toList
    | .int n => return (toString n).toList
    | .real x => return dataReal x
    | .text o => return dataText f.ascii o
    | .tuple items => do return dataBlock f level '[' ']' (← items.mapM (dataOf call f fuel (level + 1)))
    | v =>
      match ← thing? v with
      | some (.list items) => do return dataBlock f level '[' ']' (← items.mapM (dataOf call f fuel (level + 1)))
      | some (.dict _ _ entries) => do
        let keyed ← entries.mapM fun (k, v) => do return (((← dataKey k).getD []), v)
        let keyed := if f.sorted then keyed.mergeSort fun a b => textOrder a.1 b.1 != .gt else keyed
        let items ← keyed.mapM fun (k, v) => do
          return dataText f.ascii k ++ f.afterKey ++ (← dataOf call f fuel (level + 1) v)
        return dataBlock f level '\x7b' '\x7d' items
      | _ =>
        match f.default with
        | .none => do
          let kind ← typeName v
          typeError s!"Object of type {kind} is not JSON serializable"
        | g => do dataOf call f fuel level (← call g [v] [])

/-- the form that is asked for -/
def dataForm (call : Caller) (named : List (String × Value)) : Work DataForm := do
  let flag (name : String) (usual : Bool) : Work Bool := do
    match named.lookup name with
    | some v => isTrue call v
    | none => return usual
  let indent : Option Characters := match named.lookup "indent" with
    | some (.int n) => some (List.replicate n.toNat ' ')
    | some (.text o) => some o
    | _ => none
  let (between, afterKey) : Characters × Characters := match named.lookup "separators" with
    | some (.tuple [.text a, .text b]) => (a, b)
    | _ => (if indent.isSome then [','] else [',', ' '], [':', ' '])
  return ⟨indent, between, afterKey, ← flag "sort_keys" false, ← flag "ensure_ascii" true,
    (named.lookup "default").getD .none⟩

/-- raises that a text is no data -/
def raiseData {α : Type} (all : Array Char) (message : String) (place : Nat) : Work α := do
  let before := (all.extract 0 place).toList
  let line := (before.filter (· == '\n')).length + 1
  let column := (before.reverse.takeWhile (· != '\n')).length + 1
  let shown := message ++ s!": line {line} column {column} (char {place})"
  let e ← allocate (.instanceOf (.builtin "json.JSONDecodeError") [("args", .tuple [textValue shown]),
    ("msg", textValue message), ("lineno", .int line), ("colno", .int column), ("pos", .int place),
    ("doc", .text all.toList)])
  throw (.raised e [])

/-- a place after blanks -/
def afterBlanks (all : Array Char) : Nat → Nat → Nat
  | 0, i => i
  | fuel + 1, i => match all[i]? with
    | some c => if c == ' ' || c == '\t' || c == '\n' || c == '\r' then afterBlanks all fuel (i + 1) else i
    | none => i

/-- reads the rest of a text after its quote -/
def readDataText (all : Array Char) (start : Nat) : Nat → Nat → Characters → Work (Characters × Nat)
  | 0, _, _ => raiseData all "Unterminated string starting at" start
  | fuel + 1, i, done => do
    match all[i]? with
    | none => raiseData all "Unterminated string starting at" start
    | some '"' => return (done.reverse, i + 1)
    | some '\\' => do
      let four (at_ : Nat) : Option Nat :=
        let digits := (all.extract at_ (at_ + 4)).toList
        if digits.length = 4 && digits.all (fun c => (digitOf? 16 c).isSome) then some (digitsIn 16 digits).1 else none
      match all[i + 1]? with
      | none => raiseData all "Unterminated string starting at" start
      | some 'u' =>
        match four (i + 2) with
        | none => raiseData all "Invalid \\uXXXX escape" (i + 2)
        | some n =>
          match if 0xD800 ≤ n && n < 0xDC00 && all[i + 6]? == some '\\' && all[i + 7]? == some 'u' then four (i + 8)
            else none with
          | some m =>
            if 0xDC00 ≤ m && m < 0xE000 then
              readDataText all start fuel (i + 12) (Char.ofNat (0x10000 + (n - 0xD800) * 1024 + (m - 0xDC00)) :: done)
            else readDataText all start fuel (i + 6) (charOf n :: done)
          | none => readDataText all start fuel (i + 6) (charOf n :: done)
      | some c =>
        let meant : Option Char := match c with
          | '"' => some '"'
          | '\\' => some '\\'
          | '/' => some '/'
          | 'b' => some '\x08'
          | 'f' => some '\x0c'
          | 'n' => some '\n'
          | 'r' => some '\r'
          | 't' => some '\t'
          | _ => none
        match meant with
        | some d => readDataText all start fuel (i + 2) (d :: done)
        | none => raiseData all "Invalid \\escape" i
    | some c =>
      if c.toNat < 32 then raiseData all "Invalid control character at" i
      else readDataText all start fuel (i + 1) (c :: done)
where
  /-- the character of a number; half of a pair has a place of its own -/
  charOf (n : Nat) : Char := if 0xD800 ≤ n && n < 0xE000 then Char.ofNat (0x10F800 + (n - 0xD800)) else Char.ofNat n

/-- reads a number; nothing where there is none -/
def readDataNumber (all : Array Char) (i : Nat) : Option (Value × Nat) :=
  let rest := (all.extract i all.size).toList
  let sign := if rest.head? == some '-' then 1 else 0
  let o := rest.drop sign
  let whole := o.takeWhile Char.isDigit
  let whole := if whole.head? == some '0' then ['0'] else whole
  if whole.isEmpty then none
  else
    let after := o.drop whole.length
    let fraction := match after with
      | '.' :: more => if (more.head?.any Char.isDigit) then '.' :: more.takeWhile Char.isDigit else []
      | _ => []
    let after := after.drop fraction.length
    let exponent := match after with
      | e :: more =>
        let signs := (more.takeWhile fun c => c == '+' || c == '-').take 1
        let digits := (more.drop signs.length).takeWhile Char.isDigit
        if (e == 'e' || e == 'E') && !digits.isEmpty then e :: signs ++ digits else []
      | [] => []
    let text := rest.take sign ++ whole ++ fraction ++ exponent
    let value : Value := if fraction.isEmpty && exponent.isEmpty then
        .int ((readInt 10 text).getD 0)
      else .real ((readReal text).getD .zero)
    some (value, i + text.length)

mutual

/-- reads a value -/
def readDataValue (all : Array Char) : Nat → Nat → Work (Value × Nat)
  | 0, i => raiseData all "Expecting value" i
  | fuel + 1, i => do
    let word (w : String) : Bool := (all.extract i (i + w.length)).toList == w.toList
    match all[i]? with
    | some '"' => do
      let (o, i) ← readDataText all i (all.size + 1) (i + 1) []
      return (.text o, i)
    | some '[' => do
      let j := afterBlanks all all.size (i + 1)
      if all[j]? == some ']' then return (← makeList [], j + 1)
      else do
        let (items, i) ← readDataItems all fuel j
        return (← makeList items, i)
    | some '\x7b' => do
      let j := afterBlanks all all.size (i + 1)
      if all[j]? == some '\x7d' then return (← makeDict [], j + 1)
      else do
        let (entries, i) ← readDataEntries all fuel j
        return (← makeDict (entries.foldl (fun acc (k, v) => putEntry k v acc) []), i)
    | _ =>
      if word "null" then return (.none, i + 4)
      else if word "true" then return (.bool true, i + 4)
      else if word "false" then return (.bool false, i + 5)
      else if word "NaN" then return (.real .notANumber, i + 3)
      else if word "Infinity" then return (.real (.infinite false), i + 8)
      else if word "-Infinity" then return (.real (.infinite true), i + 9)
      else match readDataNumber all i with
        | some r => return r
        | none => raiseData all "Expecting value" i

/-- reads items up to their end -/
def readDataItems (all : Array Char) : Nat → Nat → Work (List Value × Nat)
  | 0, i => raiseData all "Expecting value" i
  | fuel + 1, i => do
    let (v, i) ← readDataValue all fuel (afterBlanks all all.size i)
    let j := afterBlanks all all.size i
    match all[j]? with
    | some ']' => return ([v], j + 1)
    | some ',' => do
      let (more, i) ← readDataItems all fuel (j + 1)
      return (v :: more, i)
    | _ => raiseData all "Expecting ',' delimiter" j

/-- reads entries up to their end -/
def readDataEntries (all : Array Char) : Nat → Nat → Work (List (Value × Value) × Nat)
  | 0, i => raiseData all "Expecting value" i
  | fuel + 1, i => do
    if all[i]? != some '"' then raiseData all "Expecting property name enclosed in double quotes" i
    let (key, i) ← readDataText all i (all.size + 1) (i + 1) []
    let j := afterBlanks all all.size i
    if all[j]? != some ':' then raiseData all "Expecting ':' delimiter" j
    let (v, i) ← readDataValue all fuel (afterBlanks all all.size (j + 1))
    let j := afterBlanks all all.size i
    match all[j]? with
    | some '\x7d' => return ([(.text key, v)], j + 1)
    | some ',' => do
      let (more, i) ← readDataEntries all fuel (afterBlanks all all.size (j + 1))
      return ((.text key, v) :: more, i)
    | _ => raiseData all "Expecting ',' delimiter" j

end

/-- reads data -/
def readData (v : Value) : Work Value := do
  let o ← match v with
    | .text o => pure o
    | .bytes o => pure (decode o)
    | v => do
      let kind ← typeName v
      typeError s!"the JSON object must be str, bytes or bytearray, not {kind}"
  let all := o.toArray
  let (v, i) ← readDataValue all (2 * all.size + 4) (afterBlanks all all.size 0)
  let j := afterBlanks all all.size i
  if j < all.size then raiseData all "Extra data" j else return v

/-! ## Paragraphs -/

/-- a text without the indentation that all of its lines have -/
def dedented (o : Characters) : Characters :=
  let blank (line : Characters) : Bool := line.all fun c => c == ' ' || c == '\t'
  let lines := (cutBy ['\n'] (o.length + 1) none o []).map fun line => if blank line then [] else line
  let margin (line : Characters) : Characters := line.takeWhile fun c => c == ' ' || c == '\t'
  let margins := (lines.filter fun line => !line.isEmpty).map margin
  let common : Characters := match margins with
    | [] => []
    | m :: rest => rest.foldl (fun acc m => ((acc.zip m).takeWhile fun (a, b) => a == b).map Prod.fst) m
  (List.intersperse ['\n'] (lines.map fun line => line.drop common.length)).flatten

/-- words in lines of a width at most -/
def filledLines (width : Nat) (words : List Characters) : List Characters :=
  let (lines, last) := words.foldl (fun (acc : List Characters × Characters) word =>
    if acc.2.isEmpty then (acc.1, word)
    else if acc.2.length + 1 + word.length ≤ width then (acc.1, acc.2 ++ ' ' :: word)
    else (acc.2 :: acc.1, word)) ([], [])
  (if last.isEmpty then lines else last :: lines).reverse

/-! ## The functions -/

/-- the functions of modules about texts -/
def textModule? (call : Caller) (name : String) (args : List Value) (named : List (String × Value)) :
    Option (Work Value) :=
  let first := args.headD .none
  let second := (args[1]?).getD .none
  let searched (method : String) (count : Nat) : Option (Work Value) := some do
    let flags := ((argument? args named count "flags").bind int?).getD 0
    let pattern := (argument? args named 0 "pattern").getD .none
    let compiled ← compilePattern pattern flags
    match compiled, ← thing? compiled with
    | .ref p, some (.pattern _ bytes e) =>
      patternMethod call p bytes e method ((args.take count).drop 1) (named.filter fun n => n.1 != "flags")
    | _, _ => return .none
  let textOf (v : Value) : Work Characters := do
    match v with
    | .text o => return o
    | v => do
      let kind ← typeName v
      typeError s!"expected string or bytes-like object, got '{kind}'"
  match name with
  | "re.match" => searched "match" 2
  | "re.fullmatch" => searched "fullmatch" 2
  | "re.search" => searched "search" 2
  | "re.findall" => searched "findall" 2
  | "re.finditer" => searched "finditer" 2
  | "re.split" => searched "split" 3
  | "re.sub" => searched "sub" 4
  | "re.subn" => searched "subn" 4
  | "re.compile" => some (compilePattern first (((argument? args named 1 "flags").bind int?).getD 0))
  | "re.purge" => some (return .none)
  | "re.escape" => some do
    let special : List Char := "()[]\x7b\x7d?*+-|^$\\.&~# \t\n\r\x0b\x0c".toList
    return .text ((← textOf first).flatMap fun c => if special.contains c then ['\\', c] else [c])
  | "json.dumps" => some do return .text (← dataOf call (← dataForm call named) 1000 0 first)
  | "json.dump" => some do
    writeTo call second (← dataOf call (← dataForm call named) 1000 0 first)
    return .none
  | "json.loads" => some (readData first)
  | "json.load" => some do readData (← call (← getAttribute call first "read") [] [])
  | "string.capwords" => some do
    let words := wordsOf ((← textOf first).length + 1) none (← textOf first)
    return .text (List.intersperse [' '] (words.map fun w => (w.take 1).map capitalLetter ++ lowerText (w.drop 1))).flatten
  | "textwrap.dedent" => some do return .text (dedented (← textOf first))
  | "textwrap.indent" => some do
    let o ← textOf first
    let lead ← textOf second
    let lines := textLines false true (o.length + 1) o
    return .text (lines.flatMap fun line => if line.all isSpaceChar then line else lead ++ line)
  | "textwrap.wrap" | "textwrap.fill" => some do
    let o ← textOf first
    let width := (((argument? args named 1 "width").bind int?).getD 70).toNat
    let lines := filledLines width (wordsOf (o.length + 1) none o)
    if name == "textwrap.wrap" then makeList (lines.map .text)
    else return .text (List.intersperse ['\n'] lines).flatten
  | "html.escape" => some do
    let quotes ← match argument? args named 1 "quote" with
      | some v => isTrue call v
      | none => pure true
    return .text ((← textOf first).flatMap fun c => match c with
      | '&' => "&amp;".toList
      | '<' => "&lt;".toList
      | '>' => "&gt;".toList
      | '"' => if quotes then "&quot;".toList else [c]
      | '\'' => if quotes then "&#x27;".toList else [c]
      | c => [c])
  | "base64.b64encode" => some do
    match first with
    | .bytes o => return .bytes (encodeSextets o)
    | v => do
      let kind ← typeName v
      typeError s!"a bytes-like object is required, not '{kind}'"
  | "base64.b64decode" => some do
    match first with
    | .bytes o | .text o => return .bytes (decodeSextets (o.filter fun c => sextets.contains c || c == '=')).1
    | _ => return .bytes []
  | "hashlib.md5" | "hashlib.sha1" | "hashlib.sha224" | "hashlib.sha256" | "hashlib.sha384" | "hashlib.sha512" => some do
    let o ← match first with
      | .bytes o => pure o
      | .none => pure []
      | .text _ => typeError "Strings must be encoded before hashing"
      | v => do
        let kind ← typeName v
        typeError s!"object supporting the buffer API required, not {kind}"
    let kind := ((name.splitOn ".").getLast?).getD name
    allocate (.instanceOf (.builtin "hash") [("name", textValue kind), (" digest", .bytes o)])
  | "unicodedata.normalize" => some (return second)
  | _ => none

/-- the digest of the bytes that an object was given -/
def digestOf (kind : String) (o : Octets) : List Nat :=
  let k : DigestKind := match kind with
    | "md5" => .md5
    | "sha1" => .sha1
    | "sha224" => .sha224
    | "sha384" => .sha384
    | "sha512" => .sha512
    | _ => .sha256
  k.digest o

end ScriptBridge.Shell.BlockScript
