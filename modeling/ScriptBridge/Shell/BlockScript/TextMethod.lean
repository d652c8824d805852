/-
What texts can be asked for: other cases, parts, places of other texts, tests of their characters, and texts with values
in their fields. Bytes can be asked for the same, as texts of characters below 256.
-/
import ScriptBridge.Shell.BlockScript.Operator

namespace ScriptBridge.Shell.BlockScript

/-! ## Cases and tests -/

/-- whether a character has a case -/
def isCased (c : Char) : Bool := isCapital c || isSmall c

/-- capitals; one letter becomes two of them -/
def upperText (o : Characters) : Characters := o.flatMap fun c => if c.toNat = 0xDF then ['S', 'S'] else [capitalLetter c]

/-- small letters -/
def lowerText (o : Characters) : Characters := o.map smallLetter

/-- the first letter of each word a capital, the others small -/
def titleText (o : Characters) : Characters :=
  (o.foldl (fun (acc : Characters × Bool) c =>
    ((if acc.2 then smallLetter c else capitalLetter c) :: acc.1, isCased c)) ([], false)).1.reverse

/-- whether the first letter of each word is a capital and no other one is -/
def isTitle (o : Characters) : Bool :=
  let (ok, _, found) := o.foldl (fun (acc : Bool × Bool × Bool) c =>
    let (ok, inside, found) := acc
    if isCapital c then (ok && !inside, true, true)
    else if isSmall c then (ok && inside, true, true)
    else (ok, false, found)) (true, false, false)
  ok && found

/-- whether a text is a name -/
def isIdentifier (o : Characters) : Bool :=
  match o with
  | [] => false
  | c :: _ => (c == '_' || isAnyLetter c) && o.all isAnyWordChar

/-- whether a character is a gap -/
def isSpaceChar (c : Char) : Bool := Text.isBlank c || (0x1C ≤ c.toNat && c.toNat ≤ 0x1F)

/-- what a test of all characters of a text comes to; `none` where there is no such test -/
def tested? (name : String) (o : Characters) : Option Bool :=
  match name with
  | "isdigit" => some (!o.isEmpty && o.all isAnyDigit)
  | "isdecimal" => some (!o.isEmpty && o.all isAnyDigit)
  | "isnumeric" => some (!o.isEmpty && o.all isAnyDigit)
  | "isalpha" => some (!o.isEmpty && o.all isAnyLetter)
  | "isalnum" => some (!o.isEmpty && o.all fun c => isAnyLetter c || isAnyDigit c)
  | "isspace" => some (!o.isEmpty && o.all isSpaceChar)
  | "isupper" => some (o.any isCased && !o.any isSmall)
  | "islower" => some (o.any isCased && !o.any isCapital)
  | "istitle" => some (isTitle o)
  | "isidentifier" => some (isIdentifier o)
  | "isprintable" => some (o.all isShown)
  | "isascii" => some (o.all fun c => c.toNat < 128)
  | _ => none

/-! ## Parts -/

/-- a text without characters at its start -/
def dropStartWhile (p : Char → Bool) (o : Characters) : Characters := o.dropWhile p

/-- a text without characters at its end -/
def dropEndWhile (p : Char → Bool) (o : Characters) : Characters := (o.reverse.dropWhile p).reverse

/-- the words of a text, so many at most and then the rest -/
def wordsOf : Nat → Option Nat → Characters → List Characters
  | 0, _, _ => []
  | fuel + 1, most, o =>
    match o.dropWhile isSpaceChar with
    | [] => []
    | o =>
      if most == some 0 then [dropEndWhile isSpaceChar o]
      else
        let word := o.takeWhile fun c => !isSpaceChar c
        word :: wordsOf fuel (most.map (· - 1)) (o.drop word.length)

/-- the parts of a text between marks, so many cuts at most -/
def cutBy (mark : Characters) : Nat → Option Nat → Characters → Characters → List Characters
  | 0, _, o, part => [part.reverse ++ o]
  | _, _, [], part => [part.reverse]
  | fuel + 1, most, c :: o, part =>
    if most != some 0 && mark.isPrefixOf (c :: o) then
      part.reverse :: cutBy mark fuel (most.map (· - 1)) ((c :: o).drop mark.length) []
    else cutBy mark fuel most o (c :: part)

/-- a text with a part replaced, so often at most -/
def replacedText (old new : Characters) (most : Option Nat) (o : Characters) : Characters :=
  if old.isEmpty then
    let n := most.getD (o.length + 1)
    let rec spread : Nat → Characters → Characters
      | 0, o => o
      | _ + 1, [] => new
      | n + 1, c :: o => new ++ c :: spread n o
    spread n o
  else (List.intersperse new (cutBy old (o.length + 1) most o [])).flatten

/-- the first place of a part from a place on, so that it ends before another one -/
def findText (part : Characters) (start stop : Nat) (o : Characters) : Option Nat :=
  let rec go : Nat → Nat → Characters → Option Nat
    | 0, _, _ => none
    | fuel + 1, i, o =>
      if stop < i + part.length then none
      else if part.isPrefixOf o then some i
      else match o with
        | [] => none
        | _ :: o => go fuel (i + 1) o
  go (o.length + 2) start (o.drop start)

/-- the last place of a part -/
def findLast (part : Characters) (start stop : Nat) (o : Characters) : Option Nat :=
  let all := o.toArray
  let stop := min stop o.length
  if stop < start + part.length then none
  else
    (List.range (stop - part.length - start + 1)).reverse.findSome? fun i =>
      if (all.extract (start + i) (start + i + part.length)).toList == part then some (start + i) else none

/-- how often a part occurs -/
def countText (part : Characters) (o : Characters) : Nat :=
  if part.isEmpty then o.length + 1 else (cutBy part (o.length + 1) none o []).length - 1

/-- whether a character ends a line -/
def endsTextLine (bytes : Bool) (c : Char) : Bool :=
  c == '\n' || c == '\r' || (!bytes && (c.toNat = 11 || c.toNat = 12 || (0x1C ≤ c.toNat && c.toNat ≤ 0x1E) || c.toNat = 0x85
    || c.toNat = 0x2028 || c.toNat = 0x2029))

/-- the lines of a text, with what ends them where that is kept -/
def textLines (bytes keep : Bool) : Nat → Characters → List Characters
  | 0, _ => []
  | _, [] => []
  | fuel + 1, o =>
    let line := o.takeWhile fun c => !endsTextLine bytes c
    let rest := o.drop line.length
    let mark := if ['\r', '\n'].isPrefixOf rest then ['\r', '\n'] else rest.take 1
    (if keep then line ++ mark else line) :: textLines bytes keep fuel (rest.drop mark.length)

/-- a text with tabs filled up to places that are multiples of a width -/
def expandTabs (width : Nat) (o : Characters) : Characters :=
  (o.foldl (fun (acc : Characters × Nat) c =>
    if c == '\t' then
      let n := if width = 0 then 0 else width - acc.2 % width
      (List.replicate n ' ' ++ acc.1, acc.2 + n)
    else (c :: acc.1, if c == '\n' || c == '\r' then 0 else acc.2 + 1)) ([], 0)).1.reverse

/-- the methods of texts -/
def textMethodNames : List String :=
  ["upper", "lower", "casefold", "title", "capitalize", "swapcase", "strip", "lstrip", "rstrip", "split", "rsplit",
    "splitlines", "join", "replace", "find", "rfind", "index", "rindex", "count", "startswith", "endswith", "isdigit",
    "isdecimal", "isnumeric", "isalpha", "isalnum", "isspace", "isupper", "islower", "istitle", "isidentifier",
    "isprintable", "isascii", "zfill", "center", "ljust", "rjust", "expandtabs", "partition", "rpartition", "encode",
    "format", "format_map", "translate", "removeprefix", "removesuffix", "maketrans"]

/-- the methods of bytes -/
def bytesMethodNames : List String :=
  (textMethodNames.filter fun n => !(["encode", "format", "format_map", "casefold", "isidentifier",
    "isprintable", "isnumeric", "isdecimal"].contains n)) ++ ["decode", "hex", "fromhex"]

/-- an argument, by its place or its name -/
def argument? (args : List Value) (named : List (String × Value)) (i : Nat) (name : String) : Option Value :=
  match args[i]? with
  | some v => some v
  | none => named.lookup name

/-- a count among arguments; a negative one is none -/
def countArgument (v : Option Value) : Work (Option Nat) := do
  match v with
  | none => return none
  | some .none => return none
  | some v => match int? v with
    | some n => return if n < 0 then none else some n.toNat
    | none => do
      let name ← typeName v
      typeError s!"'{name}' object cannot be interpreted as an integer"

section

variable (call : Caller)

/-- the parts of the name of a field: a first one, and attributes and indices after it -/
def fieldPath : Nat → Characters → List (Bool × Characters)
  | 0, _ => []
  | _, [] => []
  | fuel + 1, '.' :: o =>
    let name := o.takeWhile fun c => c != '.' && c != '['
    (false, name) :: fieldPath fuel (o.drop name.length)
  | fuel + 1, '[' :: o =>
    let name := o.takeWhile (· != ']')
    (true, name) :: fieldPath fuel (o.drop (name.length + 1))
  | _, _ => []

/-- a text with values in its fields; `next` is the number of the next field without a name. `lookup` gives the
attribute of a value. -/
def filledText (lookup : Value → String → Work Value) (args : List Value) (named : Characters → Work Value) :
    Nat → Nat → Characters → Work (Characters × Nat)
  | 0, next, _ => return ([], next)
  | _, next, [] => return ([], next)
  | fuel + 1, next, '\x7b' :: '\x7b' :: o => do
    let (more, next) ← filledText lookup args named fuel next o
    return ('\x7b' :: more, next)
  | fuel + 1, next, '\x7d' :: '\x7d' :: o => do
    let (more, next) ← filledText lookup args named fuel next o
    return ('\x7d' :: more, next)
  | _, _, '\x7d' :: _ => valueError "Single '\x7d' encountered in format string"
  | fuel + 1, next, '\x7b' :: o => do
    let (inside, rest) ← match fieldEnd 0 o with
      | some n => pure (o.take n, o.drop (n + 1))
      | none =>
        let cause := if o.isEmpty then "Single '\x7b' encountered in format string" else "expected '\x7d' before end of string"
        valueError cause
    let name := inside.takeWhile fun c => c != '!' && c != ':'
    let after := inside.drop name.length
    let (conversion, after) : Option Char × Characters := match after with
      | '!' :: c :: more => (some c, more)
      | after => (none, after)
    let spec := match after with
      | ':' :: more => more
      | _ => []
    let first := name.takeWhile fun c => c != '.' && c != '['
    let (value, next) ← if first.isEmpty then do
        match args[next]? with
        | some v => pure (v, next + 1)
        | none => raise "IndexError" s!"Replacement index {next} out of range for positional args tuple"
      else if first.all Char.isDigit then do
        let n := (digitsIn 10 first).1
        match args[n]? with
        | some v => pure (v, next)
        | none => raise "IndexError" s!"Replacement index {n} out of range for positional args tuple"
      else do pure (← named first, next)
    let mut value := value
    for (isIndex, part) in fieldPath (name.length + 1) (name.drop first.length) do
      if isIndex then
        value ← itemAt call value (if part.all Char.isDigit then .int (digitsIn 10 part).1 else .text part)
      else value ← lookup value (String.ofList part)
    let (spec, next) ← filledText lookup args named fuel next spec
    let text ← match conversion with
      | some 'r' => do inForm call (.text (← displayed call valueDepth value)) spec
      | some 's' => do inForm call (.text (← shown call value)) spec
      | some 'a' => do inForm call (.text (← displayed call valueDepth value)) spec
      | _ => inForm call value spec
    let (more, next) ← filledText lookup args named fuel next rest
    return (text ++ more, next)
  | fuel + 1, next, c :: o => do
    let (more, next) ← filledText lookup args named fuel next o
    return (c :: more, next)
where
  /-- where a field ends -/
  fieldEnd : Nat → Characters → Option Nat
    | _, [] => none
    | depth, '\x7b' :: o => (fieldEnd (depth + 1) o).map (· + 1)
    | 0, '\x7d' :: _ => some 0
    | depth + 1, '\x7d' :: o => (fieldEnd depth o).map (· + 1)
    | depth, _ :: o => (fieldEnd depth o).map (· + 1)

/-- what a method of a text comes to -/
def textMethod (bytes : Bool) (o : Characters) (name : String) (args : List Value) (named : List (String × Value)) :
    Work Value := do
  let text (o : Characters) : Work Value := return .text o
  let part (v : Value) : Work Characters := do
    match v with
    | .text o => return o
    | v => do
      let kind ← typeName v
      typeError s!"must be str, not {kind}"
  let bounds (args : List Value) : Work (Nat × Nat) := do
    let (a, b, _) ← sliceBounds o.length ((args[0]?).getD .none) ((args[1]?).getD .none) .none
    return (a.toNat, b.toNat)
  let needText (position : Nat) (v : Value) : Work Characters := do
    match v with
    | .text o => return o
    | v => do
      let kind ← typeName v
      if position = 0 then typeError s!"{name}() argument must be str, not {kind}"
      else typeError s!"{name}() argument {position} must be str, not {kind}"
  match tested? name o with
  | some b => return .bool b
  | none =>
    match name with
    | "upper" => text (upperText o)
    | "lower" => text (lowerText o)
    | "casefold" => text ((lowerText o).flatMap fun c => if c.toNat = 0xDF then ['s', 's'] else [c])
    | "title" => text (titleText o)
    | "capitalize" => text ((o.take 1).map capitalLetter ++ lowerText (o.drop 1))
    | "swapcase" => text (o.map fun c => if isCapital c then smallLetter c else capitalLetter c)
    | "strip" | "lstrip" | "rstrip" => do
      let p : Char → Bool ← match (args[0]?).getD .none with
        | .none => pure (if bytes then fun c => isGap c else isSpaceChar)
        | v => do
          match v with
          | .text set => pure fun c => set.contains c
          | v => do
            let kind ← typeName v
            typeError s!"{name} arg must be None or str, not {kind}"
      let o := if name == "rstrip" then o else dropStartWhile p o
      text (if name == "lstrip" then o else dropEndWhile p o)
    | "split" | "rsplit" => do
      let most ← countArgument (argument? args named 1 "maxsplit")
      match (argument? args named 0 "sep").getD .none with
      | .none =>
        if name == "split" || most.isNone then makeList ((wordsOf (o.length + 1) most o).map .text)
        else makeList (((wordsOf (o.length + 1) most o.reverse).map fun w => Value.text w.reverse).reverse)
      | sep => do
        let sep ← match sep with
          | .text s => pure s
          | v => do
            let kind ← typeName v
            typeError s!"must be str or None, not {kind}"
        if sep.isEmpty then valueError "empty separator"
        if name == "split" || most.isNone then makeList ((cutBy sep (o.length + 1) most o []).map .text)
        else makeList (((cutBy sep.reverse (o.length + 1) most o.reverse []).map fun w => Value.text w.reverse).reverse)
    | "splitlines" => do
      let keep ← match argument? args named 0 "keepends" with
        | some v => isTrue call v
        | none => pure false
      makeList ((textLines bytes keep (o.length + 1) o).map .text)
    | "join" => do
      let items ← itemsOf call (args.headD .none)
      let each ← items.zipIdx.mapM fun (v, i) => do
        match v with
        | .text o => return o
        | v => do
          let kind ← typeName v
          typeError s!"sequence item {i}: expected str instance, {kind} found"
      text (List.intersperse o each).flatten
    | "replace" => do
      if args.length < 2 then
        let n := args.length
        typeError s!"replace expected at least 2 arguments, got {n}"
      let old ← needText 1 (args.headD .none)
      let new ← needText 2 ((args[1]?).getD .none)
      let most ← countArgument (argument? args named 2 "count")
      text (replacedText old new most o)
    | "find" | "rfind" | "index" | "rindex" | "count" => do
      let sought ← part (args.headD .none)
      let (a, b) ← bounds (args.drop 1)
      if name == "count" then return .int (if b < a then 0 else countText sought ((o.take b).drop a))
      else
        let found := if name == "find" || name == "index" then findText sought a b o else findLast sought a b o
        match found with
        | some n => return .int n
        | none => if name == "index" || name == "rindex" then valueError "substring not found" else return .int (-1)
    | "startswith" | "endswith" => do
      let (a, b) ← bounds (args.drop 1)
      let o := (o.take b).drop a
      let options ← match args.headD .none with
        | .tuple items => items.mapM part
        | .text s => pure [s]
        | v => do
          let kind ← typeName v
          typeError s!"{name} first arg must be str or a tuple of str, not {kind}"
      return .bool (options.any fun s =>
        if name == "startswith" then s.isPrefixOf o else s.reverse.isPrefixOf o.reverse)
    | "zfill" => do
      let width := ((args.head?.bind int?).getD 0).toNat
      let signed : Bool := o.head? == some '-' || o.head? == some '+'
      let digits := if signed then o.drop 1 else o
      text ((if signed then o.take 1 else []) ++ List.replicate (width - o.length) '0' ++ digits)
    | "center" | "ljust" | "rjust" => do
      let width := ((args.head?.bind int?).getD 0).toNat
      let fill ← match args.drop 1 with
        | .text [c] :: _ => pure c
        | _ :: _ => typeError "The fill character must be exactly one character long"
        | [] => pure ' '
      let gap := width - o.length
      let left := match name with
        | "ljust" => 0
        | "rjust" => gap
        | _ => gap / 2 + (if gap % 2 = 1 && width % 2 = 1 then 1 else 0)
      text (List.replicate left fill ++ o ++ List.replicate (gap - left) fill)
    | "expandtabs" => do
      let width := ((argument? args named 0 "tabsize").bind int?).getD 8
      text (expandTabs width.toNat o)
    | "partition" | "rpartition" => do
      let sep ← part (args.headD .none)
      if sep.isEmpty then valueError "empty separator"
      let found := if name == "partition" then findText sep 0 o.length o else findLast sep 0 o.length o
      match found with
      | some n => return .tuple [.text (o.take n), .text sep, .text (o.drop (n + sep.length))]
      | none =>
        return if name == "partition" then .tuple [.text o, .text [], .text []] else .tuple [.text [], .text [], .text o]
    | "removeprefix" => do
      let s ← part (args.headD .none)
      text (if s.isPrefixOf o then o.drop s.length else o)
    | "removesuffix" => do
      let s ← part (args.headD .none)
      text (if !s.isEmpty && s.reverse.isPrefixOf o.reverse then o.take (o.length - s.length) else o)
    | "translate" => do
      let table := args.headD .none
      let each ← o.mapM fun c => do
        let found ← tryCatch (some <$> itemAt call table (.int c.toNat)) fun
          | .raised e trace => do
            let kind ← exceptionName e
            if kind == "KeyError" || kind == "IndexError" then return none else throw (.raised e trace)
          | other => throw other
        match found with
        | none => return [c]
        | some .none => return []
        | some (.text t) => return t
        | some v => match int? v with
          | some n => return [Char.ofNat n.toNat]
          | none => typeError "character mapping must return integer, None or str"
      text each.flatten
    | "maketrans" =>
      match args with
      | [.text a, .text b] =>
        makeDict ((a.zip b).map fun (x, y) => (Value.int x.toNat, Value.int y.toNat))
      | [.text a, .text b, .text gone] =>
        makeDict ((a.zip b).map (fun (x, y) => (Value.int x.toNat, Value.int y.toNat))
          ++ gone.map fun c => (Value.int c.toNat, Value.none))
      | [table] => do
        match ← thing? table with
        | some (.dict _ _ entries) =>
          makeDict (entries.map fun (k, v) => (match k with
            | .text [c] => .int c.toNat
            | k => k, v))
        | _ => typeError "if you give only one argument to maketrans it must be a dict"
      | _ => typeError "maketrans() argument must be a dict"
    | "encode" => do
      let kind := match argument? args named 0 "encoding" with
        | some (.text e) => String.ofList (e.map Char.toLower)
        | _ => "utf-8"
      let errors := match argument? args named 1 "errors" with
        | some (.text e) => String.ofList e
        | _ => "strict"
      if kind == "ascii" || kind == "latin-1" || kind == "latin1" || kind == "iso-8859-1" then
        let limit := if kind == "ascii" then 128 else 256
        let bad := o.find? fun c => limit ≤ c.toNat
        match bad with
        | some c =>
          if errors == "ignore" then return .bytes (o.filter fun c => c.toNat < limit)
          else if errors == "replace" then return .bytes (o.map fun c => if c.toNat < limit then c else '?')
          else
            let place := (o.takeWhile fun c => c.toNat < limit).length
            let code := String.ofList (textRepr true [c])
            let name := if kind == "ascii" then "ascii" else "latin-1"
            raise "UnicodeEncodeError"
              (s!"'{name}' codec can't encode character {code} in position {place}: ordinal not in range(" ++ toString limit
                ++ ")")
        | none => return .bytes o
      else return .bytes (encode o)
    | _ => do
      let kind := if bytes then "bytes" else "str"
      raise "AttributeError" s!"'{kind}' object has no attribute '{name}'"

/-- bytes in place of texts -/
def asBytes : Nat → Value → Work Value
  | 0, v => return v
  | fuel + 1, v => do
    match v with
    | .text o => return .bytes o
    | .tuple items => do return .tuple (← items.mapM (asBytes fuel))
    | .ref a =>
      match ← thingAt a with
      | .list items => do
        update a (.list (← items.mapM (asBytes fuel)))
        return v
      | _ => return v
    | v => return v

/-- texts in place of bytes, for the arguments of a method -/
def asTexts : Nat → Value → Work Value
  | 0, v => return v
  | fuel + 1, v => do
    match v with
    | .bytes o => return .text o
    | .tuple items => do return .tuple (← items.mapM (asTexts fuel))
    | .ref a =>
      match ← thingAt a with
      | .list items => do makeList (← items.mapM (asTexts fuel))
      | _ => return v
    | .text _ => typeError "a bytes-like object is required, not 'str'"
    | v => return v

/-- what a method of bytes comes to -/
def bytesMethod (o : Octets) (name : String) (args : List Value) (named : List (String × Value)) : Work Value := do
  match name with
  | "decode" => do
    let kind := match argument? args named 0 "encoding" with
      | some (.text e) => String.ofList (e.map Char.toLower)
      | _ => "utf-8"
    let errors := match argument? args named 1 "errors" with
      | some (.text e) => String.ofList e
      | _ => "strict"
    if kind == "latin-1" || kind == "latin1" || kind == "iso-8859-1" then return .text o
    else
      let read := decode o
      let bad (c : Char) : Bool := 0x10FF80 ≤ c.toNat || (kind == "ascii" && 128 ≤ c.toNat)
      match read.find? bad with
      | none => return .text read
      | some c =>
        match errors with
        | "ignore" => return .text (read.filter fun c => !bad c)
        | "replace" => return .text (Text.decodeLossy (toBytes o))
        | "surrogateescape" => return .text read
        | _ =>
          let place := (encode (read.takeWhile fun c => !bad c)).length
          let code := String.ofList (hexDigits 2 (if 0x10FF80 ≤ c.toNat then c.toNat - 0x10FF00 else 0xC3))
          let name := if kind == "ascii" then "ascii" else "utf-8"
          let cause := if kind == "ascii" then "ordinal not in range(128)"
            else if (o[place]?).any (fun c => 0xC2 ≤ c.toNat && c.toNat < 0xF5) then
              (if o.length ≤ place + 1 then "unexpected end of data" else "invalid continuation byte")
            else "invalid start byte"
          raise "UnicodeDecodeError" s!"'{name}' codec can't decode byte 0x{code} in position {place}: {cause}"
  | "hex" => return .text (o.flatMap fun c => hexDigits 2 c.toNat)
  | name => do
    let args ← args.mapM (asTexts 10)
    let v ← textMethod call true o name args named
    asBytes 10 v

end

end ScriptBridge.Shell.BlockScript
