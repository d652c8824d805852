/-
Strings and keys of TOML. A string is basic, with escapes, or literal; either may run over several lines, where a line
break right after the opening quotes does not count and a backslash at the end of a line joins it to the next text.
Each reader gives what it read and the rest of the text.
-/

namespace ScriptBridge.Toml

/-- a character that may stand in a comment or a literal string: a tab, or anything but a control character -/
def isPlain (c : Char) : Bool := c = '\t' || (0x20 ≤ c.toNat && c.toNat ≠ 0x7F)

/-- a blank inside a line -/
def isSpace (c : Char) : Bool := c = ' ' || c = '\t'

/-- a text without the blanks at its start -/
def dropSpace (text : List Char) : List Char := text.dropWhile isSpace

/-- what follows a line break at the start of a text -/
def newline? : List Char → Option (List Char)
  | '\n' :: rest => some rest
  | '\r' :: '\n' :: rest => some rest
  | _ => none

/-- a text without blanks and line breaks at its start -/
def dropBreaks : List Char → List Char
  | '\r' :: '\n' :: rest => dropBreaks rest
  | c :: rest => if isSpace c || c = '\n' then dropBreaks rest else c :: rest
  | [] => []

/-- the value of a digit in a base up to sixteen -/
def digitValue? (base : Nat) (c : Char) : Option Nat :=
  let value :=
    if '0' ≤ c ∧ c ≤ '9' then c.toNat - 48
    else if 'a' ≤ c ∧ c ≤ 'f' then c.toNat - 87
    else if 'A' ≤ c ∧ c ≤ 'F' then c.toNat - 55
    else 16
  if value < base then some value else none

/-- the character with a code of so many hexadecimal digits; surrogates have none -/
def codePoint? (width : Nat) (text : List Char) : Option Char := do
  let digits := text.take width
  let values ← digits.mapM (digitValue? 16)
  let n := values.foldl (fun n d => n * 16 + d) 0
  if digits.length = width ∧ n.isValidChar then some (Char.ofNat n) else none

/-- the character of an escape that follows a backslash, and how many characters the escape has -/
def escape? : List Char → Option (Char × Nat)
  | 'b' :: _ => some (Char.ofNat 8, 1)
  | 't' :: _ => some ('\t', 1)
  | 'n' :: _ => some ('\n', 1)
  | 'f' :: _ => some (Char.ofNat 12, 1)
  | 'r' :: _ => some ('\r', 1)
  | '"' :: _ => some ('"', 1)
  | '\\' :: _ => some ('\\', 1)
  | 'u' :: rest => (codePoint? 4 rest).map fun c => (c, 5)
  | 'U' :: rest => (codePoint? 8 rest).map fun c => (c, 9)
  | _ => none

/-- the end of a basic string on one line -/
def basicTail (read : List Char) : Nat → List Char → Option (String × List Char)
  | 0, _ => none
  | _, [] => none
  | fuel + 1, c :: rest =>
    if c = '"' then some (String.ofList read.reverse, rest)
    else if c = '\\' then
      match escape? rest with
      | some (e, n) => basicTail (e :: read) fuel (rest.drop n)
      | none => none
    else if isPlain c then basicTail (c :: read) fuel rest
    else none

/-- the end of a literal string on one line -/
def literalTail (read : List Char) : List Char → Option (String × List Char)
  | [] => none
  | c :: rest =>
    if c = '\'' then some (String.ofList read.reverse, rest)
    else if isPlain c then literalTail (c :: read) rest
    else none

/-- what follows a run of quotes inside a string over several lines: three of them end it, and up to two more may stand
in front of those -/
def closing? (mark : Char) (text : List Char) : Option (Nat × List Char) :=
  let run := (text.takeWhile (· == mark)).length
  if run < 3 then none
  else
    let inside := min (run - 3) 2
    some (inside, text.drop (inside + 3))

/-- the end of a string over several lines -/
def longTail (mark : Char) (read : List Char) : Nat → List Char → Option (String × List Char)
  | 0, _ => none
  | _, [] => none
  | fuel + 1, c :: rest =>
    if c = mark then
      match closing? mark (c :: rest) with
      | some (inside, rest) => some (String.ofList (List.replicate inside mark ++ read).reverse, rest)
      | none => longTail mark (c :: read) fuel rest
    else match newline? (c :: rest) with
      | some rest => longTail mark ('\n' :: read) fuel rest
      | none =>
        if c = '\\' ∧ mark = '"' then
          match newline? (dropSpace rest) with
          | some rest => longTail mark read fuel (dropBreaks rest)
          | none =>
            match escape? rest with
            | some (e, n) => longTail mark (e :: read) fuel (rest.drop n)
            | none => none
        else if isPlain c then longTail mark (c :: read) fuel rest
        else none

/-- the end of a string over several lines, after the opening quotes -/
def longString (mark : Char) (text : List Char) : Option (String × List Char) :=
  let text := (newline? text).getD text
  longTail mark [] (text.length + 1) text

/-- a string -/
def readString : List Char → Option (String × List Char)
  | '"' :: '"' :: '"' :: rest => longString '"' rest
  | '\'' :: '\'' :: '\'' :: rest => longString '\'' rest
  | '"' :: rest => basicTail [] (rest.length + 1) rest
  | '\'' :: rest => literalTail [] rest
  | _ => none

/-- a character of a key without quotes -/
def isBare (c : Char) : Bool := c.isAlphanum || c = '_' || c = '-'

/-- one name of a key -/
def readName (text : List Char) : Option (String × List Char) :=
  match text with
  | '"' :: rest => basicTail [] (rest.length + 1) rest
  | '\'' :: rest => literalTail [] rest
  | _ =>
    let name := text.takeWhile isBare
    if name.isEmpty then none else some (String.ofList name, text.dropWhile isBare)

/-- the most names that a key may have -/
def maxNames : Nat := 79

/-- a key: names with dots between them, and blanks around each -/
def readKey : Nat → List Char → Option (List String × List Char)
  | 0, _ => none
  | names + 1, text => do
    let (name, rest) ← readName (dropSpace text)
    match dropSpace rest with
    | '.' :: rest =>
      let (more, rest) ← readKey names rest
      return (name :: more, rest)
    | rest => return ([name], rest)

end ScriptBridge.Toml
