/-
Texts as shells and streams see them: a sequence of bytes, written as the characters with the codes 0 to 255, so that
texts and patterns of ASCII read as usual. `octets` and `text` lead from and to ordinary text.
-/
import ScriptBridge.Text.Utf8

namespace ScriptBridge.Shell

/-- a sequence of bytes, each the character of its code -/
abbrev Octets := List Char

/-- bytes as octets -/
def ofBytes (bytes : List UInt8) : Octets := bytes.map fun b => Char.ofNat b.toNat

/-- whether octets come no later than others when they are sorted: a shorter one before what begins with it -/
def inOrder : Octets → Octets → Bool
  | [], _ => true
  | _ :: _, [] => false
  | c :: rest, d :: others => if c = d then inOrder rest others else c.toNat < d.toNat

/-- octets as bytes -/
def toBytes (o : Octets) : List UInt8 := o.map fun c => UInt8.ofNat c.toNat

/-- the octets of a text -/
def octets (s : String) : Octets := ofBytes (Text.encode s.toList)

/-- the text of octets, broken parts replaced -/
def text (o : Octets) : String := String.ofList (Text.decodeLossy (toBytes o))

/-- a number in decimal -/
def number (n : Int) : Octets := (toString n).toList

/-- a whole number in decimal with an optional sign and blanks around it -/
def readNumber? (o : Octets) : Option Int :=
  let isGap (c : Char) := c == ' ' || c == '\t' || c == '\n'
  let body := ((o.dropWhile isGap).reverse.dropWhile isGap).reverse
  let (negative, digits) := match body with
    | '-' :: rest => (true, rest)
    | '+' :: rest => (false, rest)
    | all => (false, all)
  if digits.isEmpty || !digits.all Char.isDigit then none
  else
    let n : Nat := digits.foldl (fun n (c : Char) => n * 10 + (c.toNat - 48)) 0
    some (if negative then -(n : Int) else n)

/-- the lines of a stream, without their line feeds; whether the last one had one does not show -/
def lines (o : Octets) : List Octets :=
  let (done, last) := o.foldl (fun (acc : List Octets × Octets) c =>
    if c == '\n' then (acc.2.reverse :: acc.1, []) else (acc.1, c :: acc.2)) ([], [])
  if last.isEmpty then done.reverse else (last.reverse :: done).reverse

/-- lines as a stream, each with a line feed -/
def ofLines (ls : List Octets) : Octets := ls.flatMap fun l => l ++ ['\n']

/-- a text cut at a mark -/
def cutAt (mark : Char) (o : Octets) : List Octets :=
  let (done, last) := o.foldl (fun (acc : List Octets × Octets) c =>
    if c == mark then (acc.2.reverse :: acc.1, []) else (acc.1, c :: acc.2)) ([], [])
  (last.reverse :: done).reverse

/-- texts with a text between them -/
def joinWith (between : Octets) (items : List Octets) : Octets := (List.intersperse between items).flatten

/-- a name between quotes -/
def inQuotes (name : Octets) : Octets := '\'' :: name ++ ['\'']

end ScriptBridge.Shell
