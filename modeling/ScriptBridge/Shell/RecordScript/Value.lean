/-
Values that count as texts or as numbers. What comes from an input counts as a number where it looks like one. Two
values are compared as numbers if both are numbers, and as texts otherwise.
-/
import ScriptBridge.Shell.Printing
import ScriptBridge.Shell.RecordScript.Program
import ScriptBridge.Shell.Regex

namespace ScriptBridge.Shell.RecordScript

/-- a value; `input` is a text that was read -/
inductive Value where
  | unset
  | number (x : Extended)
  | text (o : Octets)
  | input (o : Octets)
deriving Inhabited

/-- whether a text looks like a number -/
def looksNumeric (o : Octets) : Bool :=
  let body := o.dropWhile isGap
  match (signOf body).2.head? with
  | some c => (c.isDigit || c == '.') && (realNumeral body).2.all isGap
  | none => false

namespace Value

/-- a whole number -/
def ofInt (n : Int) : Value := .number (.ofInt n)

/-- the answer to a question -/
def ofBool (b : Bool) : Value := ofInt (if b then 1 else 0)

/-- what a value counts as among numbers -/
def toNumber : Value → Extended
  | .unset => .zero
  | .number x => x
  | .text o => (realNumeral o).1
  | .input o => (realNumeral o).1

/-- whether a value is a number -/
def isNumeric : Value → Bool
  | .unset => true
  | .number _ => true
  | .text _ => false
  | .input o => looksNumeric o

/-- whether a value counts as true -/
def holds : Value → Bool
  | .unset => false
  | .number x => !x.isZero
  | .text o => !o.isEmpty
  | .input o => if looksNumeric o then !(realNumeral o).1.isZero else !o.isEmpty

/-- the whole number that a value counts as -/
def toInt (v : Value) : Int :=
  match v.toNumber with
  | .finite d => ((Extended.finite d).toInt?).getD 0
  | .infinite n => if n then leastWord else greatestWord
  | .notANumber => 0

end Value

/-! ## Formats -/

/-- what a format has come to: its pieces, the last one first, and what is wrong with it -/
structure Formatted where
  pieces : List Octets
  fault : Option Octets

mutual

/-- a number as a text: a whole one has its digits, another one is put into a format -/
def numberText : Nat → Octets → Extended → Octets
  | 0, _, _ => []
  | fuel + 1, format, x =>
    match x.exactInt? with
    | some n =>
      if n.natAbs ≤ greatestWord.toNat then number n
      else (formatPieces fuel format format [.number x] []).pieces.reverse.flatten
    | none =>
      let text := (formatPieces fuel format format [.number x] []).pieces.reverse.flatten
      match x with
      | .notANumber => '-' :: text
      | _ => text

/-- puts values into a format; `shown` is the format of numbers among texts -/
def formatPieces : Nat → Octets → Octets → List Value → List Octets → Formatted
  | 0, _, _, _, pieces => ⟨pieces, none⟩
  | _, _, [], _, pieces => ⟨pieces, none⟩
  | fuel + 1, shown, '%' :: '%' :: rest, args, pieces => formatPieces fuel shown rest args (['%'] :: pieces)
  | fuel + 1, shown, '%' :: spec, args, pieces =>
    let flags := spec.takeWhile fun c => "-+ #0".toList.contains c
    let rest := spec.drop flags.length
    let takeCount (rest : Octets) (args : List Value) : Option Int × Octets × List Value :=
      match rest with
      | '*' :: rest => (some ((args.headD .unset).toInt), rest, args.drop 1)
      | rest =>
        let (n, count) := digitsIn 10 rest
        (if count = 0 then none else some (n : Int), rest.drop count, args)
    let (width, rest, args) := takeCount rest args
    let (precision, rest, args) := match rest with
      | '.' :: rest =>
        let (n, rest, args) := takeCount rest args
        (some (n.getD 0), rest, args)
      | rest => (none, rest, args)
    let rest := rest.dropWhile fun c => c == 'l' || c == 'h'
    let width := width.getD 0
    let conversion : Conversion :=
      { flags := if width < 0 then '-' :: flags else flags
        width := width.natAbs
        precision := precision.bind fun n => if n < 0 then none else some n.toNat }
    let go (o : Octets) (rest : Octets) := formatPieces fuel shown rest (args.drop 1) (o :: pieces)
    let cut (o : Octets) : Octets := match conversion.precision with
      | some n => o.take n
      | none => o
    match rest, args with
    | [], _ => ⟨('%' :: spec) :: pieces, none⟩
    | letter :: rest, args =>
      if !("sdiouxXceEfFgG".toList.contains letter) then ⟨pieces, some (octets "improper conversion(number 1) in ")⟩
      else match args with
        | [] => ⟨pieces, some (octets "not enough arguments passed to ")⟩
        | v :: _ =>
          if letter == 's' then go (conversion.pad (cut (valueText fuel shown v))) rest
          else if letter == 'c' then
            let char : Octets := match v with
              | .number x => [Char.ofNat (((x.toInt?).getD 0) % 256).toNat]
              | .text o => o.take 1
              | .input o => if looksNumeric o then [Char.ofNat ((v.toInt) % 256).toNat] else o.take 1
              | .unset => []
            go (conversion.pad char) rest
          else if "diouxX".toList.contains letter then
            let n := (bounded (-9223372036854775807) 18446744073709551615 v.toInt).1
            go (conversion.whole letter n) rest
          else go (conversion.real letter v.toNumber) rest
  | fuel + 1, shown, c :: rest, args, pieces =>
    let run := (c :: rest).takeWhile (· != '%')
    formatPieces fuel shown ((c :: rest).drop run.length) args (run :: pieces)

/-- the text that a value counts as -/
def valueText : Nat → Octets → Value → Octets
  | 0, _, _ => []
  | fuel + 1, format, v =>
    match v with
    | .unset => []
    | .number x => numberText fuel format x
    | .text o => o
    | .input o => o

end

/-- the text that a value counts as, numbers in a format -/
def Value.toText (format : Octets) (v : Value) : Octets := valueText (format.length + 4) format v

/-- the order of two values; `none` where one is not a number -/
def Value.order? (format : Octets) (a b : Value) : Option Ordering :=
  if a.isNumeric && b.isNumeric then a.toNumber.order? b.toNumber
  else
    let (x, y) := (a.toText format, b.toText format)
    some (if x == y then .eq else if inOrder x y then .lt else .gt)

/-- whether two values stand in a comparison -/
def Comparison.holds (c : Comparison) (order : Option Ordering) : Bool :=
  match c with
  | .less => order == some .lt
  | .atMost => order == some .lt || order == some .eq
  | .same => order == some .eq
  | .different => order != some .eq
  | .more => order == some .gt
  | .atLeast => order == some .gt || order == some .eq

/-- an operator of two numbers -/
def Operator.apply : Operator → Extended → Extended → Extended
  | .add, a, b => a.add b
  | .sub, a, b => a.sub b
  | .mul, a, b => a.mul b
  | .div, a, b => a.div b
  | .rem, a, b => a.rem b
  | .pow, a, b => a.pow b

/-! ## Searching and cutting -/

/-- how regular expressions are written here -/
def expressionStyle : RegexStyle :=
  ⟨true, false, false, [('n', '\n'), ('t', '\t'), ('f', Char.ofNat 12), ('v', Char.ofNat 11), ('a', Char.ofNat 7),
    ('b', Char.ofNat 8), ('r', '\r'), ('/', '/'), ('"', '"')], true, true, false⟩

/-- case counts, and a text is one line -/
def expressionMode : RegexMode := ⟨false, false⟩

/-- the parts of a text between matches that are not empty -/
def cutAtMatches (r : Regex) : Nat → Matching → Matching → List Octets
  | 0, start, _ => [start.rest]
  | fuel + 1, start, m =>
    match r.search expressionMode m with
    | none => [start.rest]
    | some (s, e) =>
      if e.place = s.place then
        match Regex.stepOn s with
        | some next => cutAtMatches r fuel start next
        | none => [start.rest]
      else s.since start :: cutAtMatches r fuel e e

/-- what separates the parts of a text -/
inductive Separator where
  | blanks
  | nothing
  | one (c : Char)
  | pattern (r : Regex)

/-- the parts of a text; with `lines`, the end of a line separates too -/
def Separator.cut (s : Separator) (lines : Bool) (o : Octets) : List Octets :=
  if o.isEmpty then []
  else match s with
    | .blanks =>
      (o.foldr (fun c (acc : List Octets × Bool) =>
        if isGap c then (acc.1, false)
        else match acc with
          | (item :: done, true) => ((c :: item) :: done, true)
          | (done, _) => ([c] :: done, true)) ([], false)).1
    | .nothing => o.map fun c => [c]
    | .one c => if lines then (cutAt c o).flatMap (cutAt '\n') else cutAt c o
    | .pattern r =>
      let r := if lines then .choice r (.one '\n') else r
      cutAtMatches r (o.length + 2) (.atStart o) (.atStart o)

/-- what is put for a match: an ampersand stands for the match, unless a backslash stands before it -/
def replacementText (matched : Octets) : Octets → Octets
  | '\\' :: '&' :: rest => '&' :: replacementText matched rest
  | '\\' :: '\\' :: rest => '\\' :: replacementText matched rest
  | '&' :: rest => matched ++ replacementText matched rest
  | c :: rest => c :: replacementText matched rest
  | [] => []

/-- puts a text for matches, for the first one or for all; gives the pieces and how many there were. `after` says that a
match ended at this place. -/
def replaceMatches (r : Regex) (replacement : Octets) (all : Bool) : Nat → Bool → Matching → List Octets × Nat
  | 0, _, m => ([m.rest], 0)
  | fuel + 1, after, m =>
    match r.search expressionMode m with
    | none => ([m.rest], 0)
    | some (s, e) =>
      let put := replacementText (e.since s) replacement
      let onward (pieces : List Octets) (count : Nat) (after : Bool) (next : Matching) : List Octets × Nat :=
        let (more, n) := if all then replaceMatches r replacement all fuel after next else ([next.rest], 0)
        (pieces ++ more, n + count)
      if e.place != s.place then onward [s.since m, put] 1 true e
      else if after && s.place = m.place then
        match s.rest, Regex.stepOn s with
        | c :: _, some next =>
          let (more, n) := replaceMatches r replacement all fuel false next
          ([c] :: more, n)
        | _, _ => ([], 0)
      else match s.rest, Regex.stepOn s with
        | c :: _, some next =>
          if all then onward [s.since m, put, [c]] 1 false next else ([s.since m, put, s.rest], 1)
        | _, _ => ([s.since m, put], 1)

end ScriptBridge.Shell.RecordScript
