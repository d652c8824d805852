/-
Words that braces multiply: choices between commas, and sequences of numbers or letters. Braces that are quoted, or
that hold neither, stand for themselves.
-/
import ScriptBridge.Shell.Extended.Script
import ScriptBridge.Shell.Numeral

namespace ScriptBridge.Shell.Extended

/-- what stands between an opening brace and its partner, cut at the commas that belong to them, and what follows -/
def bracedChoices : Nat → Word → Word → Option (List Word × Word)
  | _, _, [] => none
  | depth, current, part :: rest =>
    match part with
    | .plain '\x7b' => bracedChoices (depth + 1) (part :: current) rest
    | .plain '\x7d' =>
      if depth = 0 then some ([current.reverse], rest) else bracedChoices (depth - 1) (part :: current) rest
    | .plain ',' =>
      if depth = 0 then (bracedChoices 0 [] rest).map fun (choices, rest) => (current.reverse :: choices, rest)
      else bracedChoices depth (part :: current) rest
    | part => bracedChoices depth (part :: current) rest

/-- a text cut at two points -/
def cutAtPoints : Octets → List Octets
  | [] => [[]]
  | '.' :: '.' :: rest => [] :: cutAtPoints rest
  | c :: rest =>
    match cutAtPoints rest with
    | first :: others => (c :: first) :: others
    | [] => [[c]]

/-- the whole number that a text is, with a sign or without -/
def signedNumber? (o : Octets) : Option Int :=
  let (negative, digits) := signOf o
  if digits.isEmpty || !digits.all Char.isDigit then none
  else
    let n : Int := (digitsIn 10 digits).1
    some (if negative then -n else n)

/-- the numbers from one to another in steps -/
def steps (first last step : Int) : List Int :=
  let step := if step = 0 then 1 else step.natAbs
  let count := (last - first).natAbs / step
  (List.range (count + 1)).map fun (i : Nat) => if first ≤ last then first + i * step else first - i * step

/-- the items of a sequence that a text writes -/
def sequence? (o : Octets) : Option (List Octets) :=
  let build (first last : Octets) (step : Int) : Option (List Octets) :=
    match signedNumber? first, signedNumber? last with
    | some a, some b =>
      let padded (o : Octets) : Bool :=
        let digits := (signOf o).2
        digits.head? == some '0' && 1 < digits.length
      let width := if padded first || padded last then max first.length last.length else 0
      some ((steps a b step).map fun n =>
        let digits := Nat.toDigits 10 n.natAbs
        let sign := if n < 0 then ['-'] else []
        sign ++ List.replicate (width - sign.length - digits.length) '0' ++ digits)
    | none, none =>
      match first, last with
      | [a], [b] =>
        if a.isAlpha && b.isAlpha then some ((steps a.toNat b.toNat step).map fun n => [Char.ofNat n.toNat]) else none
      | _, _ => none
    | _, _ => none
  match cutAtPoints o with
  | [first, last] => build first last 1
  | [first, last, step] => (signedNumber? step).bind (build first last)
  | _ => none

/-- the words that a word stands for -/
def multiplied : Nat → Word → List Word
  | 0, word => [word]
  | _, [] => [[]]
  | fuel + 1, part :: rest =>
    let asIs : Unit → List Word := fun _ => (multiplied fuel rest).map (part :: ·)
    match part with
    | .plain '\x7b' =>
      match bracedChoices 0 [] rest with
      | none => asIs ()
      | some (choices, after) =>
        let items? : Option (List Word) := match choices with
          | [single] => ((bare? single).bind sequence?).map fun items => items.map fun o => o.map .plain
          | choices => some (choices.flatMap (multiplied fuel))
        match items? with
        | some items =>
          let ends := multiplied fuel after
          items.flatMap fun item => ends.map (item ++ ·)
        | none => asIs ()
    | _ => asIs ()

/-- the words that a word stands for; one without braces stands for itself -/
def braceWords (word : Word) : List Word :=
  let opens : Bool := word.any fun
    | .plain '\x7b' => true
    | _ => false
  if opens then multiplied (word.length + 1) word else [word]

end ScriptBridge.Shell.Extended
