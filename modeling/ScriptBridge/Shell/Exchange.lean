/-
Exchanging, removing and squeezing characters. A set of characters is written as a text with ranges, classes and
repetitions.
-/
import ScriptBridge.Shell.Pattern
import ScriptBridge.Shell.Printing
import ScriptBridge.Shell.Utility

namespace ScriptBridge.Shell

/-- a part of a set: characters one after the other, a class, or a character repeated; a repetition without a count
fills the set up -/
inductive CharPart where
  | chars (o : Octets)
  | group (name : Octets)
  | repeated (c : Char) (count : Option Nat)

/-- a character of a set, which may be escaped -/
def setChar (o : Octets) : Option (Char × Octets) :=
  match o with
  | [] => none
  | '\\' :: rest =>
    match rest with
    | [] => some ('\\', [])
    | 'e' :: rest => some ('e', rest)
    | c :: more => some ((escapedChar? rest).getD (c, more))
  | c :: rest => some (c, rest)

/-- the characters from one to another -/
def charsBetween (low high : Char) : Octets :=
  (List.range (high.toNat + 1 - low.toNat)).map fun k => Char.ofNat (low.toNat + k)

/-- a bracketed part of a set, after its bracket -/
def bracketPart? (o : Octets) : Option (CharPart × Octets) :=
  match o with
  | ':' :: rest =>
    let name := rest.takeWhile (· != ':')
    match rest.drop name.length with
    | ':' :: ']' :: rest => some (.group name, rest)
    | _ => none
  | '=' :: c :: '=' :: ']' :: rest => some (.chars [c], rest)
  | o =>
    match setChar o with
    | some (c, '*' :: rest) =>
      let digits := rest.takeWhile Char.isDigit
      match rest.drop digits.length with
      | ']' :: rest =>
        let n := (digitsIn (if digits.head? == some '0' then 8 else 10) digits).1
        some (.repeated c (if n = 0 then none else some n), rest)
      | _ => none
    | _ => none

/-- the parts of a set, or what is wrong with it -/
def setParts : Nat → Octets → Except Octets (List CharPart)
  | 0, _ => .ok []
  | fuel + 1, o =>
    let bracket := match o with
      | '[' :: rest => bracketPart? rest
      | _ => none
    match bracket with
    | some (part, rest) => do
      match part with
      | .group name =>
        if (classItems name).isEmpty then throw (octets "invalid character class '" ++ name ++ ['\''])
      | _ => pure ()
      return part :: (← setParts fuel rest)
    | none =>
      match setChar o with
      | none => .ok []
      | some (low, rest) =>
        let range := match rest with
          | '-' :: more => setChar more
          | _ => none
        match range with
        | some (high, more) => do
          if high < low then
            throw (octets "range-endpoints of '" ++ o.take (o.length - more.length)
              ++ octets "' are in reverse collating sequence order")
          return .chars (charsBetween low high) :: (← setParts fuel more)
        | none => do return .chars [low] :: (← setParts fuel rest)

/-- the characters of a class, in order -/
def classChars (name : Octets) : Octets :=
  (List.range 256).filterMap fun k =>
    if inSet (classItems name) (Char.ofNat k) then some (Char.ofNat k) else none

/-- the characters of a set. A repetition without a count fills it up to a length. -/
def setChars (length : Nat) (parts : List CharPart) : Octets :=
  let size : CharPart → Nat
    | .chars o => o.length
    | .group name => (classChars name).length
    | .repeated _ count => count.getD 0
  let missing := length - parts.foldl (fun n p => n + size p) 0
  parts.flatMap fun
    | .chars o => o
    | .group name => classChars name
    | .repeated c count => List.replicate (count.getD missing) c

/-- runs of the same character of a set as one -/
def squeeze (set : Char → Bool) (o : Octets) : Octets :=
  (o.foldl (fun kept c => if kept.head? == some c && set c then kept else c :: kept) []).reverse

/-- exchanges, removes or squeezes characters -/
def tr (c : Call) : Running UtilityRun := do
  let (o, operands) ← c.parse
    { flags := "cCdst", valued := "", leading := true, wrong := 1
      words := [("complement", 'c'), ("delete", 'd'), ("squeeze-repeats", 's'), ("truncate-set1", 't')] }
  let removes := o.has 'd'
  let squeezes := o.has 's'
  let most := if removes && !squeezes then 1 else 2
  let least := if removes == squeezes then 2 else 1
  match operands with
  | [] => c.misuse 1 (octets "missing operand")
  | [only] =>
    if least = 2 then
      .error { c.done 1 [] with
        err := c.complaint (octets "missing operand after '" ++ only ++ ['\''])
          ++ octets (if squeezes then "Two strings must be given when both deleting and squeezing repeats.\n"
            else "Two strings must be given when translating.\n") ++ c.hint }
    else pure ()
  | _ =>
    match operands[most]? with
    | some extra =>
      .error { c.done 1 [] with
        err := c.complaint (octets "extra operand '" ++ extra ++ ['\''])
          ++ (if most = 1 then octets "Only one string may be given when deleting without squeezing repeats.\n" else [])
          ++ c.hint }
    | none => pure ()
  let parts (text : Octets) : Running (List CharPart) :=
    match setParts (text.length + 1) text with
    | .ok parts => pure parts
    | .error e => c.refuse 1 e
  let firstParts ← parts (operands.headD [])
  let secondParts ← (operands[1]?).mapM parts
  let listed := setChars 0 firstParts
  let first := if o.has 'c' || o.has 'C' then charsBetween (Char.ofNat 0) (Char.ofNat 255) |>.filter fun d => !listed.contains d
    else listed
  let second := secondParts.map (setChars first.length)
  let finish (out : Octets) : UtilityRun := ⟨0, out, [], none, [], c.files⟩
  if removes then
    let kept := c.input.filter fun d => !first.contains d
    return finish (match second with
      | some set => if squeezes then squeeze set.contains kept else kept
      | none => kept)
  else match second with
    | none => return finish (if squeezes then squeeze first.contains c.input else c.input)
    | some [] => c.refuse 1 (octets "when not truncating set1, string2 must be non-empty")
    | some target =>
      let isCase : CharPart → Bool
        | .group name => name == octets "upper" || name == octets "lower"
        | _ => false
      if (secondParts.getD []).any isCase && !firstParts.any isCase then
        c.refuse 1 (octets "misaligned [:upper:] and/or [:lower:] construct")
      let last := target.getLast?.getD ' '
      let table := first.zip (target ++ List.replicate (if o.has 't' then 0 else first.length - target.length) last)
      let moved := c.input.map fun d =>
        ((table.reverse.find? fun pair => pair.1 == d).map Prod.snd).getD d
      return finish (if squeezes then squeeze target.contains moved else moved)

end ScriptBridge.Shell
