/-
Texts that are filled in, and searches in texts: for the first match, for the next one, for all of them, and to put something
in their place.
-/
import ScriptBridge.Shell.SigilScript.Place

namespace ScriptBridge.Shell.SigilScript

/-! ## Filling in -/

mutual

/-- the text of a part -/
def fillPart (ev : Evaluator) : Part → Work Octets
  | .plain o => return o
  | .value e => do textOf (← ev.one e)
  | .joined e => do
    let between ← textOf (← nameValue "\"")
    return joinWith between (← (← ev.many e).mapM textOf)
  | .cased casing parts => do return recased casing (← fillParts ev parts)

/-- the text of parts -/
def fillParts (ev : Evaluator) : List Part → Work Octets
  | [] => return []
  | p :: rest => do
    let o ← fillPart ev p
    return o ++ (← fillParts ev rest)

end

/-- the expression that a value is, if it is one -/
def patternOf? (v : Value) : Work (Option Branching.Expression) := do
  match v with
  | .ref a => match ← thingAt a with
    | .pattern _ e => return some e
    | _ => return none
  | _ => return none

/-- the expression that parts make -/
def patternOf (ev : Evaluator) (parts : List Part) (flags : String) : Work Branching.Expression := do
  let letters := expressionLetters flags
  match parts with
  | [.value e] => do
    let v ← ev.one e
    match ← patternOf? v with
    | some found => if letters.isEmpty then return found else compile (← textOf v) letters
    | none => compile (← textOf v) letters
  | parts => compile (← fillParts ev parts) letters

/-! ## Finding -/

/-- the cell that is searched -/
def searched (ev : Evaluator) (target : Option Expr) : Work Nat := do
  match target with
  | none => scalarSlot "_"
  | some e => ev.slot e

/-- the place where the next search in a cell begins, with the place where it may not take nothing -/
def resumeAt (slot : Nat) : Work (Nat × Option Nat) := do
  match (← get).positions.lookup slot with
  | some (place, empty) => return (place, if empty then some place else none)
  | none => return (0, none)

/-- notes where the next search in a cell begins -/
def setResume (slot : Nat) (place : Option (Nat × Bool)) : Work Unit := modify fun w =>
  let others := w.positions.filter fun p => p.1 != slot
  { w with positions := match place with
      | some p => (slot, p) :: others
      | none => others }

/-- searches once; with the flag `g` from where the last search ended -/
def findNext (slot : Nat) (e : Branching.Expression) (flags : String) : Work (Option (Branching.Subject × Branching.Spot)) := do
  let o ← textOf (← cellAt slot)
  let (place, refused) ← resumeAt slot
  let subject : Branching.Subject := ⟨o.toArray, place⟩
  let again : Bool := flags.contains 'g'
  let found := if again then
      e.node.search subject (fun after => !(after.place = after.start && refused == some after.place)) place
    else e.node.search subject (fun _ => true) 0
  match found with
  | some spot => do
    keepFound e subject spot
    if again then setResume slot (some (spot.place, spot.place == spot.start))
    return some (subject, spot)
  | none => do
    if again && !flags.contains 'c' then setResume slot none
    return none

/-- all matches, from a place on -/
def allMatches (e : Branching.Expression) (subject : Branching.Subject) : Nat → Nat → Option Nat → List Branching.Spot
  | 0, _, _ => []
  | fuel + 1, place, refused =>
    match nextMatch e subject place refused with
    | none => []
    | some spot => spot :: allMatches e subject fuel spot.place (if spot.place = spot.start then some spot.place else none)

/-- what a search gives where many values are awaited: the groups, of all matches with the flag `g` -/
def findMany (slot : Nat) (e : Branching.Expression) (flags : String) : Work (List Value) := do
  let whole (subject : Branching.Subject) (spot : Branching.Spot) : Value := .text (subject.slice spot.start spot.place)
  if flags.contains 'g' then
    let o ← textOf (← cellAt slot)
    let (place, refused) ← resumeAt slot
    let subject : Branching.Subject := ⟨o.toArray, place⟩
    let spots := allMatches e subject (o.length + 2) place refused
    match spots.getLast? with
    | some spot => do
      keepFound e subject spot
      setResume slot (if flags.contains 'c' then some (spot.place, spot.place == spot.start) else none)
    | none => if !flags.contains 'c' then setResume slot none
    return spots.flatMap fun spot => if e.groups = 0 then [whole subject spot] else groupValues e subject spot
  else
    match ← findNext slot e flags with
    | none => return []
    | some (subject, spot) => return if e.groups = 0 then [.int 1] else groupValues e subject spot

/-! ## Putting something in the place of matches -/

/-- puts something in the place of matches; gives the text and how many there were -/
def exchanged (o : Octets) (e : Branching.Expression) (all : Bool) (new : Work Octets) : Work (Octets × Nat) := do
  let subject : Branching.Subject := ⟨o.toArray, 0⟩
  let rec go : Nat → Nat → Nat → Option Nat → Nat → List Octets → Work (Octets × Nat)
    | 0, _, copied, _, count, done => return ((subject.slice copied o.length :: done).reverse.flatten, count)
    | fuel + 1, place, copied, refused, count, done => do
      match nextMatch e subject place refused with
      | none => return ((subject.slice copied o.length :: done).reverse.flatten, count)
      | some spot => do
        keepFound e subject spot
        let text ← new
        let done := text :: subject.slice copied spot.start :: done
        if all then
          go fuel spot.place spot.place (if spot.place = spot.start then some spot.place else none) (count + 1) done
        else return ((subject.slice spot.place o.length :: done).reverse.flatten, count + 1)
  go (o.length + 2) 0 0 none 0 []

/-- puts something in the place of matches in a cell -/
def exchangeIn (ev : Evaluator) (slot : Nat) (pattern : List Part) (new : Expr) (flags : String) : Work Value := do
  let e ← patternOf ev pattern flags
  let o ← textOf (← cellAt slot)
  let (text, count) ← exchanged o e (flags.contains 'g') do textOf (← ev.one new)
  if flags.contains 'r' then return .text text
  else if count = 0 then return .text []
  else do
    setCell slot (.text text)
    return .int count

/-- exchanges letters in a cell -/
def turnIn (slot : Nat) (source target : Octets) (flags : String) : Work Value := do
  let o ← textOf (← cellAt slot)
  let (text, count) := turned source target flags o
  if flags.contains 'r' then return .text text
  else do
    if text != o then setCell slot (.text text)
    return .int count

/-- the matcher of a search, as an expression with its flags -/
def sought (ev : Evaluator) (m : Matcher) : Work (Branching.Expression × String) := do
  match m with
  | .find pattern flags => do return (← patternOf ev pattern flags, flags)
  | .given e => do
    let v ← ev.one e
    match ← patternOf? v with
    | some found => return (found, "")
    | none => do return (← compile (← textOf v) "", "")
  | _ => die "Nothing to search for"

/-- a search that comes to one value -/
def searchOne (ev : Evaluator) (target : Option Expr) (negated : Bool) (m : Matcher) : Work Value := do
  let told (v : Value) : Value := if negated then truthValue !(isTrue v) else v
  match m with
  | .quote pattern flags => do
    let letters := expressionLetters flags
    let e ← patternOf ev pattern flags
    let text ← fillParts ev pattern
    return .ref (← allocate (.pattern (shownPattern text letters) e))
  | .exchange pattern new flags => do return told (← exchangeIn ev (← searched ev target) pattern new flags)
  | .turn source new flags => do return told (← turnIn (← searched ev target) source new flags)
  | m => do
    let slot ← searched ev target
    let (e, flags) ← sought ev m
    return truthValue ((← findNext slot e flags).isSome != negated)

/-- a search that comes to many values -/
def searchMany (ev : Evaluator) (target : Option Expr) (negated : Bool) (m : Matcher) : Work (List Value) := do
  match m, negated with
  | .find .., false | .given _, false => do
    let slot ← searched ev target
    let (e, flags) ← sought ev m
    findMany slot e flags
  | m, negated => do return [← searchOne ev target negated m]

/-! ## Cutting -/

/-- cuts a text into parts -/
def cutText (ev : Evaluator) (args : List Expr) : Work (List Value) := do
  let o ← match args[1]? with
    | some e => textOf (← ev.one e)
    | none => textOf (← cellAt (← scalarSlot "_"))
  let most : Int ← match args[2]? with
    | some e => intOf (← ev.one e)
    | none => pure 0
  let words : Work (List Value) := do
    let e ← compile "\\s+".toList ""
    return cutWhere e (o.dropWhile isGap) most.toNat
  let parts : List Value ← match (args[0]? : Option Expr) with
    | none => words
    | some (Expr.search none false (Matcher.find pattern flags)) => do
      match pattern with
      | [.plain [' ']] => do pure (cutWhere (← compile [' '] "") o most.toNat)
      | [.plain ['^']] => do pure (cutWhere (← compile ['^'] "m") o most.toNat)
      | pattern => do pure (cutWhere (← patternOf ev pattern flags) o most.toNat)
    | some e => do
      let v ← ev.one e
      match ← patternOf? v with
      | some found => pure (cutWhere found o most.toNat)
      | none => do
        let text ← textOf v
        if text == [' '] then words else pure (cutWhere (← compile text "") o most.toNat)
  return if most = 0 then withoutEmptyEnd parts else parts

end ScriptBridge.Shell.SigilScript
