/-
Searching in texts. What was found last stands for itself until something else is found; a search may begin where the last
one ended. Exchanging letters one by one needs no expression.
-/
import ScriptBridge.Shell.SigilScript.Operator

namespace ScriptBridge.Shell.SigilScript

/-! ## Expressions -/

/-- the words for what is wrong with an expression, with how many more characters they are about -/
def flawWords (flaw : Branching.Flaw) : String × Nat :=
  match flaw with
  | .unclosedSet => ("Unmatched [", 1)
  | .unclosedGroup => ("Unmatched (", 1)
  | .unopenedGroup => ("Unmatched )", 1)
  | .nothingToRepeat => ("Quantifier follows nothing", 1)
  | .repeatedTwice => ("Nested quantifiers", 1)
  | .escapeAtEnd => ("Trailing \\", 1)
  | .badEscape _ => ("Unrecognized escape", 1)
  | .badRange o => ("Invalid [] range \"" ++ String.ofList o ++ "\"", o.length)
  | .badReference _ => ("Reference to nonexistent group", 1)
  | .unknownName _ => ("Reference to nonexistent named group", 1)
  | .unknownGroup _ => ("Sequence (?...) not recognized", 2)
  | .boundsInverted => ("Can't do \x7bn,m\x7d with n > m", 0)
  | .unfixedBehind => ("Lookbehind longer than 255 not implemented", 0)

/-- reads an expression with letters that say how -/
def compile (o : Octets) (letters : String) : Work Branching.Expression := do
  let key := letters ++ "/" ++ String.ofList o
  match (← get).compiled.get? key with
  | some e => return e
  | none =>
    let has (c : Char) : Bool := letters.contains c
    let flags : Branching.Flags := ⟨has 'i', has 'm', has 's', has 'x', false⟩
    match Branching.Expression.read .loose flags o with
    | .ok e => do
      modify fun w => { w with compiled := w.compiled.insert key e }
      return e
    | .error p => do
      let (words, more) := flawWords p.flaw
      match p.flaw with
      | .escapeAtEnd => die ("Trailing \\ in regex m/" ++ String.ofList o ++ "/")
      | .unfixedBehind => die ("Lookbehind longer than 255 not implemented in regex m/" ++ String.ofList o ++ "/")
      | _ =>
        let n := p.place + more
        die (words ++ " in regex; marked by <-- HERE in m/" ++ String.ofList (o.take n) ++ " <-- HERE "
          ++ String.ofList (o.drop n) ++ "/")

/-- the letters of flags that belong to an expression -/
def expressionLetters (flags : String) : String := String.ofList (flags.toList.filter fun c => "msixn".toList.contains c)

/-- an expression as it is shown -/
def shownPattern (o : Octets) (letters : String) : Octets :=
  let ends : Octets := if letters.contains 'x' && o.contains '#' then ['\n'] else []
  octets "(?^" ++ octets letters ++ ':' :: o ++ ends ++ [')']

/-! ## What was found -/

/-- the next match from a place on; one that takes nothing may be refused at a place -/
def nextMatch (e : Branching.Expression) (subject : Branching.Subject) (place : Nat) (refused : Option Nat) :
    Option Branching.Spot :=
  e.node.search { subject with resumed := place } (fun after => !(after.place = after.start && refused == some after.place)) place

/-- keeps what was found -/
def keepFound (e : Branching.Expression) (subject : Branching.Subject) (spot : Branching.Spot) : Work Unit :=
  modify fun w => { w with found := some ⟨subject, spot, e.groups, e.names⟩ }

/-- a group of what was found -/
def groupValue (subject : Branching.Subject) (spot : Branching.Spot) (index : Nat) : Value :=
  match spot.groupText? subject index with
  | some o => .text o
  | none => .undefined

/-- the groups of what was found -/
def groupValues (e : Branching.Expression) (subject : Branching.Subject) (spot : Branching.Spot) : List Value :=
  (List.range e.groups).map fun i => groupValue subject spot (i + 1)

/-- what a name that tells of the last search stands for -/
def foundValue? (name : String) : Work (Option Value) := do
  let given (f : Found → Value) : Work (Option Value) := do
    return some (match (← get).found with
      | some found => f found
      | none => .undefined)
  match name with
  | "&" => given fun f => .text (f.subject.slice f.spot.start f.spot.place)
  | "\x60" => given fun f => .text (f.subject.slice 0 f.spot.start)
  | "'" => given fun f => .text (f.subject.slice f.spot.place f.subject.text.size)
  | "+" => given fun f =>
    match (List.range f.groups).reverse.find? fun i => (f.spot.group? (i + 1)).isSome with
    | some i => groupValue f.subject f.spot (i + 1)
    | none => .undefined
  | name =>
    if name != "0" && name.toList.all Char.isDigit then given fun f => groupValue f.subject f.spot (digitsIn 10 name.toList).1
    else return none

/-- where the parts of the last match begin, or where they end -/
def foundPlaces (ends : Bool) : Work (List Value) := do
  match (← get).found with
  | none => return []
  | some f =>
    let whole : Value := .int (if ends then f.spot.place else f.spot.start)
    return whole :: (List.range f.groups).map fun i => match f.spot.group? (i + 1) with
      | some (start, stop) => .int (if ends then stop else start)
      | none => .undefined

/-- the groups with names of the last match -/
def foundNames : Work (List (Octets × Value)) := do
  match (← get).found with
  | none => return []
  | some f =>
    return (f.names.filterMap fun (name, i) => (f.spot.groupText? f.subject i).map fun o => (name, Value.text o)).reverse

/-! ## Exchanging letters -/

/-- the letters that a list of letters and ranges stands for -/
def lettersOf : Nat → Octets → Octets
  | 0, _ => []
  | fuel + 1, o =>
    let (c?, rest) := letterAt o
    match c? with
    | none => []
    | some c =>
      match rest with
      | '-' :: more =>
        match letterAt more with
        | (some d, after) => ((List.range (d.toNat + 1 - c.toNat)).map fun i => Char.ofNat (c.toNat + i)) ++ lettersOf fuel after
        | (none, _) => [c, '-']
      | rest => c :: lettersOf fuel rest
where
  /-- the letter at the start of a text -/
  letterAt (o : Octets) : Option Char × Octets :=
    match o with
    | [] => (none, [])
    | '\\' :: 'x' :: '\x7b' :: more =>
      let digits := more.takeWhile (· != '\x7d')
      (some (Char.ofNat (digitsIn 16 digits).1), more.drop (digits.length + 1))
    | '\\' :: 'x' :: more =>
      let digits := (more.take 2).takeWhile fun c => (digitOf? 16 c).isSome
      (some (Char.ofNat (digitsIn 16 digits).1), more.drop digits.length)
    | '\\' :: c :: rest =>
      if (digitOf? 8 c).isSome then
        let digits := c :: (rest.take 2).takeWhile fun c => (digitOf? 8 c).isSome
        (some (Char.ofNat (digitsIn 8 digits).1), rest.drop (digits.length - 1))
      else (some ((letterMeant? c).getD c), rest)
    | c :: rest => (some c, rest)

/-- a text with its letters exchanged, and how many there were -/
def turned (source target : Octets) (flags : String) (o : Octets) : Octets × Nat :=
  let old := lettersOf (source.length + 1) source
  let new := lettersOf (target.length + 1) target
  let has (c : Char) : Bool := flags.contains c
  let new := if new.isEmpty && !has 'd' then (if has 'c' then [] else old) else new
  -- what a letter becomes: itself, nothing, or another one
  let becomes (c : Char) : Option (Option Char) :=
    if has 'c' then
      if old.contains c then none
      else if has 'd' then some none
      else some (some ((new.getLast?).getD c))
    else match old.findIdx? (· == c) with
      | none => none
      | some i => match new[i]? with
        | some d => some (some d)
        | none => if has 'd' then some none else some (some ((new.getLast?).getD c))
  let (done, count, _) := o.foldl (fun (done, count, last) c =>
    match becomes c with
    | none => (c :: done, count, none)
    | some none => (done, count + 1, last)
    | some (some d) => if has 's' && last == some d then (done, count + 1, last) else (d :: done, count + 1, some d))
    (([] : Octets), 0, (none : Option Char))
  (done.reverse, count)

/-! ## Cutting texts -/

/-- cuts a text where an expression matches, into so many parts at most. A match has to end behind the place where a part
begins; what groups matched stands between the parts. -/
def cutWhere (e : Branching.Expression) (o : Octets) (most : Nat) : List Value :=
  let subject : Branching.Subject := ⟨o.toArray, 0⟩
  let rec go : Nat → Nat → Nat → List Value → List Value
    | 0, start, _, done => (Value.text (subject.slice start o.length) :: done).reverse
    | fuel + 1, start, count, done =>
      let last : List Value := (Value.text (subject.slice start o.length) :: done).reverse
      if o.length ≤ start || (most ≠ 0 ∧ most ≤ count + 1) then last
      else match e.node.search { subject with resumed := start } (fun after => start < after.place) start with
        | none => last
        | some spot =>
          go fuel spot.place (count + 1)
            ((groupValues e subject spot).reverse ++ Value.text (subject.slice start spot.start) :: done)
  if o.isEmpty then [] else go (o.length + 2) 0 0 []

/-- a list without the empty values at its end -/
def withoutEmptyEnd (values : List Value) : List Value :=
  (values.reverse.dropWhile fun v => match v with
    | .text [] => true
    | .undefined => true
    | _ => false).reverse

end ScriptBridge.Shell.SigilScript
