/-
How two lists of lines differ. `changesOf` gives the places where lines of the first list are replaced by lines of the
second one, in their order; what lies between two such places is the same in both lists.

The search goes from both ends at once, by diagonals of the table of all pairs of lines: after so many steps it knows
how far each diagonal can be reached, and the first place where both ends meet splits the problem in two. Lines that the
other list does not have are left out of the search. Where a change may stand at several places, because it lies between
equal lines, it is joined with its neighbours where that is possible, and else brought as far to the end as it goes.
-/
import ScriptBridge.Shell.Octets

namespace ScriptBridge.Shell.Difference

/-- a change: so many lines of the first list from a place on are replaced by so many lines of the second one -/
structure Change where
  start : Nat
  removed : Nat
  otherStart : Nat
  added : Nat
deriving DecidableEq, Inhabited

/-! ## The search from both ends -/

/-- how far the diagonals of a search were reached, which begins at a number that is subtracted -/
structure Reach where
  base : Int
  ends : Array Int

namespace Reach

/-- how far a diagonal was reached -/
def along (r : Reach) (d : Int) : Int := r.ends.getD (d - r.base).toNat 0

/-- notes how far a diagonal was reached -/
def put (r : Reach) (d x : Int) : Reach := { r with ends := r.ends.setIfInBounds (d - r.base).toNat x }

end Reach

/-- a part of the table of all pairs of lines -/
structure Window where
  left : Int
  leftEnd : Int
  right : Int
  rightEnd : Int

variable (same : Int → Int → Bool)

/-- goes on along a diagonal while the lines are the same -/
def slideOn (w : Window) : Nat → Int → Int → Int
  | 0, x, _ => x
  | fuel + 1, x, y => if x < w.leftEnd && y < w.rightEnd && same x y then slideOn w fuel (x + 1) (y + 1) else x

/-- goes back along a diagonal while the lines are the same -/
def slideBack (w : Window) : Nat → Int → Int → Int
  | 0, x, _ => x
  | fuel + 1, x, y => if w.left < x && w.right < y && same (x - 1) (y - 1) then slideBack w fuel (x - 1) (y - 1) else x

/-- the span of the diagonals of a search, and how far they were reached -/
structure Front where
  low : Int
  high : Int
  reach : Reach

namespace Front

/-- makes the span wider by one on each side, or narrower where the table ends -/
def widen (f : Front) (least greatest beyond : Int) : Front :=
  let f := if least < f.low then { f with low := f.low - 1, reach := f.reach.put (f.low - 2) beyond }
    else { f with low := f.low + 1 }
  if f.high < greatest then { f with high := f.high + 1, reach := f.reach.put (f.high + 2) beyond }
  else { f with high := f.high - 1 }

/-- whether a diagonal is in the span -/
def has (f : Front) (d : Int) : Bool := f.low ≤ d && d ≤ f.high

end Front

/-- a step of the search from the start, over every other diagonal; ends where it meets the search from the end -/
def sweepOn (w : Window) (steps : Nat) (odd : Bool) (back : Front) : Nat → Int → Front → Except (Int × Int) Front
  | 0, _, f => .ok f
  | fuel + 1, d, f =>
    if d < f.low then .ok f
    else
      let below := f.reach.along (d - 1)
      let above := f.reach.along (d + 1)
      let x := if below < above then above else below + 1
      let x := slideOn same w steps x (x - d)
      if odd && back.has d && back.reach.along d ≤ x then .error (x, x - d)
      else sweepOn w steps odd back fuel (d - 2) { f with reach := f.reach.put d x }

/-- a step of the search from the end -/
def sweepBack (w : Window) (steps : Nat) (odd : Bool) (front : Front) : Nat → Int → Front → Except (Int × Int) Front
  | 0, _, f => .ok f
  | fuel + 1, d, f =>
    if d < f.low then .ok f
    else
      let below := f.reach.along (d - 1)
      let above := f.reach.along (d + 1)
      let x := if below < above then below else above - 1
      let x := slideBack same w steps x (x - d)
      if !odd && front.has d && x ≤ front.reach.along d then .error (x, x - d)
      else sweepBack w steps odd front fuel (d - 2) { f with reach := f.reach.put d x }

/-- steps from both ends until they meet -/
def meet (w : Window) (steps : Nat) (odd : Bool) : Nat → Front → Front → Int × Int
  | 0, _, _ => (w.leftEnd, w.rightEnd)
  | fuel + 1, front, back =>
    let least := w.left - w.rightEnd
    let greatest := w.leftEnd - w.right
    let go : Except (Int × Int) (Front × Front) := do
      let front := front.widen least greatest (-1)
      let front ← sweepOn same w steps odd back (steps + 2) front.high front
      let back := back.widen least greatest (w.leftEnd + w.rightEnd + 2)
      let back ← sweepBack same w steps odd front (steps + 2) back.high back
      return (front, back)
    match go with
    | .error found => found
    | .ok (front, back) => meet w steps odd fuel front back

/-- a place where a shortest way through a part of the table passes -/
def middle (w : Window) : Int × Int :=
  let least := w.left - w.rightEnd
  let steps := (w.leftEnd - w.left + (w.rightEnd - w.right)).toNat
  let start := w.left - w.right
  let finish := w.leftEnd - w.rightEnd
  let empty : Reach := ⟨least - 2, Array.replicate (steps + 5) 0⟩
  meet same w steps ((start - finish) % 2 != 0) (steps + 1) ⟨start, start, empty.put start w.left⟩
    ⟨finish, finish, empty.put finish w.leftEnd⟩

/-- the lines that a shortest way removes and adds, by their numbers -/
def search : Nat → Window → List Nat × List Nat
  | 0, _ => ([], [])
  | fuel + 1, w =>
    let steps := (w.leftEnd - w.left + (w.rightEnd - w.right)).toNat
    let x := slideOn same w steps w.left w.right
    let w := { w with left := x, right := w.right + (x - w.left) }
    let x := slideBack same w steps w.leftEnd w.rightEnd
    let w := { w with leftEnd := x, rightEnd := w.rightEnd - (w.leftEnd - x) }
    let numbers (first last : Int) : List Nat := (List.range (last - first).toNat).map fun i => first.toNat + i
    if w.left == w.leftEnd then ([], numbers w.right w.rightEnd)
    else if w.right == w.rightEnd then (numbers w.left w.leftEnd, [])
    else
      let (x, y) := middle same w
      let (removed, added) := search fuel { w with leftEnd := x, rightEnd := y }
      let (removed', added') := search fuel { w with left := x, right := y }
      (removed ++ removed', added ++ added')

/-! ## Where changes stand -/

/-- which lines are changed; nothing is, beyond the ends -/
abbrev Flags := Array Bool

/-- whether a line is changed -/
def Flags.on (f : Flags) (i : Int) : Bool := if i < 0 then false else f.getD i.toNat false

/-- notes whether a line is changed -/
def Flags.put (f : Flags) (i : Int) (b : Bool) : Flags := f.setIfInBounds i.toNat b

/-- goes on while lines are changed -/
def Flags.after (f : Flags) : Nat → Int → Int
  | 0, i => i
  | fuel + 1, i => if f.on i then f.after fuel (i + 1) else i

/-- goes back while the lines before are changed -/
def Flags.before (f : Flags) : Nat → Int → Int
  | 0, i => i
  | fuel + 1, i => if f.on (i - 1) then f.before fuel (i - 1) else i

/-- goes back to a line that is not changed -/
def Flags.unchanged (f : Flags) : Nat → Int → Int
  | 0, i => i
  | fuel + 1, i => if f.on i then f.unchanged fuel (i - 1) else i

/-- a run of changed lines from `start` up to `stop`, with the place in the other list that its end corresponds to -/
structure Run where
  flags : Flags
  start : Int
  stop : Int
  other : Int

/-- brings a run back by one line -/
def Run.back (others : Flags) (steps : Nat) (r : Run) : Run :=
  { r with
    flags := (r.flags.put (r.start - 1) true).put (r.stop - 1) false
    start := r.start - 1
    stop := r.stop - 1
    other := others.unchanged steps (r.other - 1) }

/-- brings a run back as far as it goes, and joins it with what it meets -/
def pullBack (equal : Int → Int → Bool) (others : Flags) (steps : Nat) : Nat → Run → Run
  | 0, r => r
  | fuel + 1, r =>
    if 0 < r.start && equal (r.start - 1) (r.stop - 1) then
      let r := r.back others steps
      pullBack equal others steps fuel { r with start := r.flags.before steps r.start }
    else r

/-- brings a run on as far as it goes, and joins it with what it meets; `last` is the last end of it that corresponds to
a change of the other list -/
def pushOn (equal : Int → Int → Bool) (others : Flags) (size : Int) (steps : Nat) : Nat → Run → Int → Run × Int
  | 0, r, last => (r, last)
  | fuel + 1, r, last =>
    if r.stop != size && equal r.start r.stop then
      let flags := (r.flags.put r.start false).put r.stop true
      let stop := flags.after steps (r.stop + 1)
      let other := others.after steps (r.other + 1)
      pushOn equal others size steps fuel ⟨flags, r.start + 1, stop, other⟩ (if other != r.other + 1 then stop else last)
    else (r, last)

/-- brings a run to its place -/
def settle (equal : Int → Int → Bool) (others : Flags) (size : Int) (steps : Nat) : Nat → Run → Run × Int
  | 0, r => (r, size)
  | fuel + 1, r =>
    let length := r.stop - r.start
    let r := pullBack equal others steps steps r
    let last := if others.on (r.other - 1) then r.stop else size
    let (r, last) := pushOn equal others size steps steps r last
    if r.stop - r.start == length then (r, last) else settle equal others size steps fuel r

/-- brings a run back to the last end that corresponds to a change of the other list -/
def bringBack (others : Flags) (steps : Nat) (last : Int) : Nat → Run → Run
  | 0, r => r
  | fuel + 1, r => if last < r.stop then bringBack others steps last fuel (r.back others steps) else r

/-- brings the runs of one list to their places, from a line on; `other` is the line of the other list that corresponds
to it -/
def settleAll (equal : Int → Int → Bool) (others : Flags) (size : Int) (steps : Nat) : Nat → Flags → Int → Int → Flags
  | 0, flags, _, _ => flags
  | fuel + 1, flags, i, other =>
    if size ≤ i then flags
    else if !flags.on i then settleAll equal others size steps fuel flags (i + 1) (others.after steps other + 1)
    else
      let r : Run := ⟨flags, i, flags.after steps i, others.after steps other⟩
      let (r, last) := settle equal others size steps steps r
      let r := bringBack others steps last steps r
      settleAll equal others size steps fuel r.flags r.stop r.other

/-- the changes that flags of both lists stand for, from a line of each on -/
def collect (left right : Flags) (steps : Nat) : Nat → Int → Int → List Change
  | 0, _, _ => []
  | fuel + 1, i, j =>
    if left.size ≤ i.toNat && right.size ≤ j.toNat then []
    else if left.on i || right.on j then
      let i' := left.after steps i
      let j' := right.after steps j
      ⟨i.toNat, (i' - i).toNat, j.toNat, (j' - j).toNat⟩ :: collect left right steps fuel i' j'
    else collect left right steps fuel (i + 1) (j + 1)

/-- the changes that lead from one list to another, where lines count as the same if they have the same key -/
def changesBetween (left right : Array Octets) : List Change :=
  let keep (these others : Array Octets) : List Nat := (List.range these.size).filter fun i => others.contains (these.getD i [])
  let kept := (keep left right).toArray
  let keptRight := (keep right left).toArray
  let lineOf (lines : Array Octets) (numbers : Array Nat) (i : Int) : Octets := lines.getD (numbers.getD i.toNat 0) []
  let same (x y : Int) : Bool := lineOf left kept x == lineOf right keptRight y
  let steps := left.size + right.size + 2
  let (removed, added) := search same steps ⟨0, kept.size, 0, keptRight.size⟩
  let flagsOf (size : Nat) (numbers : Array Nat) (changed : List Nat) : Flags :=
    changed.foldl (fun flags i => flags.setIfInBounds (numbers.getD i 0) true)
      (numbers.foldl (fun (flags : Flags) i => flags.setIfInBounds i false) (Array.replicate size true))
  let a := flagsOf left.size kept removed
  let b := flagsOf right.size keptRight added
  let equalIn (lines : Array Octets) (x y : Int) : Bool := lines.getD x.toNat [] == lines.getD y.toNat []
  let a := settleAll (equalIn left) b left.size steps steps a 0 0
  let b := settleAll (equalIn right) a right.size steps steps b 0 0
  collect a b steps steps 0 0

/-- how many lines two lists begin with in common -/
def commonStart : List Octets → List Octets → Nat
  | a :: rest, b :: others => if a == b then commonStart rest others + 1 else 0
  | _, _ => 0

/-- the changes that lead from one list to another. What both begin and end with is left out, but for so many lines;
`key` says which lines count as the same. -/
def changesOf (key : Octets → Octets) (horizon : Nat) (left right : List Octets) : List Change :=
  let common := commonStart left right
  let start := common - horizon
  let left' := left.drop start
  let right' := right.drop start
  let ends := commonStart left'.reverse right'.reverse - horizon
  let keys (lines : List Octets) : Array Octets := ((lines.take (lines.length - ends)).map key).toArray
  (changesBetween (keys left') (keys right')).map fun c => { c with start := c.start + start, otherStart := c.otherStart + start }

end ScriptBridge.Shell.Difference
