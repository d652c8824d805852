/-
The utility that shows how files and folders differ. Folders are compared name by name; the status says whether
anything differs, or whether something could not be compared.
-/
import ScriptBridge.Shell.Difference.Report

namespace ScriptBridge.Shell.Difference

/-- what is asked of the utility besides the plan of a comparison -/
structure Task where
  plan : Plan
  brief : Bool
  same : Bool
  asText : Bool
  recursive : Bool
  newFiles : Bool
  newFirst : Bool
  labels : List Octets
  excluded : List Octets
  switches : Octets

/-- what comparing has come to: output and complaints, with the status, which is two when something went wrong -/
structure Verdict where
  status : Nat
  out : Octets
  err : Octets

/-- one verdict after another -/
def Verdict.also (v w : Verdict) : Verdict := ⟨max v.status w.status, v.out ++ w.out, v.err ++ w.err⟩

/-- the letters of options that words stand for -/
def optionWords : List (String × Char) :=
  [("binary", '0'), ("brief", 'q'), ("changed-group-format", '='), ("color", '%'), ("context", 'C'), ("ed", 'e'),
    ("exclude", 'x'), ("exclude-from", 'X'), ("expand-tabs", 't'), ("forward-ed", 'f'), ("from-file", '^'),
    ("horizon-lines", '~'), ("ifdef", 'D'), ("ignore-all-space", 'w'), ("ignore-blank-lines", 'B'), ("ignore-case", 'i'),
    ("ignore-file-name-case", '0'), ("ignore-matching-lines", 'I'), ("ignore-space-change", 'b'),
    ("ignore-tab-expansion", 'E'), ("ignore-trailing-space", 'Z'), ("initial-tab", 'T'), ("label", 'L'),
    ("left-column", '<'), ("line-format", '='), ("minimal", 'd'), ("new-file", 'N'), ("new-group-format", '='),
    ("new-line-format", '='), ("no-dereference", '0'), ("no-ignore-file-name-case", '0'), ("normal", '!'),
    ("old-group-format", '='), ("old-line-format", '='), ("paginate", 'l'), ("rcs", 'n'), ("recursive", 'r'),
    ("report-identical-files", 's'), ("show-c-function", 'p'), ("show-function-line", 'F'), ("side-by-side", 'y'),
    ("speed-large-files", 'H'), ("starting-file", 'S'), ("strip-trailing-cr", '&'), ("suppress-blank-empty", '0'),
    ("suppress-common-lines", '|'), ("tabsize", '='), ("text", 'a'), ("to-file", '@'), ("unchanged-group-format", '='),
    ("unchanged-line-format", '='), ("unidirectional-new-file", 'P'), ("unified", 'U'), ("width", 'W')]

/-- the style that a letter of an option stands for -/
def styleOf? : Char → Option Style
  | 'c' => some .context
  | 'C' => some .context
  | 'u' => some .unified
  | 'U' => some .unified
  | 'e' => some .commands
  | 'f' => some .forwardCommands
  | 'n' => some .counted
  | 'y' => some .columns
  | 'D' => some .conditions
  | '!' => some .plain
  | _ => none

/-- the task that options ask for -/
def taskOf (c : Call) (o : Options) (switches : Octets) : Running Task := do
  let wrong {α : Type} (message : Octets) : Running α := c.named (c.misuse 2 message)
  let (style?, around) ← o.given.foldlM (fun (found : Option Style × Option Nat) (letter, value) => do
    let (style?, around) := found
    let atLeast (n : Nat) : Option Nat := some (max n (around.getD 0))
    let around ←
      if letter == 'C' || letter == 'U' then
        if value.isEmpty then pure (atLeast 3)
        else if !value.all Char.isDigit then wrong (octets "invalid context length " ++ inQuotes value)
        else pure (atLeast (digitsIn 10 value).1)
      else pure (if letter == 'c' || letter == 'u' then atLeast 3 else around)
    match styleOf? letter, style? with
    | none, style? => return (style?, around)
    | some style, none => return (some style, around)
    | some style, some before =>
      if style == before then return (some style, around) else wrong (octets "conflicting output style options"))
    (none, none)
  let style := style?.getD (if o.has 'p' then .context else .plain)
  let digits := (o.given.map Prod.fst).filter Char.isDigit
  let old := if digits.isEmpty then none else some (digitsIn 10 digits).1
  let explicit := o.has 'C' || o.has 'U'
  let around := if style == .context || style == .unified then
      match around, old with
      | none, old => old.getD 3
      | some n, some m => if n < m || !explicit then m else n
      | some n, none => n
    else 0
  let numeric (letter : Char) (what : String) (usual : Nat) : Running Nat :=
    match o.value? letter with
    | none => return usual
    | some text => if text.isEmpty || !text.all Char.isDigit then wrong (octets ("invalid " ++ what ++ " ") ++ inQuotes text)
      else return (digitsIn 10 text).1
  let regex (text : Octets) : Running Regex :=
    match Regex.read (.searching false) text with
    | .ok (r, _) => return r
    | .error e => c.refuse 2 (text ++ octets ": " ++ octets e.message)
  let heading ← match o.value? 'F' with
    | some text => some <$> regex text
    | none => if o.has 'p' then some <$> regex (octets "^[[:alpha:]$_]") else pure none
  let ignored ← (o.values 'I').mapM regex
  let horizon ← numeric '~' "horizon length" 0
  let width ← numeric 'W' "width" 130
  return {
    plan := {
      style, around, horizon, width, heading, ignored
      blanks := if o.has 'w' then .never else if o.has 'b' then .amount else if o.has 'Z' then .atEnds else .count
      caseless := o.has 'i'
      tabless := o.has 'E'
      dropReturns := o.has '&'
      blankLines := o.has 'B'
      expands := o.has 't'
      initialTab := o.has 'T'
      leftColumn := o.has '<'
      onlyChanged := o.has '|'
      macroName := (o.value? 'D').getD [] }
    brief := o.has 'q'
    same := o.has 's'
    asText := o.has 'a'
    recursive := o.has 'r'
    newFiles := o.has 'N'
    newFirst := o.has 'P'
    labels := o.values 'L'
    excluded := o.values 'x'
    switches }

/-- what a name of a file leads to, of which nothing needs to be there -/
inductive Item where
  | absent (e : FileError)
  | text (o : Octets)
  | folder

/-- the name of a file in a folder -/
def inFolder (folder name : Octets) : Octets :=
  if folder.getLast? == some '/' then folder ++ name else folder ++ '/' :: name

/-- the time that is shown for what is not there -/
def noTime : Octets := octets "\t1970-01-01 00:00:00.000000000 +0000"

/-- compares two texts; `heads` is said before what differs -/
def compareTexts (t : Task) (heads : Octets) (first second : Octets) (a b : Octets) : Verdict :=
  let differ (word : String) : Verdict :=
    ⟨1, octets word ++ octets "iles " ++ first ++ octets " and " ++ second ++ octets " differ\n", []⟩
  let alike : Verdict :=
    ⟨0, if t.same then octets "Files " ++ first ++ octets " and " ++ second ++ octets " are identical\n" else [], []⟩
  let isBinary (o : Octets) : Bool := !t.asText && o.contains (Char.ofNat 0)
  if isBinary a || isBinary b then if a == b then alike else differ (if t.brief then "F" else "Binary f")
  else if t.brief then
    let side (o : Octets) : Side := .ofText [] o t.plan.dropReturns
    let counting := (t.plan.changes (side a) (side b)).filter fun c => !t.plan.passes (side a) (side b) c
    if counting.isEmpty then alike else differ "F"
  else
    let label (k : Nat) (name : Octets) : Octets := t.labels[k]?.getD (name ++ noTime)
    let left := Side.ofText (label 0 first) a t.plan.dropReturns
    let right := Side.ofText (label 1 second) b t.plan.dropReturns
    let counting := (t.plan.changes left right).filter fun c => !t.plan.passes left right c
    let report := report? t.plan left right
    let lacking (s : Side) (name : Octets) : Octets :=
      if t.plan.minds || s.complete || a == b then [] else octets "diff: " ++ name ++ octets ": No newline at end of file\n\n"
    let complaints := lacking left first ++ lacking right second
    if counting.isEmpty then ⟨if complaints.isEmpty then 0 else 2, (report.getD []) ++ alike.out, complaints⟩
    else ⟨if complaints.isEmpty then 1 else 2, heads ++ report.getD [], complaints⟩

/-- what a name leads to -/
def itemAt (c : Call) (name : Octets) : Item :=
  if name == ['-'] then .text c.input
  else if c.files.isFolder (pathOf name) then .folder
  else match c.readFile name with
    | .ok o => .text o
    | .error e => .absent e

/-- the names in a folder that are compared -/
def namesIn (c : Call) (t : Task) (folder : Octets) : List Octets :=
  ((listFolder c.files true (pathOf folder)).getD []).filter fun name =>
    !t.excluded.any fun pattern => patternMatches (pattern.map fun d => (d, false)) name

/-- compares what two names lead to; `deep` says that they were found in folders -/
def compareNames (c : Call) (t : Task) : Nat → Bool → Octets → Octets → Verdict
  | 0, _, _, _ => ⟨2, [], []⟩
  | fuel + 1, deep, first, second =>
    let heads : Octets := if deep then
        octets "diff" ++ t.switches ++ ' ' :: first ++ ' ' :: second ++ ['\n']
      else []
    let missing (name : Octets) (e : FileError) : Octets := c.complaint (plainComplaint name e)
    let kind (i : Item) (o : Octets) : Octets := match i with
      | .folder => octets "directory"
      | _ => if o.isEmpty then octets "regular empty file" else octets "regular file"
    let label (k : Nat) (name : Octets) : Octets := t.labels[k]?.getD name
    match itemAt c first, itemAt c second with
    | .absent e, .absent e' => ⟨2, [], missing first e ++ missing second e'⟩
    | .absent e, .text o => if t.newFiles || t.newFirst then compareTexts t heads first second [] o else ⟨2, [], missing first e⟩
    | .text o, .absent e => if t.newFiles then compareTexts t heads first second o [] else ⟨2, [], missing second e⟩
    | .absent e, .folder => ⟨2, [], missing first e⟩
    | .folder, .absent e => ⟨2, [], missing second e⟩
    | .text a, .text b => compareTexts t heads first second a b
    | .folder, .folder =>
      if deep && !t.recursive then
        ⟨0, octets "Common subdirectories: " ++ first ++ octets " and " ++ second ++ ['\n'], []⟩
      else
        let ours := namesIn c t first
        let theirs := namesIn c t second
        let all := (ours ++ theirs.filter fun name => !ours.contains name).mergeSort inOrder
        all.foldl (fun (v : Verdict) name =>
          let only (folder : Octets) : Verdict := ⟨1, octets "Only in " ++ folder ++ octets ": " ++ name ++ ['\n'], []⟩
          let shallow (folder : Octets) : Bool := c.files.isFolder (pathOf (inFolder folder name)) && !t.recursive
          v.also (
            if ours.contains name && theirs.contains name then
              compareNames c t fuel true (inFolder first name) (inFolder second name)
            else if ours.contains name then
              if t.newFiles && !shallow first then compareNames c t fuel true (inFolder first name) (inFolder second name)
              else only first
            else if (t.newFiles || t.newFirst) && !shallow second then
              compareNames c t fuel true (inFolder first name) (inFolder second name)
            else only second)) ⟨0, [], []⟩
    | .folder, .text o =>
      if deep then ⟨1, octets "File " ++ label 0 first ++ octets " is a directory while file " ++ label 1 second
        ++ octets " is a " ++ kind (.text o) o ++ ['\n'], []⟩
      else if second == ['-'] then ⟨2, [], c.complaint (octets "cannot compare '-' to a directory")⟩
      else compareNames c t fuel false (inFolder first (lastPart second)) second
    | .text o, .folder =>
      if deep then ⟨1, octets "File " ++ label 0 first ++ octets " is a " ++ kind (.text o) o ++ octets " while file "
        ++ label 1 second ++ octets " is a directory\n", []⟩
      else if first == ['-'] then ⟨2, [], c.complaint (octets "cannot compare '-' to a directory")⟩
      else compareNames c t fuel false first (inFolder second (lastPart first))

/-- shows how files and folders differ -/
def diff (c : Call) : Running UtilityRun := do
  let (o, names) ← c.named <| c.parse
    { flags := "0123456789abBcdeEfHilnNpPqrstTuvwyZ", valued := "CDFILSUWxX^@~", wrong := 2, leading := false
      words := optionWords, optional := "CU%" }
  let options := c.args.filter fun a => !names.contains a || (a.head? == some '-' && a != ['-'])
  let t ← taskOf c o (options.flatMap fun a => ' ' :: a)
  let pairs ← match o.value? '^', o.value? '@' with
    | some first, _ => pure (names.map fun second => (first, second))
    | none, some second => pure (names.map fun first => (first, second))
    | none, none => match names with
      | [first, second] => pure [(first, second)]
      | first :: second :: extra :: _ => c.named (c.misuse 2 (octets "extra operand " ++ inQuotes extra)) <* pure (first, second)
      | _ => c.named (c.misuse 2 (octets "missing operand after " ++ inQuotes ((c.name :: c.args).getLastD [])))
  let v := pairs.foldl (fun (v : Verdict) (first, second) => v.also (compareNames c t 200 false first second)) ⟨0, [], []⟩
  let reads := pairs.any fun (first, second) => first == ['-'] || second == ['-']
  return { c.done v.status v.out with err := v.err, input := if reads then [] else c.input }

end ScriptBridge.Shell.Difference
