/-
Utilities that show what the file tree holds: `ls`, `readlink` and `realpath`. Names stand in order.
-/
import ScriptBridge.Shell.Printing
import ScriptBridge.Shell.Rearrange

namespace ScriptBridge.Shell

/-- the names in a folder, in order, with the nodes -/
def entriesOf (n : Node) : List (Octets × Node) :=
  match n with
  | .folder entries => (entries.map fun (name, e) => (octets name, e)).mergeSort fun a b => inOrder a.1 b.1
  | _ => []

/-- what stands after a name to show its kind -/
def kindMark (files : Bool) (n : Node) : Octets :=
  match n with
  | .folder _ => ['/']
  | .link _ => if files then ['@'] else []
  | .file _ executable => if files && executable then ['*'] else []
  | .device _ => []

/-- shows names in folders -/
def ls (c : Call) : Running UtilityRun := do
  let (o, operands) ← c.parse
    { flags := "1aAdrRFpmQSlthsigGnoUCxcuvXkLHqbNBf", valued := "wIT", wrong := 2, leading := false
      words := [("all", 'a'), ("almost-all", 'A'), ("directory", 'd'), ("reverse", 'r'), ("recursive", 'R'),
        ("classify", 'F'), ("quote-name", 'Q'), ("color", 'G')] }
  let size : Node → Nat
    | .file content _ => content.length
    | .folder _ => 4096
    | .link target => target.utf8ByteSize
    | .device _ => 0
  let shown (e : Octets × Node) : Octets :=
    let name := if o.has 'Q' then '"' :: e.1 ++ ['"'] else e.1
    name ++ (if o.has 'F' || o.has 'p' then kindMark (o.has 'F') e.2 else [])
  let ordered (es : List (Octets × Node)) : List (Octets × Node) :=
    let es := if o.has 'S' then es.mergeSort fun a b => size b.2 ≤ size a.2 else es
    if o.has 'r' then es.reverse else es
  let table (es : List (Octets × Node)) : Octets :=
    let names := (ordered es).map shown
    if o.has 'm' then (if names.isEmpty then [] else joinWith [',', ' '] names ++ ['\n'])
    else if o.has 'x' && !o.has '1' then (if names.isEmpty then [] else joinWith [' ', ' '] names ++ ['\n'])
    else ofLines names
  let inside (n : Node) : List (Octets × Node) :=
    let dots := if o.has 'a' then [(['.'], Node.folder []), (['.', '.'], Node.folder [])] else []
    dots ++ (entriesOf n).filter fun e => o.has 'a' || o.has 'A' || e.1.head? != some '.'
  let rec deep : Nat → Octets → Node → List (Octets × Node)
    | 0, _, _ => []
    | fuel + 1, name, n =>
      (name, n) :: (ordered ((inside n).filter fun e => e.1.head? != some '.' || o.has 'A')).flatMap fun e =>
        if e.2.isFolder then deep fuel (within name e.1) e.2 else []
  let names := if operands.isEmpty then [['.']] else operands
  let looked := names.map fun name => (name, nodeAt c.files (!(o.has 'd' || o.has 'l' || o.has 'F')) name)
  let complaints := looked.filterMap fun (name, r) => match r with
    | .error e => some (octets "cannot access " ++ inQuotes name ++ octets ": " ++ briefCause e)
    | .ok _ => none
  let there := looked.filterMap fun (name, r) => r.toOption.map fun n => (name, n)
  let sorted := there.mergeSort fun a b => inOrder a.1 b.1
  let asFile (e : Octets × Node) : Bool := o.has 'd' || !e.2.isFolder
  let loose := table (sorted.filter asFile)
  let folders := ordered (sorted.filter fun e => !asFile e)
  let folders := if o.has 'R' then folders.flatMap fun e => deep 256 e.1 e.2 else folders
  let headed := 1 < names.length || o.has 'R'
  let listed := folders.map fun e => (if headed then e.1 ++ [':', '\n'] else []) ++ table (inside e.2)
  let blocks := (if loose.isEmpty then [] else [loose]) ++ listed
  return { c.done (if complaints.isEmpty then 0 else 2) (joinWith ['\n'] blocks) with
    err := complaints.flatMap c.complaint
    lead := some 0 }

/-- what is known of a file, in a format -/
def statText (escapes : Bool) (name : Octets) (n : Node) : Nat → Octets → Octets
  | 0, _ => []
  | _, [] => []
  | fuel + 1, '\\' :: rest =>
    if !escapes then '\\' :: statText escapes name n fuel rest
    else match escapedChar? rest with
      | some (c, rest) => c :: statText escapes name n fuel rest
      | none => '\\' :: statText escapes name n fuel rest
  | fuel + 1, '%' :: letter :: rest =>
    let size : Nat := match n with
      | .file content _ => content.length
      | .folder _ => 4096
      | .link target => target.utf8ByteSize
      | .device _ => 0
    let shown : Octets := match letter, n with
      | 'n', _ => name
      | 'N', _ => inQuotes name
      | 's', _ => number size
      | 'F', .file [] _ => octets "regular empty file"
      | 'F', .file _ _ => octets "regular file"
      | 'F', .folder _ => octets "directory"
      | 'F', .link _ => octets "symbolic link"
      | 'F', .device _ => octets "character special file"
      | 'a', .file _ executable => octets (if executable then "755" else "644")
      | 'a', .folder _ => octets "755"
      | 'a', _ => octets "777"
      | 'A', .file _ executable => octets (if executable then "-rwxr-xr-x" else "-rw-r--r--")
      | 'A', .folder _ => octets "drwxr-xr-x"
      | 'A', .link _ => octets "lrwxrwxrwx"
      | 'A', .device _ => octets "crw-rw-rw-"
      | 'f', .file _ executable => octets (if executable then "81ed" else "81a4")
      | 'f', _ => octets "41ed"
      | 'U', _ => octets "root"
      | 'G', _ => octets "root"
      | 'u', _ => ['0']
      | 'g', _ => ['0']
      | 'h', _ => ['1']
      | '%', _ => ['%']
      | _, _ => ['0']
    shown ++ statText escapes name n fuel rest
  | fuel + 1, c :: rest => c :: statText escapes name n fuel rest

/-- shows what is known of files -/
def stat (c : Call) : Running UtilityRun := do
  let (o, names) ← c.parse
    { flags := "Lft", valued := "cp", wrong := 1, leading := false
      words := [("dereference", 'L'), ("file-system", 'f'), ("format", 'c'), ("printf", 'p'), ("terse", 't')] }
  c.needOperand names "operand"
  let raw := o.last? "cp" == some 'p'
  let format := ((o.value? (if raw then 'p' else 'c')).getD (octets "  File: %n\n  Size: %s\t%F\nAccess: (%a/%A)"))
  return (names.foldl (fun (r : UtilityRun) name =>
    match nodeAt c.files (o.has 'L') name with
    | .error e =>
      { r with status := 1, err := r.err ++ c.complaint (octets "cannot statx " ++ inQuotes name ++ octets ": " ++ briefCause e) }
    | .ok n => { r with out := r.out ++ statText raw name n (format.length + 1) format ++ (if raw then [] else ['\n']) })
    (c.done 0 []))

/-- the place of a name with links followed; the last part need not be there, and with `loose` no part needs to -/
def placeOf (files : Files) (strict loose : Bool) (name : Octets) : Except FileError Octets :=
  match files.locate (pathOf name) true with
  | .ok (.found names) => .ok (placeText names)
  | .ok (.slashed names) => if strict || !loose then .error .notFolder else .ok (placeText names)
  | .ok (.absent folder last _) => if strict then .error .notFound else .ok (placeText (folder ++ [last]))
  | .error e =>
    if loose then
      let whole := if name.head? == some '/' then name else placeText files.here ++ '/' :: name
      let parts := (cutAt '/' whole).foldl (fun (parts : List Octets) part =>
        if part.isEmpty || part == ['.'] then parts
        else if part == ['.', '.'] then parts.drop 1
        else part :: parts) []
      .ok (parts.reverse.flatMap fun p => '/' :: p)
    else .error e

/-- shows where links lead -/
def readlink (c : Call) : Running UtilityRun := do
  let (o, names) ← c.parse
    { flags := "femnqsvz", valued := "", wrong := 1, leading := false
      words := [("canonicalize", 'f'), ("canonicalize-existing", 'e'), ("canonicalize-missing", 'm'), ("no-newline", 'n'),
        ("zero", 'z'), ("verbose", 'v')] }
  c.needOperand names "operand"
  let found := names.map fun name =>
    if o.has 'f' || o.has 'e' || o.has 'm' then (placeOf c.files (o.has 'e') (o.has 'm') name).toOption
    else match nodeAt c.files false name with
      | .ok (.link target) => some (octets target)
      | _ => none
  let mark := if o.has 'z' then [Char.ofNat 0] else if o.has 'n' && names.length = 1 then [] else ['\n']
  return c.done (if found.all Option.isSome then 0 else 1) (found.flatMap fun f => f.elim [] (· ++ mark))

/-- shows the places of names -/
def realpath (c : Call) : Running UtilityRun := do
  let (o, names) ← c.parse
    { flags := "emqszLP", valued := "", wrong := 1, leading := false
      words := [("canonicalize-existing", 'e'), ("canonicalize-missing", 'm'), ("quiet", 'q'), ("no-symlinks", 's'),
        ("zero", 'z')] }
  c.needOperand names "operand"
  let (out, complaints) := names.foldl (fun (acc : Octets × List Octets) name =>
    match placeOf c.files (o.has 'e') (o.has 'm') name with
    | .ok place => (acc.1 ++ place ++ [if o.has 'z' then Char.ofNat 0 else '\n'], acc.2)
    | .error e => (acc.1, acc.2 ++ [plainComplaint name e])) ([], [])
  return { c.done (if complaints.isEmpty then 0 else 1) out with
    err := if o.has 'q' then [] else complaints.flatMap c.complaint }

end ScriptBridge.Shell
