/-
Utilities that change the file tree: `cp`, `mv`, `rm`, `mkdir`, `rmdir`, `touch`, `ln`, `chmod`, `tee` and `dd`.

Each works through its operands in turn: what goes wrong with one of them is complained of, and the next one follows.
-/
import ScriptBridge.Shell.Utility

namespace ScriptBridge.Shell

/-- files after some operands, with what was said and complained of, the last first -/
structure Progress where
  files : Files
  out : List Octets
  complaints : List Octets

namespace Progress

/-- a complaint -/
def complain (p : Progress) (message : Octets) : Progress := { p with complaints := message :: p.complaints }

/-- other files, with a line that says so if it is wanted -/
def became (p : Progress) (files : Files) (shown : Bool) (line : Octets) : Progress :=
  { p with files, out := if shown then line :: p.out else p.out }

end Progress

/-- works through operands -/
def Call.workThrough {α : Type} (c : Call) (operands : List α) (step : Progress → α → Progress) : UtilityRun :=
  let p := operands.foldl step ⟨c.files, [], []⟩
  { c.done (if p.complaints.isEmpty then 0 else 1) (ofLines p.out.reverse) with
    err := p.complaints.reverse.flatMap c.complaint
    files := p.files }

/-- the node that a name leads to, a link itself if `last` is not to be followed -/
def nodeAt (files : Files) (last : Bool) (name : Octets) : Except FileError Node := do
  match ← files.locate (pathOf name) last with
  | .found names => match files.top.at? names with
    | some n => .ok n
    | none => .error .notFound
  | .slashed _ => .error .notFolder
  | .absent _ _ _ => .error .notFound

/-- a name in a folder -/
def within (folder name : Octets) : Octets :=
  if folder.getLast? == some '/' then folder ++ name else folder ++ '/' :: name

/-- a node put over what is there: folders come together, a file keeps whether it can be run -/
def overlay : Nat → Node → Option Node → Node
  | fuel + 1, .folder entries, some (.folder others) =>
    .folder (entries.foldl (fun found (name, n) =>
      Table.putEntry name (overlay fuel n (Table.find? name found)) found) others)
  | _, .file content _, some (.file _ executable) => .file content executable
  | _, n, _ => n

/-- puts a node where a name leads -/
def putNode (files : Files) (name : Octets) (n : Node) : Except FileError Files := do
  let set (names : List String) (old : Option Node) : Files :=
    { files with top := files.top.set (some (overlay 4096 n old)) names }
  match ← files.locate (pathOf name) (!n.isFolder) with
  | .found names => match files.top.at? names with
    | some (.device d) => if n.isFolder then .error .notFolder else files.write (pathOf name) (n.content? |>.getD d.content)
    | old => .ok (set names old)
  | .slashed _ => .error .notFolder
  | .absent folder last asFolder =>
    if asFolder && !n.isFolder then .error .notFolder else .ok (set (folder ++ [last]) none)

/-- what `cp`, `mv` and `ln` were asked for: names to take, and the name or the folder to bring them to -/
structure Moves where
  sources : List Octets
  target : Octets
  inFolder : Bool

/-- the name that a source is brought to -/
def Moves.goal (m : Moves) (source : Octets) : Octets :=
  if m.inFolder then within m.target (lastPart source) else m.target

/-- the moves that operands ask for -/
def movesOf (c : Call) (o : Options) (operands : List Octets) : Running Moves := do
  match o.value? 't', operands with
  | _, [] => c.misuse 1 (octets "missing file operand")
  | some folder, sources =>
    if c.files.isFolder (pathOf folder) then return ⟨sources, folder, true⟩
    else c.refuse 1 (octets "target directory " ++ inQuotes folder ++ octets ": No such file or directory")
  | none, [a] => c.misuse 1 (octets "missing destination file operand after " ++ inQuotes a)
  | none, operands =>
    let target := operands.getLastD []
    let sources := operands.dropLast
    let inFolder := c.files.isFolder (pathOf target) && !o.has 'T'
    if 1 < sources.length && !inFolder then
      let cause := if c.files.has (pathOf target) then octets "Not a directory" else octets "No such file or directory"
      c.refuse 1 (octets "target " ++ inQuotes target ++ octets ": " ++ cause)
    else return ⟨sources, target, inFolder⟩

/-- whether two names lead to the same place -/
def sameFile (files : Files) (a b : Octets) : Bool :=
  match files.locate (pathOf a) true, files.locate (pathOf b) true with
  | .ok (.found x), .ok (.found y) => x == y
  | _, _ => false

/-- copies files and folders -/
def cp (c : Call) : Running UtilityRun := do
  let (o, operands) ← c.parse
    { flags := "aRrfnvpdPLHiuTx", valued := "t", wrong := 1, leading := false
      words := [("archive", 'a'), ("recursive", 'r'), ("force", 'f'), ("no-clobber", 'n'), ("verbose", 'v'),
        ("preserve", 'p'), ("target-directory", 't'), ("no-target-directory", 'T')] }
  let m ← movesOf c o operands
  let deep := o.has 'a' || o.has 'R' || o.has 'r'
  return c.workThrough m.sources fun p source =>
    match nodeAt p.files (!deep) source with
    | .error e => p.complain (octets "cannot stat " ++ inQuotes source ++ octets ": " ++ briefCause e)
    | .ok n =>
      let goal := m.goal source
      let copied (n : Node) : Progress :=
        match putNode p.files goal n with
        | .ok files => p.became files (o.has 'v') (inQuotes source ++ octets " -> " ++ inQuotes goal)
        | .error e =>
          let kind := if n.isFolder then "directory " else "regular file "
          p.complain (octets "cannot create " ++ octets kind ++ inQuotes goal ++ octets ": " ++ briefCause e)
      if n.isFolder && !deep then p.complain (octets "-r not specified; omitting directory " ++ inQuotes source)
      else if sameFile p.files source goal then
        p.complain (inQuotes source ++ octets " and " ++ inQuotes goal ++ octets " are the same file")
      else match nodeAt p.files true goal with
        | .error _ => copied n
        | .ok old =>
          if o.has 'n' then p
          else if n.isFolder && !old.isFolder then
            p.complain (octets "cannot overwrite non-directory " ++ inQuotes goal ++ octets " with directory "
              ++ inQuotes source)
          else if !n.isFolder && old.isFolder then
            p.complain (octets "cannot overwrite directory " ++ inQuotes goal ++ octets " with non-directory")
          else copied n

/-- moves files and folders -/
def mv (c : Call) : Running UtilityRun := do
  let (o, operands) ← c.parse
    { flags := "fnviuT", valued := "t", wrong := 1, leading := false
      words := [("force", 'f'), ("no-clobber", 'n'), ("verbose", 'v'), ("target-directory", 't'), ("no-target-directory", 'T')] }
  let m ← movesOf c o operands
  return c.workThrough m.sources fun p source =>
    match nodeAt p.files false source with
    | .error e => p.complain (octets "cannot stat " ++ inQuotes source ++ octets ": " ++ briefCause e)
    | .ok n =>
      let goal := m.goal source
      let moved : Progress :=
        match putNode (p.files.remove (pathOf source)) goal n with
        | .ok files => p.became files (o.has 'v') (octets "renamed " ++ inQuotes source ++ octets " -> " ++ inQuotes goal)
        | .error e =>
          p.complain (octets "cannot move " ++ inQuotes source ++ octets " to " ++ inQuotes goal ++ octets ": " ++ briefCause e)
      if sameFile p.files source goal then
        p.complain (inQuotes source ++ octets " and " ++ inQuotes goal ++ octets " are the same file")
      else match nodeAt p.files true goal with
        | .error _ => moved
        | .ok old =>
          if o.has 'n' then p
          else if n.isFolder && !old.isFolder then
            p.complain
              (octets "cannot overwrite non-directory " ++ inQuotes goal ++ octets " with directory " ++ inQuotes source)
          else if !n.isFolder && old.isFolder then
            p.complain (octets "cannot overwrite directory " ++ inQuotes goal ++ octets " with non-directory")
          else match old with
            | .folder (_ :: _) => p.complain (octets "cannot overwrite " ++ inQuotes goal ++ octets ": Directory not empty")
            | _ =>
              match p.files.locate (pathOf goal) false with
              | .ok (.found names) =>
                let files := p.files.remove (pathOf source)
                p.became { files with top := files.top.set (some n) names } (o.has 'v')
                  (octets "renamed " ++ inQuotes source ++ octets " -> " ++ inQuotes goal)
              | _ => moved

/-- removes files and folders -/
def rm (c : Call) : Running UtilityRun := do
  let (o, operands) ← c.parse
    { flags := "rRfdvi", valued := "", wrong := 1, leading := false
      words := [("recursive", 'r'), ("force", 'f'), ("dir", 'd'), ("verbose", 'v')] }
  if !o.has 'f' then c.needOperand operands "operand"
  let deep := o.has 'r' || o.has 'R'
  return c.workThrough operands fun p name =>
    let refused (cause : String) : Progress := p.complain (octets "cannot remove " ++ inQuotes name ++ octets (": " ++ cause))
    let removed (what : String) : Progress :=
      p.became (p.files.remove (pathOf name)) (o.has 'v') (octets what ++ inQuotes name)
    match nodeAt p.files false name with
    | .error e => if o.has 'f' && e == .notFound then p
      else p.complain (octets "cannot remove " ++ inQuotes name ++ octets ": " ++ briefCause e)
    | .ok (.folder entries) =>
      if deep then
        if [['.'], ['.', '.']].contains (lastPart name) then
          p.complain (octets "refusing to remove '.' or '..' directory: skipping " ++ inQuotes name)
        else if withoutSlashes name == [] then
          (p.complain (octets "it is dangerous to operate recursively on '/'")).complain
            (octets "use --no-preserve-root to override this failsafe")
        else removed "removed directory "
      else if !o.has 'd' then refused "Is a directory"
      else if entries.isEmpty then removed "removed directory "
      else refused "Directory not empty"
    | .ok _ => removed "removed "

/-- makes folders -/
def mkdir (c : Call) : Running UtilityRun := do
  let (o, operands) ← c.parse
    { flags := "pv", valued := "m", wrong := 1, leading := false
      words := [("parents", 'p'), ("verbose", 'v'), ("mode", 'm')] }
  c.needOperand operands "operand"
  let said (name : Octets) : Octets := octets "mkdir: created directory " ++ inQuotes name
  return c.workThrough operands fun p name =>
    if o.has 'p' then
      let pieces := cutAt '/' (withoutSlashes name)
      let steps := (List.range pieces.length).map fun k => joinWith ['/'] (pieces.take (k + 1))
      let (p, _) := (steps.filter fun s => !s.isEmpty).foldl (fun (acc : Progress × Bool) step =>
        let (p, stopped) := acc
        if stopped || p.files.isFolder (pathOf step) then acc
        else match p.files.makeFolder (pathOf step) with
          | .ok files => (p.became files (o.has 'v') (said step), false)
          | .error e => (p.complain (octets "cannot create directory " ++ inQuotes step ++ octets ": " ++ briefCause e), true))
        (p, false)
      p
    else match p.files.makeFolder (pathOf name) with
      | .ok files => p.became files (o.has 'v') (said name)
      | .error e => p.complain (octets "cannot create directory " ++ inQuotes name ++ octets ": " ++ briefCause e)

/-- removes empty folders -/
def rmdir (c : Call) : Running UtilityRun := do
  let (o, operands) ← c.parse
    { flags := "pv", valued := "", wrong := 1, leading := false, words := [("parents", 'p'), ("verbose", 'v')] }
  c.needOperand operands "operand"
  let wanted := operands.flatMap fun name =>
    if o.has 'p' then
      let pieces := cutAt '/' (withoutSlashes name)
      ((List.range pieces.length).map fun k => joinWith ['/'] (pieces.take (pieces.length - k))).filter fun s => !s.isEmpty
    else [name]
  return c.workThrough wanted fun p name =>
    let refused (cause : Octets) : Progress := p.complain (octets "failed to remove " ++ inQuotes name ++ octets ": " ++ cause)
    match nodeAt p.files false name with
    | .error e => refused (briefCause e)
    | .ok (.folder []) =>
      p.became (p.files.remove (pathOf name)) (o.has 'v') (octets "rmdir: removing directory, " ++ inQuotes name)
    | .ok (.folder _) => refused (octets "Directory not empty")
    | .ok _ => refused (octets "Not a directory")

/-- makes files that are not there -/
def touch (c : Call) : Running UtilityRun := do
  let (o, operands) ← c.parse
    { flags := "acmfh", valued := "dtr", wrong := 1, leading := false
      words := [("no-create", 'c'), ("date", 'd'), ("reference", 'r')] }
  if operands.isEmpty then c.misuse 1 (octets "missing file operand")
  return c.workThrough operands fun p name =>
    if p.files.has (pathOf name) || o.has 'c' then p
    else match p.files.write (pathOf name) [] with
      | .ok files => p.became files false []
      | .error .isFolder => p.complain (octets "setting times of " ++ inQuotes name ++ octets ": No such file or directory")
      | .error e => p.complain (octets "cannot touch " ++ inQuotes name ++ octets ": " ++ briefCause e)

/-- makes a file or a folder of a name that is not taken -/
def mktemp (c : Call) : Running UtilityRun := do
  let (o, operands) ← c.parse
    { flags := "duqt", valued := "p", wrong := 1, leading := false
      words := [("directory", 'd'), ("dry-run", 'u'), ("quiet", 'q'), ("tmpdir", 'p')] }
  match operands with
  | _ :: _ :: _ => c.misuse 1 (octets "too many templates")
  | _ => pure ()
  let template := operands.headD (octets "tmp.XXXXXXXXXX")
  let folder := if operands.isEmpty || o.has 't' || o.has 'p' then (o.value? 'p').getD (octets "/tmp") else []
  let marks := (template.reverse.takeWhile (· == 'X')).length
  if marks < 3 then c.refuse 1 (octets "too few X's in template " ++ inQuotes template)
  let base := template.take (template.length - marks)
  let named (k : Nat) : Octets :=
    let digits := Nat.toDigits 10 k
    let name := base ++ List.replicate (marks - digits.length) 'a' ++ digits
    if folder.isEmpty then name else within folder name
  let name := named (((List.range 1000).find? fun k => !c.files.has (pathOf (named k))).getD 0)
  let done : Except FileError Files := if o.has 'u' then .ok c.files
    else if o.has 'd' then c.files.makeFolder (pathOf name)
    else c.files.write (pathOf name) []
  match done with
  | .ok files => return { c.done 0 (name ++ ['\n']) with files }
  | .error e =>
    let kind := if o.has 'd' then "directory" else "file"
    c.refuse 1 (octets ("failed to create " ++ kind ++ " via template ") ++ inQuotes (if folder.isEmpty then template
      else within folder template) ++ octets ": " ++ briefCause e)

/-- makes links. A link that is not symbolic is another file with the same content. -/
def ln (c : Call) : Running UtilityRun := do
  let (o, operands) ← c.parse
    { flags := "sfnvrTLPb", valued := "t", wrong := 1, leading := false
      words := [("symbolic", 's'), ("force", 'f'), ("no-dereference", 'n'), ("verbose", 'v'), ("target-directory", 't'),
        ("no-target-directory", 'T')] }
  let m ← match operands with
    | [a] => pure ⟨[a], ['.'], true⟩
    | _ => movesOf c o operands
  let kind := if o.has 's' then "symbolic" else "hard"
  return c.workThrough m.sources fun p source =>
    let goal := if operands.length = 1 then octets "./" ++ lastPart source else m.goal source
    let made (n : Node) : Progress :=
      let there := (p.files.locate (pathOf goal) false).toOption
      let refused (cause : Octets) : Progress :=
        p.complain (octets ("failed to create " ++ kind ++ " link ") ++ inQuotes goal ++ octets ": " ++ cause)
      let put (names : List String) : Progress :=
        p.became { p.files with top := p.files.top.set (some n) names } (o.has 'v')
          (inQuotes goal ++ octets (if o.has 's' then " -> " else " => ") ++ inQuotes source)
      match there with
      | some (.found names) => if o.has 'f' then put names else refused (octets "File exists")
      | some (.absent folder name _) => put (folder ++ [name])
      | some (.slashed _) => refused (octets "Not a directory")
      | none => refused (octets "No such file or directory")
    if o.has 's' then made (.link (text source))
    else match nodeAt p.files false source with
      | .error e => p.complain (octets "failed to access " ++ inQuotes source ++ octets ": " ++ briefCause e)
      | .ok (.folder _) => p.complain (source ++ octets ": hard link not allowed for directory")
      | .ok n => made n

/-- makes one link that is not symbolic -/
def link (c : Call) : Running UtilityRun := do
  let (_, operands) ← c.parse { flags := "", valued := "", words := [], wrong := 1, leading := false }
  match operands with
  | [] => c.misuse 1 (octets "missing operand")
  | [a] => c.misuse 1 (octets "missing operand after " ++ inQuotes a)
  | [source, goal] =>
    let refused {α : Type} (cause : Octets) : Running α :=
      c.refuse 1 (octets "cannot create link " ++ inQuotes goal ++ octets " to " ++ inQuotes source ++ octets ": " ++ cause)
    match nodeAt c.files false source with
    | .error e => refused (briefCause e)
    | .ok (.folder _) => refused (octets "Operation not permitted")
    | .ok n =>
      match c.files.locate (pathOf goal) false with
      | .ok (.absent folder name false) =>
        return { c.done 0 [] with files := { c.files with top := c.files.top.set (some n) (folder ++ [name]) } }
      | .ok (.absent _ _ true) => refused (octets "No such file or directory")
      | .ok _ => refused (octets "File exists")
      | .error e => refused (briefCause e)
  | _ :: _ :: extra :: _ => c.misuse 1 (octets "extra operand " ++ inQuotes extra)

/-- removes one name of a file -/
def unlink (c : Call) : Running UtilityRun := do
  let (_, operands) ← c.parse { flags := "", valued := "", words := [], wrong := 1, leading := false }
  match operands with
  | [] => c.misuse 1 (octets "missing operand")
  | [name] =>
    let refused {α : Type} (cause : Octets) : Running α :=
      c.refuse 1 (octets "cannot unlink " ++ inQuotes name ++ octets ": " ++ cause)
    match nodeAt c.files false name with
    | .error e => refused (briefCause e)
    | .ok (.folder _) => refused (octets "Is a directory")
    | .ok _ => return { c.done 0 [] with files := c.files.remove (pathOf name) }
  | _ :: extra :: _ => c.misuse 1 (octets "extra operand " ++ inQuotes extra)

/-- gives files another size; what is new in them is zero -/
def truncate (c : Call) : Running UtilityRun := do
  let (o, names) ← c.parse
    { flags := "co", valued := "sr", wrong := 1, leading := false
      words := [("io-blocks", 'o'), ("no-create", 'c'), ("reference", 'r'), ("size", 's')] }
  if !o.has 's' && !o.has 'r' then c.misuse 1 (octets "you must specify either '--size' or '--reference'")
  c.needOperand names "file operand"
  let given := (o.value? 's').getD []
  let (sign, body) := match given with
    | d :: rest => if "+-<>/%".toList.contains d then (some d, rest) else (none, given)
    | [] => (none, [])
  let amount ← match o.value? 's', o.value? 'r' with
    | none, some model => match c.readFile model with
      | .ok content => pure content.length
      | .error e => c.refuse 1 (octets "cannot stat " ++ inQuotes model ++ octets ": " ++ briefCause e)
    | _, _ => match count? body with
      | some n => pure n
      | none => c.refuse 1 (octets "Invalid number: " ++ inQuotes given)
  return c.workThrough names fun p name =>
    let before := (p.files.read (pathOf name)).toOption
    if before.isNone && o.has 'c' then p
    else
      let content := before.getD []
      let size := content.length
      let wanted := match sign with
        | some '+' => size + amount
        | some '-' => size - amount
        | some '<' => min size amount
        | some '>' => max size amount
        | some '/' => if amount = 0 then size else size / amount * amount
        | some '%' => if amount = 0 then size else (size + amount - 1) / amount * amount
        | _ => amount
      match p.files.write (pathOf name) (content.take wanted ++ List.replicate (wanted - size) 0) with
      | .ok files => p.became files false []
      | .error e => p.complain (octets "cannot open " ++ inQuotes name ++ octets " for writing: " ++ briefCause e)

/-- says that everything is written, which it always is -/
def sync (c : Call) : Running UtilityRun := do
  let (_, names) ← c.parse
    { flags := "df", valued := "", words := [("data", 'd'), ("file-system", 'f')], wrong := 1, leading := false }
  return c.workThrough names fun p name =>
    match nodeAt p.files true name with
    | .ok _ => p
    | .error e => p.complain (octets "error opening " ++ inQuotes name ++ octets ": " ++ briefCause e)

/-- changes owners or groups of files, of which there is one alone -/
def chown (group : Bool) (c : Call) : Running UtilityRun := do
  let (o, operands) ← c.parse
    { flags := "RcfvhHLP", valued := "r", wrong := 1, leading := false
      words := [("changes", 'c'), ("no-dereference", 'h'), ("quiet", 'f'), ("recursive", 'R'), ("reference", 'r'),
        ("silent", 'f'), ("verbose", 'v')] }
  let names ← match operands with
    | [] => c.misuse 1 (octets "missing operand")
    | [a] => if o.has 'r' then pure [a] else c.misuse 1 (octets "missing operand after " ++ inQuotes a)
    | owner :: names =>
      if o.has 'r' then pure operands
      else
        let parts := cutAt ':' owner
        let isKnown (name : Octets) : Bool := name.isEmpty || name == octets "root" || name.all Char.isDigit
        if parts.all isKnown && !owner.isEmpty then pure names
        else
          let what := if group then "group" else if isKnown (parts.headD []) then "group" else "user"
          c.refuse 1 (octets ("invalid " ++ what ++ ": ") ++ inQuotes owner)
  return c.workThrough names fun p name =>
    match nodeAt p.files true name with
    | .ok _ => p
    | .error e => if o.has 'f' then p else p.complain (octets "cannot access " ++ inQuotes name ++ octets ": " ++ briefCause e)

/-- what a mode makes of whether a file can be run; `none` when it is no mode -/
def executableAfter? (mode : Octets) (before : Bool) : Option Bool :=
  if !mode.isEmpty && mode.all fun c => '0' ≤ c && c ≤ '7' then
    some (mode.any fun c => c == '1' || c == '3' || c == '5' || c == '7')
  else (cutAt ',' mode).foldl (fun found clause =>
    found.bind fun before =>
      let who := clause.takeWhile fun c => "ugoa".toList.contains c
      match clause.drop who.length with
      | sign :: letters =>
        if !("+-=".toList.contains sign) || !(letters.all fun c => "rwxXstugo".toList.contains c) then none
        else
          let runs := letters.contains 'x' || (letters.contains 'X' && before)
          some (match sign with
            | '+' => before || runs
            | '-' => before && !runs
            | _ => runs)
      | [] => none) (some before)

/-- changes whether files can be run -/
def chmod (c : Call) : Running UtilityRun := do
  let args := c.args.flatMap fun a => match a with
    | '-' :: l :: _ => if "rwxX".toList.contains l then [['-', '-'], a] else [a]
    | _ => [a]
  let (o, operands) ← { c with args }.parse
    { flags := "Rvcf", valued := "", wrong := 1, leading := false
      words := [("recursive", 'R'), ("verbose", 'v'), ("changes", 'c'), ("silent", 'f')] }
  match operands with
  | [] => c.misuse 1 (octets "missing operand")
  | [mode] => c.misuse 1 (octets "missing operand after " ++ inQuotes mode)
  | mode :: names =>
    if (executableAfter? mode false).isNone then c.misuse 1 (octets "invalid mode: " ++ inQuotes mode)
    return c.workThrough names fun p name =>
      match p.files.locate (pathOf name) true, nodeAt p.files true name with
      | .ok (.found place), .ok (.file content before) =>
        let after := (executableAfter? mode before).getD before
        let shown (x : Bool) : Octets := octets (if x then "0755 (rwxr-xr-x)" else "0644 (rw-r--r--)")
        p.became { p.files with top := p.files.top.set (some (.file content after)) place }
          ((o.has 'v' || o.has 'c') && before != after)
          (octets "mode of " ++ inQuotes name ++ octets " changed from " ++ shown before ++ octets " to " ++ shown after)
      | _, .ok _ => p
      | _, .error e => p.complain (octets "cannot access " ++ inQuotes name ++ octets ": " ++ briefCause e)

/-- copies files to where they can be run, or makes folders -/
def install (c : Call) : Running UtilityRun := do
  let (o, operands) ← c.parse
    { flags := "bcCdDpsTv", valued := "gmoSt", wrong := 1, leading := false
      words := [("directory", 'd'), ("group", 'g'), ("mode", 'm'), ("no-target-directory", 'T'), ("owner", 'o'),
        ("target-directory", 't'), ("verbose", 'v')] }
  let executable := (executableAfter? ((o.value? 'm').getD (octets "755")) false).getD true
  if o.has 'd' then
    c.needOperand operands "file operand"
    return c.workThrough operands fun p name =>
      match p.files.makeFolders (pathOf name) with
      | .ok files => p.became files (o.has 'v') (octets "install: creating directory " ++ inQuotes name)
      | .error e => p.complain (octets "cannot create directory " ++ inQuotes name ++ octets ": " ++ briefCause e)
  else
    let m ← movesOf c o operands
    return c.workThrough m.sources fun p source =>
      match nodeAt p.files true source with
      | .error e => p.complain (octets "cannot stat " ++ inQuotes source ++ octets ": " ++ briefCause e)
      | .ok (.folder _) => p.complain (octets "omitting directory " ++ inQuotes source)
      | .ok n =>
        let goal := m.goal source
        let files := if o.has 'D' then ((p.files.makeFolders (pathOf (partsBefore goal))).toOption).getD p.files else p.files
        if sameFile files source goal then
          p.complain (inQuotes source ++ octets " and " ++ inQuotes goal ++ octets " are the same file")
        else match putNode (files.remove (pathOf goal)) goal (.file (n.content?.getD []) executable) with
          | .ok files => p.became files (o.has 'v') (inQuotes source ++ octets " -> " ++ inQuotes goal)
          | .error e => p.complain (octets "cannot create regular file " ++ inQuotes goal ++ octets ": " ++ briefCause e)

/-- copies the input to files and to the output -/
def tee (c : Call) : Running UtilityRun := do
  let (o, operands) ← c.parse
    { flags := "aip", valued := "", wrong := 1, leading := false, words := [("append", 'a'), ("ignore-interrupts", 'i')] }
  let r := c.workThrough operands fun p name =>
    let before := if o.has 'a' then ((p.files.read (pathOf name)).toOption).getD [] else []
    if ["/dev/stdout", "/dev/stderr"].contains (text name) then p
    else match p.files.write (pathOf name) (before ++ toBytes c.input) with
      | .ok files => p.became files false []
      | .error e => p.complain (plainComplaint name e)
  let also (name : String) : Octets := if operands.contains name.toList then c.input else []
  return { r with out := c.input ++ also "/dev/stdout", err := r.err ++ also "/dev/stderr", input := [] }

/-! ## Blocks -/

/-- what `dd` was asked for -/
structure BlockPlan where
  source : Option Octets
  target : Option Octets
  inSize : Nat
  outSize : Nat
  joined : Bool
  count : Option Nat
  skip : Nat
  seek : Nat
  conversions : List Octets
  marks : List Octets
  quiet : Nat
  lineSize : Nat

/-- the words that may stand after `conv=` -/
def conversionNames : List String :=
  ["lcase", "ucase", "swab", "sync", "notrunc", "noerror", "excl", "nocreat", "fsync", "fdatasync", "block", "unblock"]

/-- one operand of `dd` -/
def blockOperand (c : Call) (p : BlockPlan) (operand : Octets) : Running BlockPlan := do
  let name := operand.takeWhile (· != '=')
  let value := operand.drop (name.length + 1)
  let unknown {α : Type} : Running α := c.misuse 1 (octets "unrecognized operand " ++ inQuotes operand)
  if name.length == operand.length then unknown
  let amount : Running Nat := do
    let factors := (cutAt 'x' value).map count?
    if factors.all Option.isSome then return factors.foldl (fun n f => n * f.getD 1) 1
    else c.refuse 1 (octets "invalid number: " ++ inQuotes value)
  let size : Running Nat := do
    let n ← amount
    if n = 0 then c.refuse 1 (octets "invalid number: " ++ inQuotes value) else return n
  match String.ofList name with
  | "if" => return { p with source := some value }
  | "of" => return { p with target := some value }
  | "ibs" => do return { p with inSize := ← size }
  | "obs" => do return { p with outSize := ← size }
  | "bs" => do
    let n ← size
    return { p with inSize := n, outSize := n, joined := true }
  | "cbs" => do return { p with lineSize := ← size }
  | "count" => do
    let bytes := value.getLast? == some 'B' && (value.dropLast.all Char.isDigit)
    if bytes then
      return { p with count := some ((readNumber? value.dropLast).getD 0).toNat, marks := "count_bytes".toList :: p.marks }
    else return { p with count := some (← amount) }
  | "skip" | "iseek" => do return { p with skip := ← amount }
  | "seek" | "oseek" => do return { p with seek := ← amount }
  | "conv" =>
    let words := cutAt ',' value
    match words.find? fun w => !conversionNames.contains (String.ofList w) with
    | some w => c.misuse 1 (octets "invalid conversion: " ++ inQuotes w)
    | none => return { p with conversions := p.conversions ++ words }
  | "iflag" | "oflag" => return { p with marks := p.marks ++ cutAt ',' value }
  | "status" =>
    match String.ofList value with
    | "none" => return { p with quiet := 2 }
    | "noxfer" => return { p with quiet := 1 }
    | "progress" => return { p with quiet := 0 }
    | _ => c.misuse 1 (octets "invalid status level: " ++ inQuotes value)
  | _ => unknown

/-- neighbouring bytes exchanged -/
def swapPairs : Octets → Octets
  | a :: b :: rest => b :: a :: swapPairs rest
  | short => short

/-- copies blocks of bytes and converts them -/
def dd (c : Call) : Running UtilityRun := do
  let args := if c.args.head? == some ['-', '-'] then c.args.drop 1 else c.args
  let p ← args.foldlM (blockOperand c) ⟨none, none, 512, 512, false, none, 0, 0, [], [], 0, 0⟩
  let converts (word : String) : Bool := p.conversions.contains word.toList
  let marked (word : String) : Bool := p.marks.contains word.toList
  let skip := if marked "skip_bytes" then p.skip else p.skip * p.inSize
  let limit? := p.count.map fun n => if marked "count_bytes" then n else n * p.inSize
  let content ← match p.source with
    | none => pure c.input
    | some name =>
      if deviceAt? c.files name == some .zero then pure (List.replicate (skip + limit?.getD 0) (Char.ofNat 0))
      else if namesInput name then pure c.input
      else match c.readFile name with
        | .ok content => pure content
        | .error .isFolder => c.refuse 1 (octets "error reading " ++ inQuotes name ++ octets ": Is a directory")
        | .error e => c.refuse 1 (octets "failed to open " ++ inQuotes name ++ octets ": " ++ briefCause e)
  let rest := content.drop skip
  let read := match limit? with
    | some n => rest.take n
    | none => rest
  let full := read.length / p.inSize
  let partly := if read.length % p.inSize = 0 then 0 else 1
  let blank := if converts "block" || converts "unblock" then ' ' else Char.ofNat 0
  let data := if converts "sync" && partly = 1 then
      read ++ List.replicate (p.inSize - read.length % p.inSize) blank
    else read
  let data := if converts "swab" then swapPairs data else data
  let data := if converts "lcase" then data.map Char.toLower else if converts "ucase" then data.map Char.toUpper else data
  let data := if converts "block" && p.lineSize != 0 then
      (lines data).flatMap fun l => (l ++ List.replicate (p.lineSize - l.length) ' ').take p.lineSize
    else if converts "unblock" && p.lineSize != 0 then
      let rec unblock : Nat → Octets → Octets
        | 0, _ => []
        | fuel + 1, o => if o.isEmpty then []
          else ((o.take p.lineSize).reverse.dropWhile (· == ' ')).reverse ++ '\n' :: unblock fuel (o.drop p.lineSize)
      unblock (data.length + 1) data
    else data
  let written := data.length
  let outFull := written / p.outSize
  let outPartly := if written % p.outSize = 0 then 0 else 1
  let report : Octets :=
    if p.quiet = 2 then []
    else
      number full ++ '+' :: number partly ++ octets " records in\n" ++ number outFull ++ '+' :: number outPartly
        ++ octets " records out\n" ++
        (if p.quiet = 1 then []
        else number written ++ octets (if written = 1 then " byte" else " bytes") ++ octets " copied, 0.0001 s, 1.0 MB/s\n")
  let left := if p.source.isNone || (p.source.map namesInput).getD false then rest.drop read.length else c.input
  let base : UtilityRun := { c.done 0 [] with err := report, input := left }
  match p.target with
  | none => return { base with out := data }
  | some name =>
    if deviceAt? c.files name == some .null then return base
    else if deviceAt? c.files name == some .full && !data.isEmpty then
      return { base with
        status := 1
        err := c.complaint (octets "error writing " ++ inQuotes name ++ octets ": No space left on device") ++ report }
    else if name == octets "/dev/stdout" then return { base with out := data }
    else if name == octets "/dev/stderr" then return { base with err := data ++ report }
    else
      let before := ((c.readFile name).toOption).getD []
      let there := c.files.has (pathOf name)
      let refused {α : Type} (cause : Octets) : Running α :=
        c.refuse 1 (octets "failed to open " ++ inQuotes name ++ octets ": " ++ cause)
      if converts "excl" && there then refused (octets "File exists")
      if converts "nocreat" && !there then refused (octets "No such file or directory")
      let seek := if marked "seek_bytes" then p.seek else p.seek * p.outSize
      let lead := (before ++ List.replicate seek (Char.ofNat 0)).take seek
      let after := if converts "notrunc" then before.drop (seek + written) else []
      let content := if marked "append" then before ++ data else lead ++ data ++ after
      match c.files.write (pathOf name) (toBytes content) with
      | .ok files => return { base with files }
      | .error e => refused (briefCause e)

end ScriptBridge.Shell
