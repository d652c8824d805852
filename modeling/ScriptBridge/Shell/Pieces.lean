/-
Cutting a text into pieces of so many lines or bytes, or into so many pieces. Each piece becomes a file, whose name ends
with letters or digits that count the pieces, or goes to a program.
-/
import ScriptBridge.Shell.Launcher
import ScriptBridge.Shell.Rearrange

namespace ScriptBridge.Shell.Pieces

/-- how a text is cut -/
inductive Cut where
  | lines (n : Nat)
  | bytes (n : Nat)
  | lineBytes (n : Nat)
  | equal (n : Nat)
  | equalLines (n : Nat)
  | turns (n : Nat)

/-- a list cut into parts of one length -/
def chunks {α : Type} (size : Nat) : Nat → List α → List (List α)
  | 0, _ => []
  | fuel + 1, items => if items.isEmpty then [] else items.take size :: chunks size fuel (items.drop size)

/-- the lines of a text, each with what ends it -/
def linesWith (mark : Char) (o : Octets) : List Octets :=
  let (done, last) := o.foldl (fun (acc : List Octets × Octets) c =>
    if c == mark then ((c :: acc.2).reverse :: acc.1, []) else (acc.1, c :: acc.2)) ([], [])
  (if last.isEmpty then done else last.reverse :: done).reverse

/-- lines put together as long as they have no more than so many bytes; a longer line is cut -/
def fill (size : Nat) : Nat → Octets → List Octets → List Octets
  | 0, _, _ => []
  | _, current, [] => if current.isEmpty then [] else [current]
  | fuel + 1, current, line :: rest =>
    if current.length + line.length ≤ size then fill size fuel (current ++ line) rest
    else if !current.isEmpty then current :: fill size fuel [] (line :: rest)
    else line.take size :: fill size fuel [] (line.drop size :: rest)

/-- the pieces of a text -/
def Cut.pieces (cut : Cut) (mark : Char) (o : Octets) : List Octets :=
  match cut with
  | .lines n => (chunks n (o.length + 1) (linesWith mark o)).map List.flatten
  | .bytes n => chunks n (o.length + 1) o
  | .lineBytes n => fill n (2 * o.length + 2) [] (linesWith mark o)
  | .equal n =>
    let place (k : Nat) : Nat := k * (o.length / n) + min k (o.length % n)
    (List.range n).map fun k => (o.drop (place k)).take (place (k + 1) - place k)
  | .equalLines n =>
    let size := o.length / n
    let limit (k : Nat) : Nat := if k + 1 = n then o.length else (k + 1) * size + min (k + 1) (o.length % n)
    let (parts, _) := (linesWith mark o).foldl (fun (acc : List (Nat × Octets) × Nat) line =>
      let owner := ((List.range n).find? fun k => acc.2 < limit k).getD (n - 1)
      ((owner, line) :: acc.1, acc.2 + line.length)) ([], 0)
    (List.range n).map fun k => (parts.reverse.filter fun p => p.1 == k).flatMap Prod.snd
  | .turns n =>
    let all := (linesWith mark o).zipIdx
    (List.range n).map fun k => (all.filter fun p => p.2 % n == k).flatMap Prod.fst

/-- the digits of a number in an alphabet, as many as asked for -/
def digitsOf (alphabet : Octets) : Nat → Nat → Octets
  | 0, _ => []
  | width + 1, n => digitsOf alphabet width (n / alphabet.length) ++ [alphabet.getD (n % alphabet.length) 'a']

/-- the ending that counts a piece, if there is one; without a fixed width endings become wider before they run out -/
def ending? (alphabet : Octets) (width : Nat) (widens : Bool) : Nat → Nat → Octets → Option Octets
  | 0, _, _ => none
  | fuel + 1, n, lead =>
    let size := alphabet.length
    if !widens then if n < Nat.pow size width then some (digitsOf alphabet width n) else none
    else
      let body := width + lead.length
      let room := (size - 1) * Nat.pow size (body - 1)
      if n < room then some (lead ++ digitsOf alphabet body n)
      else ending? alphabet width widens fuel (n - room) (lead ++ [alphabet.getLastD 'z'])

/-- how a text is cut into so many pieces, and which one of them is asked for -/
def numbered? (o : Octets) : Option (Cut × Option Nat) :=
  let (kind, body) := match o with
    | 'l' :: '/' :: rest => ('l', rest)
    | 'r' :: '/' :: rest => ('r', rest)
    | rest => ('b', rest)
  let numbers := (cutAt '/' body).map fun d => if d.isEmpty || !d.all Char.isDigit then 0 else (digitsIn 10 d).1
  let cut (n : Nat) : Cut := if kind == 'l' then .equalLines n else if kind == 'r' then .turns n else .equal n
  match numbers with
  | [n] => if n = 0 then none else some (cut n, none)
  | [k, n] => if n = 0 || k = 0 || n < k then none else some (cut n, some (k - 1))
  | _ => none

/-- how a program ended that did not do well -/
def endingWords (status : Nat) : Octets :=
  match endingSignal? status with
  | some n => octets "signal " ++ signalName n
  | none => octets "exit " ++ number status

/-- cuts a text into pieces -/
def split (run : Runner) (c : Call) : Running UtilityRun := do
  let args := c.args.map fun a => match a with
    | '-' :: d :: rest => if d.isDigit && rest.all Char.isDigit then '-' :: 'l' :: d :: rest else a
    | a => a
  let (o, names) ← { c with args }.parse
    { flags := "deux", valued := "abClnt%+", wrong := 1, leading := false, optional := "DX"
      words := [("additional-suffix", '+'), ("bytes", 'b'), ("elide-empty-files", 'e'), ("filter", '%'),
        ("hex-suffixes", 'X'), ("line-bytes", 'C'), ("lines", 'l'), ("number", 'n'), ("numeric-suffixes", 'D'),
        ("separator", 't'), ("suffix-length", 'a'), ("unbuffered", 'u'), ("verbose", 'v')] }
  match names with
  | _ :: _ :: extra :: _ => c.misuse 1 (octets "extra operand " ++ inQuotes extra)
  | _ => pure ()
  let size (what : String) (text : Octets) : Running Nat :=
    match count? text with
    | some n => if n = 0 then c.refuse 1 (octets ("invalid number of " ++ what ++ ": ") ++ inQuotes text) else return n
    | none => c.refuse 1 (octets ("invalid number of " ++ what ++ ": ") ++ inQuotes text)
  let cuts ← (o.given.filter fun g => "bCln".toList.contains g.1).mapM fun (letter, value) => do
    match letter with
    | 'b' => return (Cut.bytes (← size "bytes" value), none)
    | 'C' => return (Cut.lineBytes (← size "bytes" value), none)
    | 'l' => return (Cut.lines (← size "lines" value), none)
    | _ => match numbered? value with
      | some found => return found
      | none =>
        let parts := (cutAt '/' value).filter fun d => !d.isEmpty && d.all Char.isDigit
        match parts with
        | [k, n] => c.refuse 1 (if (digitsIn 10 n).1 = 0 then octets "invalid number of chunks: " ++ inQuotes n
            else octets "invalid chunk number: " ++ inQuotes k)
        | _ => c.refuse 1 (octets "invalid number of chunks: " ++ inQuotes (((cutAt '/' value).getLast?).getD []))
  let (cut, only) ← match cuts with
    | [] => pure (.lines 1000, none)
    | [cut] => pure cut
    | _ => c.misuse 1 (octets "cannot split in more than one way")
  let start := (o.given.filterMap fun g => if (g.1 == 'D' || g.1 == 'X') && !g.2.isEmpty then some g.2 else none).getLast?
  let firstNumber := (start.map fun text => (digitsIn (if o.has 'X' then 16 else 10) text).1).getD 0
  let alphabet : Octets := if o.has 'x' || o.has 'X' then "0123456789abcdef".toList
    else if o.has 'd' || o.has 'D' then "0123456789".toList else "abcdefghijklmnopqrstuvwxyz".toList
  let width ← match o.value? 'a' with
    | none => pure none
    | some text =>
      if text.isEmpty || !text.all Char.isDigit then c.refuse 1 (octets "invalid suffix length: " ++ inQuotes text)
      else pure (some (digitsIn 10 text).1)
  let mark := match o.value? 't' with
    | some [d] => d
    | some ['\\', '0'] => Char.ofNat 0
    | _ => '\n'
  let source := names.headD ['-']
  let lead := (names[1]?).getD ['x']
  let (text, rest) ← if namesInput source then pure (c.input, [])
    else match c.readFile source with
      | .ok text => pure (text, c.input)
      | .error .isFolder => c.refuse 1 (source ++ octets ": Is a directory")
      | .error e => c.refuse 1 (octets "cannot open " ++ inQuotes source ++ octets " for reading: " ++ briefCause e)
  let pieces := cut.pieces mark text
  let pieces := if o.has 'e' || o.has '%' then pieces.filter fun p => !p.isEmpty else pieces
  let done : UtilityRun := { c.done 0 [] with input := rest }
  match only with
  | some k => return { done with out := (pieces[k]?).getD [] }
  | none =>
    let fixed := width.filter (0 < ·)
    let widens := fixed.isNone && start.isNone
    let step (r : UtilityRun) (item : Octets × Nat) : Running UtilityRun := do
      match ending? alphabet (fixed.getD 2) widens 20 (firstNumber + item.2) [] with
      | none => .error { r with status := 1, err := r.err ++ c.complaint (octets "output file suffixes exhausted") }
      | some ending =>
        let name := lead ++ ending ++ (o.value? '+').getD []
        let note := if o.has 'v' && !o.has '%' then octets "creating file " ++ inQuotes name ++ ['\n'] else []
        let r := { r with out := r.out ++ note }
        match o.value? '%' with
        | none => match r.files.write (pathOf name) (toBytes item.1) with
          | .ok files => return { r with files }
          | .error e => .error { r with status := 1, err := r.err ++ c.complaint (name ++ octets ": " ++ briefCause e) }
        | some command =>
          let shell := ((c.environment.find? fun e => e.1 == octets "SHELL").map Prod.snd).getD (octets "/bin/sh")
          match run shell [octets "-c", command] ⟨item.1, none⟩ r.files (withVariable c.environment (octets "FILE") name) with
          | .error e => .error { r with status := 1, err := r.err ++ c.complaint (octets "failed to run command: \"" ++ shell
              ++ octets " -c " ++ command ++ octets "\": " ++ briefCause e) }
          | .ok ran =>
            let r := { r with out := r.out ++ ran.out, err := r.err ++ ran.err, files := ran.files }
            if ran.status = 0 then return r
            else .error { r with
              status := match endingSignal? ran.status with
                | some n => signalBase + n
                | none => ran.status
              err := r.err ++ c.complaint (octets "with FILE=" ++ name ++ octets ", " ++ endingWords ran.status
                ++ octets " from command: " ++ command) }
    pieces.zipIdx.foldlM step done

end ScriptBridge.Shell.Pieces
