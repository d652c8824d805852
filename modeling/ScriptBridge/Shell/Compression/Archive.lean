/-
Compressed files: a header, compressed data, and a checksum with the length of the text; several of them may follow each
other. Compressed data is read as `deflate` writes it or any other program does.
-/
import ScriptBridge.Shell.Compression.Deflate
import ScriptBridge.Shell.Rearrange

namespace ScriptBridge.Shell.Compression

/-! ## Reading compressed data -/

/-- what is wrong with compressed data -/
inductive Damage where
  | ended
  | format
  | checksum
  | length
deriving DecidableEq

/-- compressed data that is being read: its bytes with the next bit, and what was written -/
structure Source where
  bytes : Array Nat
  bit : Nat
  out : Array Nat

/-- a reader of compressed data -/
abbrev Unpacking (α : Type) := ExceptT Damage (StateM Source) α

namespace Unpacking

/-- the next bits, the lowest one first -/
def bits : Nat → Unpacking Nat
  | 0 => return 0
  | count + 1 => do
    let s ← get
    match s.bytes[s.bit / 8]? with
    | none => throw .ended
    | some byte => do
      set { s with bit := s.bit + 1 }
      return byte / Nat.pow 2 (s.bit % 8) % 2 + 2 * (← bits count)

/-- a code for reading: how many words there are of each length, and the symbols in the order of their words -/
structure Lookup where
  counts : Array Nat
  symbols : Array Nat

/-- the code whose words have given lengths -/
def Lookup.ofLengths (lengths : List Nat) : Lookup :=
  let counts := occurrences 16 (lengths.filter (· != 0))
  let symbols := (List.range 16).flatMap fun n =>
    if n = 0 then [] else (lengths.zipIdx.filter fun p => p.1 == n).map Prod.snd
  ⟨counts, symbols.toArray⟩

/-- the next symbol: `length` bits were read, which are `code`; the words of that length begin at `first`, and their
symbols at `index` -/
def symbolFrom (l : Lookup) : Nat → Nat → Nat → Nat → Nat → Unpacking Nat
  | 0, _, _, _, _ => throw .format
  | fuel + 1, length, code, first, index => do
    let code := code + (← bits 1)
    let count := l.counts.getD length 0
    if code < first + count then return l.symbols.getD (index + (code - first)) 0
    else symbolFrom l fuel (length + 1) (code * 2) ((first + count) * 2) (index + count)

/-- the next symbol of a code -/
def symbol (l : Lookup) : Unpacking Nat := symbolFrom l 15 1 0 0 0

/-- writes a byte -/
def emit (byte : Nat) : Unpacking Unit := modify fun s => { s with out := s.out.push byte }

/-- copies what was written before -/
def copy (distance : Nat) : Nat → Unpacking Unit
  | 0 => pure ()
  | length + 1 => do
    let s ← get
    if s.out.size < distance then throw .format
    else do
      emit (s.out.getD (s.out.size - distance) 0)
      copy distance length

/-- reads pieces up to the end of a block -/
def pieces (literals distances : Lookup) : Nat → Unpacking Unit
  | 0 => throw .format
  | fuel + 1 => do
    let n ← symbol literals
    if n < 256 then do
      emit n
      pieces literals distances fuel
    else if n = 256 then return
    else do
      match lengthSymbols[n - 257]? with
      | none => throw .format
      | some (base, extra) => do
        let length := base + (← bits extra)
        match distanceSymbols[← symbol distances]? with
        | none => throw .format
        | some (base, extra) => do
          copy (base + (← bits extra)) length
          pieces literals distances fuel

/-- reads lengths of words, so many of them are wanted; the last one comes first among those that were read -/
def lengths (code : Lookup) (wanted : Nat) : Nat → List Nat → Unpacking (List Nat)
  | 0, _ => throw .format
  | fuel + 1, found => do
    if wanted ≤ found.length then return found.reverse.take wanted
    else do
      let n ← symbol code
      if n < 16 then lengths code wanted fuel (n :: found)
      else if n = 16 then do
        let count := 3 + (← bits 2)
        match found with
        | last :: _ => lengths code wanted fuel (List.replicate count last ++ found)
        | [] => throw .format
      else do
        let count ← if n = 17 then (3 + ·) <$> bits 3 else (11 + ·) <$> bits 7
        lengths code wanted fuel (List.replicate count 0 ++ found)

/-- reads so many bytes as they stand -/
def stored : Nat → Unpacking Unit
  | 0 => pure ()
  | count + 1 => do
    emit (← bits 8)
    stored count

/-- reads blocks up to the last one -/
def blocks : Nat → Unpacking Unit
  | 0 => throw .format
  | fuel + 1 => do
    let last ← bits 1
    let kind ← bits 2
    let bound := 8 * (← get).bytes.size + 1
    match kind with
    | 0 => do
      modify fun s => { s with bit := (s.bit + 7) / 8 * 8 }
      let size ← bits 16
      let complement ← bits 16
      if size + complement != 65535 then throw .format
      stored size
    | 1 => pieces (.ofLengths fixedLengths.toList) (.ofLengths fixedDistances.toList) bound
    | 2 => do
      let literals := 257 + (← bits 5)
      let distances := 1 + (← bits 5)
      let shown := 4 + (← bits 4)
      let found ← (lengthOrder.take shown).mapM fun n => do return (n, ← bits 3)
      let code := Lookup.ofLengths ((List.range 19).map fun n => (found.lookup n).getD 0)
      let all ← lengths code (literals + distances) 400 []
      pieces (.ofLengths (all.take literals)) (.ofLengths (all.drop literals)) bound
    | _ => throw .format
    if last = 1 then return else blocks fuel

end Unpacking

/-- the text that compressed data stands for, with how many bytes the data has or what is wrong with it -/
def inflate (o : Octets) : Octets × Except Damage Nat :=
  let source : Source := ⟨(o.map Char.toNat).toArray, 0, #[]⟩
  let (result, s) := (Unpacking.blocks (8 * o.length + 1)).run source
  (s.out.toList.map Char.ofNat, result.map fun _ => (s.bit + 7) / 8)

/-! ## Compressed files -/

/-- the checksum of a text -/
def checksumOf (o : Octets) : Nat :=
  let step (crc : UInt32) (c : Char) : UInt32 :=
    (List.range 8).foldl (fun (crc : UInt32) _ => if crc &&& 1 != 0 then (crc >>> 1) ^^^ 0xEDB88320 else crc >>> 1)
      (crc ^^^ UInt32.ofNat c.toNat)
  (~~~(o.foldl step (~~~(0 : UInt32)))).toNat

/-- a number as bytes, the lowest one first -/
def lowFirst (size n : Nat) : Octets := (List.range size).map fun i => Char.ofNat (n / Nat.pow 256 i % 256)

/-- the number that bytes are, the lowest one first -/
def fromLowFirst (o : Octets) : Nat := o.reverse.foldl (fun n c => n * 256 + c.toNat) 0

/-- the two bytes that a compressed file begins with -/
def magic : Octets := [Char.ofNat 0x1f, Char.ofNat 0x8b]

/-- a text as a compressed file; a name is kept if one is given -/
def pack (level : Nat) (name : Octets) (o : Octets) : Octets :=
  let effort := if level = 9 then 2 else if level = 1 then 4 else 0
  magic ++ [Char.ofNat 8, Char.ofNat (if name.isEmpty then 0 else 8)] ++ lowFirst 4 0
    ++ [Char.ofNat effort, Char.ofNat 3] ++ (if name.isEmpty then [] else name ++ [Char.ofNat 0])
    ++ deflate level o ++ lowFirst 4 (checksumOf o) ++ lowFirst 4 (o.length % 4294967296)

/-- what follows the header of a compressed file -/
def withoutHeader? (o : Octets) : Option Octets :=
  let flags := ((o[3]?).map Char.toNat).getD 0
  let has (bit : Nat) : Bool := flags / bit % 2 = 1
  let rest := o.drop 10
  let rest := if has 4 then rest.drop (2 + fromLowFirst (rest.take 2)) else rest
  let skip (rest : Octets) : Octets := (rest.dropWhile (· != Char.ofNat 0)).drop 1
  let rest := if has 8 then skip rest else rest
  let rest := if has 16 then skip rest else rest
  let rest := if has 2 then rest.drop 2 else rest
  if o.length < 10 then none else some rest

/-- what unpacking comes to: the text, and what is wrong, if something is -/
inductive Fault where
  | noArchive
  | damaged (d : Damage)
  | trailing
deriving DecidableEq

/-- the text of compressed files that follow each other, with what is wrong with them -/
def unpack (first : Bool) : Nat → Octets → Octets × List Fault
  | 0, _ => ([], [])
  | fuel + 1, o =>
    if o.isEmpty then ([], if first then [.damaged .ended] else [])
    else if o.take 2 != magic.take o.length then
      if first then ([], [.noArchive])
      else if o.all (· == Char.ofNat 0) then ([], []) else ([], [.trailing])
    else match withoutHeader? o with
      | none => ([], [.damaged .ended])
      | some body =>
        match inflate body with
        | (part, .error .ended) => (part, [.damaged .ended])
        | (_, .error e) => ([], [.damaged e])
        | (text, .ok used) =>
          let trailer := body.drop used
          let faults : List Fault :=
            (if fromLowFirst (trailer.take 4) == checksumOf text then [] else [.damaged .checksum])
              ++ (if fromLowFirst ((trailer.drop 4).take 4) == text.length % 4294967296 then [] else [.damaged .length])
          if trailer.length < 8 then (text, [.damaged .ended])
          else if !faults.isEmpty then (text, faults)
          else
            let (more, faults) := unpack false fuel (trailer.drop 8)
            (text ++ more, faults)

/-- the wording of a fault, with the name of the file -/
def Fault.message (name : Octets) : Fault → Octets
  | noArchive => octets "\ngzip: " ++ name ++ octets ": not in gzip format\n"
  | damaged .ended => octets "\ngzip: " ++ name ++ octets ": unexpected end of file\n"
  | damaged .format => octets "\ngzip: " ++ name ++ octets ": invalid compressed data--format violated\n"
  | damaged .checksum => octets "\ngzip: " ++ name ++ octets ": invalid compressed data--crc error\n"
  | damaged .length => octets "\ngzip: " ++ name ++ octets ": invalid compressed data--length error\n"
  | trailing => octets "\ngzip: " ++ name ++ octets ": decompression OK, trailing garbage ignored\n"

/-- the status of a fault -/
def Fault.status : Fault → Nat
  | trailing => 2
  | _ => 1

/-- the endings of names of compressed files, with what stands in their place when the file is taken apart -/
def endings : List (String × String) :=
  [(".gz", ""), (".z", ""), (".taz", ".tar"), (".tgz", ".tar"), ("-gz", ""), ("-z", ""), ("_z", ""), (".Z", "")]

/-- how much smaller a text is as compressed data, in percent -/
def saving (whole body : Nat) : Octets :=
  let tenths : Int := if whole = 0 then 0 else
    let scaled : Int := ((whole : Int) - body) * 1000
    if scaled < 0 then -((-scaled + whole / 2) / whole) else (scaled + whole / 2) / whole
  let sign := if tenths < 0 then ['-'] else []
  padLeft 5 (sign ++ number (tenths.natAbs / 10) ++ '.' :: number (tenths.natAbs % 10)) ++ ['%']

/-- compresses files or takes them apart again -/
def gzip (unpacks shows : Bool) (c : Call) : Running UtilityRun := do
  let c := { c with name := octets "gzip" }
  let parsed := c.parse
    { flags := "cdfklnNqrtvV123456789ha", valued := "Sb", wrong := 1, leading := false
      words := [("ascii", 'a'), ("best", '9'), ("decompress", 'd'), ("fast", '1'), ("force", 'f'), ("help", 'h'),
        ("keep", 'k'), ("list", 'l'), ("name", 'N'), ("no-name", 'n'), ("quiet", 'q'), ("recursive", 'r'),
        ("rsyncable", 'a'), ("silent", 'q'), ("stdout", 'c'), ("suffix", 'S'), ("synchronous", 'a'), ("test", 't'),
        ("to-stdout", 'c'), ("uncompress", 'd'), ("verbose", 'v')] }
  let (o, names) ← match parsed with
    | .ok found => pure found
    | .error r =>
      let lead := r.err.take (r.err.length - c.hint.length)
      .error { r with err := lead ++ octets "Try \x60gzip --help' for more information.\n" }
  let level := ((o.last? "123456789").map fun d => d.toNat - 48).getD 6
  let tests := o.has 't'
  let unpacks := unpacks || o.has 'd' || tests || o.has 'l'
  let shows := shows || o.has 'c'
  let suffix := (o.value? 'S').getD (octets ".gz")
  let quiet := o.has 'q'
  let say (text : Octets) : Octets := c.complaint text
  let step (r : UtilityRun) (name : Octets) : UtilityRun :=
    let worse (status : Nat) (err : Octets) : UtilityRun :=
      { r with status := if r.status = 1 then 1 else if status = 0 then r.status else status, err := r.err ++ err }
    let toOutput := shows || namesInput name
    let label := if namesInput name then octets "stdin" else name
    let known := (suffix, []) :: endings.map fun e => (octets e.1, octets e.2)
    let endingOf? (name : Octets) : Option (Octets × Octets) :=
      known.find? fun e => e.1.reverse.isPrefixOf name.reverse && e.1.length < name.length
    let isBare : Bool := unpacks && !namesInput name && !c.files.has (pathOf name) && (endingOf? name).isNone
    let full := if isBare then name ++ suffix else name
    let ending? := endingOf? full
    let content := if namesInput name then .ok r.input else (r.files.read (pathOf full)).map ofBytes
    let r := if namesInput name then { r with input := [] } else r
    match content with
    | .error .isFolder => worse 2 (if quiet then [] else say (name ++ octets " is a directory -- ignored"))
    | .error e => worse 1 (say (full ++ octets ": " ++ briefCause e))
    | .ok text =>
      let bare := match ending? with
        | some (ending, other) => full.take (full.length - ending.length) ++ other
        | none => label
      let note (verb : Octets) (whole body : Nat) : Octets :=
        if o.has 'v' then (if namesInput name then [] else label ++ octets ":\t") ++ saving whole body ++ verb ++ ['\n'] else []
      if !unpacks then
        if ending?.isSome && !toOutput && !o.has 'f' then
          worse 0 (if quiet then [] else say (name ++ octets " already has " ++ suffix ++ octets " suffix -- unchanged"))
        else
          let kept := if namesInput name || o.has 'n' then [] else lastPart name
          let packed := pack level kept text
          let body := packed.length - 18 - (if kept.isEmpty then 0 else kept.length + 1)
          if toOutput then
            { r with
              out := r.out ++ packed
              err := r.err ++ note (if namesInput name then [] else octets " -- replaced with stdout") text.length body }
          else
            let goal := name ++ suffix
            if r.files.has (pathOf goal) && !o.has 'f' then
              worse 2 (say (goal ++ octets " already exists;\tnot overwritten"))
            else match r.files.write (pathOf goal) (toBytes packed) with
              | .ok files =>
                let verb := if o.has 'k' then " -- created " else " -- replaced with "
                { r with
                  files := if o.has 'k' then files else files.remove (pathOf name)
                  err := r.err ++ note (octets verb ++ goal) text.length body }
              | .error e => worse 1 (say (goal ++ octets ": " ++ briefCause e))
      else if ending?.isNone && !toOutput && !tests && !o.has 'l' then
        worse 2 (if quiet then [] else say (name ++ octets ": unknown suffix -- ignored"))
      else
        let (plain, faults) := unpack true (text.length + 1) text
        let (plain, faults) := if faults == [.noArchive] && o.has 'f' && toOutput then (text, []) else (plain, faults)
        let complaint := faults.flatMap fun f => if quiet && f == .trailing then [] else f.message label
        let r' := worse (faults.foldl (fun n f => if n = 1 then 1 else f.status) 0) complaint
        let lost : Bool := faults.any fun f => f != .trailing
        let body := ((withoutHeader? text).getD []).length - 8
        if o.has 'l' then
          if lost then r' else
          let row := padLeft 19 (number text.length) ++ padLeft 20 (number plain.length) ++ ' ' ::
            saving plain.length body ++ ' ' :: bare ++ ['\n']
          { r' with out := r'.out ++ (if r'.out.isEmpty then
              octets "         compressed        uncompressed  ratio uncompressed_name\n" else []) ++ row }
        else if tests then { r' with err := r'.err ++ (if o.has 'v' && !lost then label ++ octets ":\t OK\n" else []) }
        else if toOutput then { r' with out := r'.out ++ plain }
        else if lost then r'
        else
          let goal := bare
          if r.files.has (pathOf goal) && !o.has 'f' then worse 2 (say (goal ++ octets " already exists;\tnot overwritten"))
          else match r.files.write (pathOf goal) (toBytes plain) with
            | .ok files =>
              let verb := if o.has 'k' then " -- created " else " -- replaced with "
              { r' with
                files := if o.has 'k' then files else files.remove (pathOf full)
                err := r'.err ++ note (octets verb ++ goal) plain.length body }
            | .error e => worse 1 (say (goal ++ octets ": " ++ briefCause e))
  return (if names.isEmpty then [['-']] else names).foldl step (c.done 0 [])

end ScriptBridge.Shell.Compression
