/-
Utilities that show and compare bytes: `od`, `base64`, `base32`, `cmp` and `cksum`.

A dump is a table: each row is an address and a block of bytes, shown once for each format that was asked for, in
columns that stand under one another. Rows that repeat the one before are left out and stand as a star.

In an alphabet of thirty-two letters five bytes are eight letters, and a last group that is not whole is filled up with
equal signs. Reading gives the bytes before the first fault.
-/
import ScriptBridge.Shell.Utility

namespace ScriptBridge.Shell

/-- how the numbers of a dump are written -/
inductive DumpForm where
  | signed
  | unsigned
  | octal
  | hexadecimal
  | char
  | name
deriving DecidableEq

/-- a format of a dump: the bytes of each number, and whether the row ends with its characters -/
structure DumpFormat where
  form : DumpForm
  size : Nat
  trailing : Bool

namespace DumpFormat

/-- the width of the widest number of a format -/
def width (f : DumpFormat) : Nat :=
  let digits (base : Nat) : Nat := (Nat.toDigits base (Nat.pow 256 f.size - 1)).length
  match f.form with
  | .signed => (Nat.toDigits 10 (Nat.pow 256 f.size / 2)).length + 1
  | .unsigned => digits 10
  | .octal => digits 8
  | .hexadecimal => digits 16
  | .char => 3
  | .name => 3

/-- the names of the control characters, and of the blank after them -/
def controlNames : List String :=
  ["nul", "soh", "stx", "etx", "eot", "enq", "ack", "bel", "bs", "ht", "nl", "vt", "ff", "cr", "so", "si", "dle",
    "dc1", "dc2", "dc3", "dc4", "nak", "syn", "etb", "can", "em", "sub", "esc", "fs", "gs", "rs", "us", "sp"]

/-- digits with zeros in front -/
def zeroPadded (width base n : Nat) : Octets :=
  let digits := Nat.toDigits base n
  List.replicate (width - digits.length) '0' ++ digits

/-- how a byte is shown as a character -/
def charText (c : Char) : Octets :=
  match c.toNat with
  | 0 => ['\\', '0']
  | 7 => ['\\', 'a']
  | 8 => ['\\', 'b']
  | 9 => ['\\', 't']
  | 10 => ['\\', 'n']
  | 11 => ['\\', 'v']
  | 12 => ['\\', 'f']
  | 13 => ['\\', 'r']
  | n => if 32 ≤ n && n < 127 then [c] else zeroPadded 3 8 n

/-- how some bytes are shown, the lowest first -/
def item (f : DumpFormat) (bytes : Octets) : Octets :=
  let n := bytes.foldr (fun c n => n * 256 + c.toNat) 0
  match f.form with
  | .signed =>
    let range := Nat.pow 256 f.size
    number (if range / 2 ≤ n then (n : Int) - (range : Int) else (n : Int))
  | .unsigned => number n
  | .octal => zeroPadded f.width 8 n
  | .hexadecimal => zeroPadded f.width 16 n
  | .char => charText (bytes.headD (Char.ofNat 0))
  | .name =>
    let k := n % 128
    match controlNames[k]? with
    | some name => octets name
    | none => if k = 127 then octets "del" else [Char.ofNat k]

/-- a block of bytes in a format. The columns of a block that is `columns` wide are spread over that width. -/
def block (f : DumpFormat) (blockSize columns : Nat) (bytes : Octets) : Octets :=
  let count := blockSize / f.size
  let spare := columns - (f.width + 1) * count
  let rec cells : Nat → Nat → Octets → Octets
    | 0, _, _ => []
    | left + 1, before, bytes =>
      let after := spare * left / count
      let width := before - after + 1 + f.width
      if bytes.isEmpty then
        if f.trailing then List.replicate width ' ' ++ cells left after [] else []
      else padLeft width (f.item (bytes.take f.size)) ++ cells left after (bytes.drop f.size)
  cells count spare bytes ++
    (if f.trailing then octets "  >" ++ bytes.map (fun c => if ' ' ≤ c && c ≤ '~' then c else '.') ++ ['<'] else [])

/-- the size that a letter names -/
def sizeOf? (c : Char) : Option Nat :=
  match c with
  | 'C' => some 1
  | 'S' => some 2
  | 'I' => some 4
  | 'L' => some 8
  | _ => none

/-- the formats that a text asks for -/
def readAll (whole : Octets) : Nat → Octets → Except Octets (List DumpFormat)
  | 0, _ => .ok []
  | _, [] => .ok []
  | fuel + 1, letter :: rest =>
    let finish (form : DumpForm) (size : Nat) (rest : Octets) : Except Octets (List DumpFormat) := do
      let trailing := rest.head? == some 'z'
      let more ← readAll whole fuel (if trailing then rest.drop 1 else rest)
      return ⟨form, size, trailing⟩ :: more
    let sized (form : DumpForm) : Except Octets (List DumpFormat) :=
      match rest.head?.bind sizeOf? with
      | some size => finish form size (rest.drop 1)
      | none =>
        let (size, length) := digitsIn 10 rest
        if length = 0 then finish form 4 rest
        else if [1, 2, 4, 8].contains size then finish form size (rest.drop length)
        else .error (octets "invalid type string '" ++ whole ++ octets "';\nthis system doesn't provide a "
          ++ number size ++ octets "-byte integral type")
    match letter with
    | 'a' => finish .name 1 rest
    | 'c' => finish .char 1 rest
    | 'd' => sized .signed
    | 'u' => sized .unsigned
    | 'o' => sized .octal
    | 'x' => sized .hexadecimal
    | c => .error (octets "invalid character '" ++ c :: octets "' in type string '" ++ whole ++ ['\''])

end DumpFormat

/-- the format that a letter stands for -/
def letterFormat? (c : Char) : Option DumpFormat :=
  match c with
  | 'a' => some ⟨.name, 1, false⟩
  | 'b' => some ⟨.octal, 1, false⟩
  | 'c' => some ⟨.char, 1, false⟩
  | 'd' => some ⟨.unsigned, 2, false⟩
  | 'i' => some ⟨.signed, 4, false⟩
  | 'l' => some ⟨.signed, 8, false⟩
  | 'o' => some ⟨.octal, 2, false⟩
  | 's' => some ⟨.signed, 2, false⟩
  | 'x' => some ⟨.hexadecimal, 2, false⟩
  | _ => none

/-- an address in front of a row; `none` when addresses are left out -/
def addressText (radix : Char) (n : Nat) : Option Octets :=
  match radix with
  | 'd' => some (DumpFormat.zeroPadded 7 10 n)
  | 'o' => some (DumpFormat.zeroPadded 7 8 n)
  | 'x' => some (DumpFormat.zeroPadded 6 16 n)
  | _ => none

/-- the rows of a dump; `last` is the block before, if it was a whole one -/
def dumpRows (radix : Char) (formats : List DumpFormat) (size : Nat) (all : Bool) :
    Nat → Nat → Option Octets → Bool → Octets → Octets
  | 0, _, _, _, _ => []
  | fuel + 1, place, last, starred, o =>
    if o.isEmpty then (addressText radix place).elim [] (· ++ ['\n'])
    else
      let bytes := o.take size
      let rest := o.drop size
      if !all && last == some bytes && bytes.length = size then
        (if starred then [] else octets "*\n") ++ dumpRows radix formats size all fuel (place + size) last true rest
      else
        let columns := formats.foldl (fun n f => max n ((f.width + 1) * (size / f.size))) 0
        let lead := (addressText radix place).getD []
        let row := formats.zipIdx.flatMap fun (f, k) =>
          (if k = 0 then lead else List.replicate lead.length ' ') ++ f.block size columns bytes ++ ['\n']
        row ++ dumpRows radix formats size all fuel (place + bytes.length) (some bytes) false rest

/-- shows bytes as numbers or characters -/
def od (c : Call) : Running UtilityRun := do
  let args := c.args.map fun a => if a == octets "-w" || a == octets "--width" then octets "-w32" else a
  let (o, names) ← { c with args }.parse
    { flags := "abcdilosxv", valued := "AjNtwS", wrong := 1, leading := false
      words := [("address-radix", 'A'), ("skip-bytes", 'j'), ("read-bytes", 'N'), ("format", 't'),
        ("output-duplicates", 'v'), ("width", 'w')] }
  let radix ← match (o.value? 'A').getD ['o'] with
    | 'd' :: _ => pure 'd'
    | 'o' :: _ => pure 'o'
    | 'x' :: _ => pure 'x'
    | 'n' :: _ => pure 'n'
    | other => c.refuse 1 (octets "invalid output address radix '" ++ other.take 1
        ++ octets "'; it must be one character from [doxn]")
  let amount (letter : Char) : Running (Option Nat) :=
    match o.value? letter with
    | none => pure none
    | some text =>
      let (n, rest) := wholeNumeral text
      match multiplier? rest with
      | some k => if n < 0 || rest.length == text.length then
            c.refuse 1 (octets "invalid -" ++ letter :: octets " argument '" ++ text ++ ['\''])
          else pure (some (n.toNat * k))
      | none => c.refuse 1 (octets "invalid -" ++ letter :: octets " argument '" ++ text ++ ['\''])
  let skip := (← amount 'j').getD 0
  let limit ← amount 'N'
  let asked ← o.given.mapM fun (letter, value) => do
    if letter == 't' then
      match DumpFormat.readAll value (value.length + 1) value with
      | .ok formats => return formats
      | .error message => c.refuse 1 message
    else return (letterFormat? letter).toList
  let formats := match asked.flatten with
    | [] => [⟨.octal, 2, false⟩]
    | formats => formats
  let unit := formats.foldl (fun (n : Nat) (f : DumpFormat) => Nat.lcm n f.size) 1
  let usual := if 16 < unit then unit else 16 / unit * unit
  let asked ← amount 'w'
  let (size, warning) := match asked with
    | none => (usual, [])
    | some n =>
      if n != 0 && n % unit = 0 then (n, [])
      else (unit, c.complaint (octets "warning: invalid width " ++ number n ++ octets "; using " ++ number unit
        ++ octets " instead"))
  let g := c.gather names plainComplaint
  if g.failed && g.parts.isEmpty then return c.finish g 1 []
  let whole := g.whole
  if whole.length < skip then
    .error { c.finish g 1 [] with status := 1, err := g.err ++ c.complaint (octets "cannot skip past end of combined input") }
  let shown := match limit with
    | some n => (whole.drop skip).take n
    | none => whole.drop skip
  let r := c.finish g 1 (dumpRows radix formats size (o.has 'v') (shown.length + 1) skip none false shown)
  return { r with
    err := warning ++ r.err
    lead := some 0
    input := match limit with
      | some n => if names.isEmpty then c.input.drop (skip + n) else r.input
      | none => r.input }

/-! ## Letters for bytes -/

/-- the characters that stand for six bits -/
def sextets : List Char :=
  "ABCDEFGHIJKLMNOPQRSTUVWXYZabcdefghijklmnopqrstuvwxyz0123456789+/".toList

/-- three bytes as four characters, the last ones filled up -/
def encodeSextets : Octets → Octets
  | a :: b :: c :: rest =>
    let n := a.toNat * 65536 + b.toNat * 256 + c.toNat
    [n / 262144, n / 4096 % 64, n / 64 % 64, n % 64].map (fun k => (sextets[k]?).getD 'A') ++ encodeSextets rest
  | [a, b] =>
    let n := a.toNat * 65536 + b.toNat * 256
    [n / 262144, n / 4096 % 64, n / 64 % 64].map (fun k => (sextets[k]?).getD 'A') ++ ['=']
  | [a] =>
    let n := a.toNat * 65536
    [n / 262144, n / 4096 % 64].map (fun k => (sextets[k]?).getD 'A') ++ ['=', '=']
  | [] => []

/-- the bytes of four characters at a time; `false` when the text breaks off or is broken -/
def decodeSextets : Octets → Octets × Bool
  | [] => ([], true)
  | a :: b :: c :: d :: rest =>
    match sextets.idxOf? a, sextets.idxOf? b with
    | some x, some y =>
      let first := Char.ofNat ((x * 64 + y) / 16)
      match sextets.idxOf? c, sextets.idxOf? d with
      | some z, some w =>
        let n := x * 262144 + y * 4096 + z * 64 + w
        let (more, fine) := decodeSextets rest
        ([n / 65536, n / 256 % 256, n % 256].map Char.ofNat ++ more, fine)
      | some z, none =>
        let n := x * 262144 + y * 4096 + z * 64
        let (more, fine) := if d == '=' then decodeSextets rest else ([], false)
        ([n / 65536, n / 256 % 256].map Char.ofNat ++ more, fine)
      | none, _ =>
        let (more, fine) := if c == '=' && d == '=' then decodeSextets rest else ([], false)
        (first :: more, fine)
    | _, _ => ([], false)
  | short =>
    let known := short.filterMap fun c => sextets.idxOf? c
    match known with
    | [x, y, z] =>
      let n := x * 262144 + y * 4096 + z * 64
      ([n / 65536, n / 256 % 256].map Char.ofNat, false)
    | [x, y] => ([Char.ofNat ((x * 64 + y) / 16)], false)
    | _ => ([], false)

/-- a text in lines of a width -/
def wrapped (width : Nat) : Nat → Octets → Octets
  | 0, _ => []
  | fuel + 1, o => if o.isEmpty then [] else o.take width ++ '\n' :: wrapped width fuel (o.drop width)

/-- the options of a call that turns bytes into letters, the width of its lines and what it reads -/
def lettersCall (c : Call) : Running (Options × Nat × Gathered) := do
  let (o, names) ← c.parse
    { flags := "di", valued := "w", wrong := 1, leading := false
      words := [("decode", 'd'), ("ignore-garbage", 'i'), ("wrap", 'w')] }
  let width ← match o.value? 'w' with
    | none => pure 76
    | some text => match count? text with
      | some n => pure n
      | none => c.refuse 1 (octets "invalid wrap size: '" ++ text ++ ['\''])
  match names with
  | _ :: extra :: _ => c.misuse 1 (octets "extra operand '" ++ extra ++ ['\''])
  | _ => pure ()
  return (o, width, c.gather names plainComplaint)

/-- turns bytes into letters and back -/
def base64 (c : Call) : Running UtilityRun := do
  let (o, width, g) ← lettersCall c
  if g.failed then return c.finish g 1 []
  if o.has 'd' then
    let kept := if o.has 'i' then g.whole.filter fun d => sextets.contains d || d == '='
      else g.whole.filter (· != '\n')
    let (out, fine) := decodeSextets kept
    let r := c.finish g 1 out
    return if fine then r else { r with status := 1, err := r.err ++ c.complaint (octets "invalid input") }
  else
    let out := encodeSextets g.whole
    return c.finish g 1 (if width = 0 then out else wrapped width (out.length + 1) out)

/-! ## Comparing -/

/-- the first place where two texts differ, with the line, or the end of the shorter one -/
def firstDifference : Nat → Nat → Octets → Octets → Option (Nat × Nat × Option (Char × Char))
  | place, line, a :: rest, b :: others =>
    if a = b then firstDifference (place + 1) (if a == '\n' then line + 1 else line) rest others
    else some (place, line, some (a, b))
  | _, _, [], [] => none
  | place, line, _, _ => some (place, line, none)

/-- compares two files byte by byte -/
def cmp (c : Call) : Running UtilityRun := do
  let (o, names) ← c.named <| c.parse
    { flags := "lsb", valued := "n", wrong := 2, leading := false
      words := [("verbose", 'l'), ("quiet", 's'), ("silent", 's'), ("print-bytes", 'b'), ("bytes", 'n')] }
  let (first, second) ← match names with
    | [] => c.named (c.misuse 2 (octets "missing operand after 'cmp'"))
    | [a] => pure (a, ['-'])
    | a :: b :: _ => pure (a, b)
  let g := c.gather [first, second] plainComplaint
  match g.parts with
  | [(_, a), (_, b)] =>
    let cutTo (o' : Octets) : Octets := match (o.value? 'n').bind count? with
      | some n => o'.take n
      | none => o'
    let (a, b) := (cutTo a, cutTo b)
    match firstDifference 1 1 a b with
    | none => return c.finish g 2 []
    | some (place, line, found) =>
      let shorter := if a.length < b.length then first else second
      let short := if a.length < b.length then a else b
      let ended : Octets := octets "cmp: EOF on " ++ shorter ++
        (if short.isEmpty then octets " which is empty\n"
        else octets " after byte " ++ number short.length ++
          (if o.has 'l' then []
          else
            let count := short.count '\n'
            if short.getLast? == some '\n' then octets ", line " ++ number count
            else octets ", in line " ++ number ((count + 1 : Nat) : Int)) ++ ['\n'])
      if o.has 's' then return { c.finish g 2 [] with status := 1 }
      else if o.has 'l' then
        let width := (number (max a.length b.length)).length
        let rows := ((a.zip b).zipIdx.filter fun (p, _) => p.1 != p.2).flatMap fun (p, k) =>
          padLeft width (number ((k + 1 : Nat) : Int)) ++ ' ' :: padLeft 3 (Nat.toDigits 8 p.1.toNat)
            ++ ' ' :: padLeft 3 (Nat.toDigits 8 p.2.toNat) ++ ['\n']
        return { c.finish g 2 rows with status := 1, err := if a.length == b.length then [] else ended }
      else match found with
        | none => return { c.finish g 2 [] with status := 1, err := ended }
        | some (x, y) =>
          let byte (d : Char) : Octets := padLeft 3 (Nat.toDigits 8 d.toNat) ++ ' ' :: [d]
          let out := first ++ ' ' :: second ++ octets " differ: " ++ octets (if o.has 'b' then "byte " else "char ")
            ++ number place ++ octets ", line " ++ number line ++
            (if o.has 'b' then octets " is " ++ byte x ++ ' ' :: byte y else [])
          return { c.finish g 2 (out ++ ['\n']) with status := 1 }
  | _ => return c.finish g 2 []

/-- the next value of a checksum after a byte -/
def crcStep (crc : UInt32) (byte : UInt8) : UInt32 :=
  (List.range 8).foldl (fun crc _ => if crc &&& 0x80000000 != 0 then (crc <<< 1) ^^^ 0x04C11DB7 else crc <<< 1)
    (crc ^^^ (byte.toUInt32 <<< 24))

/-- the checksum of a text, which its length goes into, the lowest byte first -/
def checksum (o : Octets) : Nat :=
  let rec lengthBytes : Nat → Nat → List UInt8
    | 0, _ => []
    | fuel + 1, n => if n = 0 then [] else UInt8.ofNat n :: lengthBytes fuel (n / 256)
  (~~~((toBytes o ++ lengthBytes 8 o.length).foldl crcStep 0)).toNat

/-- shows checksums with lengths -/
def cksum (c : Call) : Running UtilityRun := do
  let (_, names) ← c.parse { flags := "", valued := "", words := [], wrong := 1, leading := false }
  let g := c.gather names plainComplaint
  let rows (parts : List (Octets × Octets)) : Octets := parts.flatMap fun (name, o) =>
    number (checksum o) ++ ' ' :: number o.length ++ (if names.isEmpty then [] else ' ' :: name) ++ ['\n']
  return { c.finish g 1 (rows g.parts) with lead := g.leadOf rows }

/-! ## Letters of an alphabet of thirty-two -/

/-- the letters, by their values -/
def quintets : List Char := "ABCDEFGHIJKLMNOPQRSTUVWXYZ234567".toList

/-- how many letters stand for some bytes of a group -/
def lettersFor : Nat → Nat
  | 0 => 0
  | 1 => 2
  | 2 => 4
  | 3 => 5
  | 4 => 7
  | _ => 8

/-- bytes as letters -/
def encodeQuintets : Nat → Octets → Octets
  | 0, _ => []
  | fuel + 1, o =>
    if o.isEmpty then []
    else
      let group := o.take 5
      let n := (List.range 5).foldl (fun n k => n * 256 + ((group[k]?).elim 0 Char.toNat)) 0
      let letters := (List.range 8).map fun k => (quintets[n / Nat.pow 32 (7 - k) % 32]?).getD '='
      let used := lettersFor group.length
      letters.take used ++ List.replicate (8 - used) '=' ++ encodeQuintets fuel (o.drop 5)

/-- the bytes of a whole group of letters, and whether it is well formed -/
def groupBytes (group : Octets) : Octets × Bool :=
  let values := group.map fun c => quintets.idxOf? c
  let valid := (values.takeWhile Option.isSome).length
  let padding := group.drop valid
  let bytes := valid * 5 / 8
  let n := values.foldl (fun n v => n * 32 + v.getD 0) 0
  let out := (List.range bytes).map fun k => Char.ofNat (n / Nat.pow 256 (4 - k) % 256)
  (out, padding.all (· == '=') && [2, 4, 5, 7, 8].contains valid)

/-- letters as bytes, and whether they are well formed -/
def decodeQuintets : Nat → Octets → Octets × Bool
  | 0, _ => ([], true)
  | fuel + 1, o =>
    if o.isEmpty then ([], true)
    else if o.length < 8 then ([], false)
    else
      let (bytes, fine) := groupBytes (o.take 8)
      if !fine then (bytes, false)
      else
        let (more, fine) := decodeQuintets fuel (o.drop 8)
        (bytes ++ more, fine)

/-- turns bytes into letters and back -/
def base32 (c : Call) : Running UtilityRun := do
  let (o, width, g) ← lettersCall c
  if g.failed then return c.finish g 1 []
  if o.has 'd' then
    let kept := if o.has 'i' then g.whole.filter fun d => quintets.contains d || d == '='
      else g.whole.filter (· != '\n')
    let (out, fine) := decodeQuintets (kept.length + 1) kept
    let r := c.finish g 1 out
    return if fine then r else { r with status := 1, err := r.err ++ c.complaint (octets "invalid input") }
  else
    let out := encodeQuintets (g.whole.length + 1) g.whole
    return c.finish g 1 (if width = 0 then out else wrapped width (out.length + 1) out)

end ScriptBridge.Shell
