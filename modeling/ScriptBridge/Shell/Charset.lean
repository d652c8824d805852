/-
Changing the encoding of text. Each encoding reads characters from bytes and writes them as bytes; what it cannot read
is at a place that is reported, and what the other encoding cannot write is too.
-/
import ScriptBridge.Shell.Utility

namespace ScriptBridge.Shell.Charset

/-- the order of the bytes of a number -/
inductive ByteOrder where
  | big
  | little
deriving DecidableEq

/-- an encoding: of ASCII alone, of one byte for each character, of bytes in varying number, or of numbers of two or four
bytes, whose order a mark may give -/
inductive Encoding where
  | ascii
  | single (others : List (Nat × Nat))
  | utf8
  | pairs (order : Option ByteOrder) (surrogates : Bool)
  | quads (order : Option ByteOrder)
deriving DecidableEq

/-- the codes that one byte stands for where it is not the code itself; zero is none -/
def latinNine : List (Nat × Nat) :=
  [(0xa4, 0x20ac), (0xa6, 0x160), (0xa8, 0x161), (0xb4, 0x17d), (0xb8, 0x17e), (0xbc, 0x152), (0xbd, 0x153), (0xbe, 0x178)]

/-- the codes of the characters that are common in western documents, where they are not the byte itself -/
def westernPage : List (Nat × Nat) :=
  [(0x80, 0x20ac), (0x81, 0), (0x82, 0x201a), (0x83, 0x192), (0x84, 0x201e), (0x85, 0x2026), (0x86, 0x2020),
    (0x87, 0x2021), (0x88, 0x2c6), (0x89, 0x2030), (0x8a, 0x160), (0x8b, 0x2039), (0x8c, 0x152), (0x8d, 0), (0x8e, 0x17d),
    (0x8f, 0), (0x90, 0), (0x91, 0x2018), (0x92, 0x2019), (0x93, 0x201c), (0x94, 0x201d), (0x95, 0x2022), (0x96, 0x2013),
    (0x97, 0x2014), (0x98, 0x2dc), (0x99, 0x2122), (0x9a, 0x161), (0x9b, 0x203a), (0x9c, 0x153), (0x9d, 0), (0x9e, 0x17e),
    (0x9f, 0x178)]

/-- the encodings by their names -/
def names : List (String × Encoding) :=
  [("ANSI_X3.4-1968", .ascii), ("ASCII", .ascii), ("US-ASCII", .ascii), ("US", .ascii), ("646", .ascii), ("UTF-8", .utf8),
    ("UTF8", .utf8), ("ISO-8859-1", .single []), ("ISO8859-1", .single []), ("ISO_8859-1", .single []),
    ("ISO88591", .single []), ("8859_1", .single []), ("LATIN1", .single []), ("L1", .single []),
    ("LATIN-1", .single []), ("ISO-8859-15", .single latinNine), ("ISO8859-15", .single latinNine),
    ("ISO885915", .single latinNine), ("LATIN-9", .single latinNine), ("CP1252", .single westernPage),
    ("WINDOWS-1252", .single westernPage), ("MS-ANSI", .single westernPage), ("UTF-16", .pairs none true),
    ("UTF16", .pairs none true), ("UTF-16LE", .pairs (some .little) true), ("UTF16LE", .pairs (some .little) true),
    ("UTF-16BE", .pairs (some .big) true), ("UTF16BE", .pairs (some .big) true), ("UCS-2", .pairs (some .little) false),
    ("UCS2", .pairs (some .little) false), ("UCS-2LE", .pairs (some .little) false),
    ("UCS-2BE", .pairs (some .big) false), ("UTF-32", .quads none), ("UTF32", .quads none),
    ("UTF-32LE", .quads (some .little)), ("UTF32LE", .quads (some .little)), ("UTF-32BE", .quads (some .big)),
    ("UTF32BE", .quads (some .big)), ("UCS-4", .quads (some .big)), ("UCS4", .quads (some .big)),
    ("UCS-4LE", .quads (some .little)), ("UCS-4BE", .quads (some .big))]

/-- the encoding that a name stands for, without what follows two slashes -/
def named? (o : Octets) : Option Encoding :=
  let name := String.ofList ((o.takeWhile (· != '/')).map Char.toUpper)
  if name.isEmpty then some .ascii else names.lookup name

/-- why a character cannot be read: there is none of this form, or the text ends inside of it -/
inductive Broken where
  | illegal
  | incomplete

/-- the number that bytes are -/
def numberIn (order : ByteOrder) (o : Octets) : Nat :=
  let o := if order == .big then o else o.reverse
  o.foldl (fun n c => n * 256 + c.toNat) 0

/-- the bytes of a number -/
def bytesOf (order : ByteOrder) (size n : Nat) : Octets :=
  let low := (List.range size).map fun i => Char.ofNat (n / Nat.pow 256 i % 256)
  if order == .big then low.reverse else low

/-- whether a code is half of a pair -/
def isHalf (n : Nat) : Bool := 0xd800 ≤ n && n < 0xe000

/-- the code of the next character, and how many bytes it takes -/
def Encoding.next (e : Encoding) (o : Octets) : Except Broken (Nat × Nat) :=
  let first := (o.headD ' ').toNat
  match e with
  | .ascii => if first < 128 then .ok (first, 1) else .error .illegal
  | .single others =>
    match others.lookup first with
    | some 0 => .error .illegal
    | some n => .ok (n, 1)
    | none => .ok (first, 1)
  | .utf8 =>
    let size := if first < 0x80 then 1 else if first < 0xc2 then 0 else if first < 0xe0 then 2 else if first < 0xf0 then 3
      else if first < 0xf5 then 4 else 0
    let more := (o.drop 1).take (size - 1)
    let value := more.foldl (fun n c => n * 64 + c.toNat % 64) (if size ≤ 1 then first else first % Nat.pow 2 (7 - size))
    if size = 0 || more.any fun c => c.toNat / 64 != 2 then .error .illegal
    else if more.length + 1 < size then .error .incomplete
    else if isHalf value || 0x10ffff < value || (size = 3 && value < 0x800) || (size = 4 && value < 0x10000) then .error .illegal
    else .ok (value, size)
  | .pairs order surrogates =>
    let order := order.getD .little
    if o.length < 2 then .error .incomplete
    else
      let n := numberIn order (o.take 2)
      if !isHalf n then .ok (n, 2)
      else if !surrogates || 0xdc00 ≤ n then .error .illegal
      else if o.length < 4 then .error .incomplete
      else
        let m := numberIn order ((o.drop 2).take 2)
        if m < 0xdc00 || 0xe000 ≤ m then .error .illegal else .ok (0x10000 + (n - 0xd800) * 1024 + (m - 0xdc00), 4)
  | .quads order =>
    if o.length < 4 then .error .incomplete
    else
      let n := numberIn (order.getD .little) (o.take 4)
      if isHalf n || 0x10ffff < n then .error .illegal else .ok (n, 4)

/-- the bytes of a character -/
def Encoding.write? (e : Encoding) (n : Nat) : Option Octets :=
  match e with
  | .ascii => if n < 128 then some [Char.ofNat n] else none
  | .single others =>
    match others.find? fun p => p.2 == n && n != 0 with
    | some (byte, _) => some [Char.ofNat byte]
    | none => if n < 256 && (others.lookup n).isNone then some [Char.ofNat n] else none
  | .utf8 => some (ofBytes (Text.encode [Char.ofNat n]))
  | .pairs order surrogates =>
    let order := order.getD .little
    if n < 0x10000 then some (bytesOf order 2 n)
    else if surrogates then
      some (bytesOf order 2 (0xd800 + (n - 0x10000) / 1024) ++ bytesOf order 2 (0xdc00 + (n - 0x10000) % 1024))
    else none
  | .quads order => some (bytesOf (order.getD .little) 4 n)

/-- how many bytes are passed over where they are no character -/
def Encoding.unit : Encoding → Nat
  | .pairs .. => 2
  | .quads .. => 4
  | _ => 1

/-- the mark that a text in an encoding begins with -/
def Encoding.mark : Encoding → Octets
  | .pairs none _ => bytesOf .little 2 0xfeff
  | .quads none => bytesOf .little 4 0xfeff
  | _ => []

/-- an encoding with the order that the mark of a text gives, and the text without it -/
def Encoding.unmarked (e : Encoding) (o : Octets) : Encoding × Octets :=
  match e with
  | .pairs none s =>
    if o.take 2 == bytesOf .little 2 0xfeff then (.pairs (some .little) s, o.drop 2)
    else if o.take 2 == bytesOf .big 2 0xfeff then (.pairs (some .big) s, o.drop 2)
    else (.pairs (some .little) s, o)
  | .quads none =>
    if o.take 4 == bytesOf .little 4 0xfeff then (.quads (some .little), o.drop 4)
    else if o.take 4 == bytesOf .big 4 0xfeff then (.quads (some .big), o.drop 4)
    else (.quads (some .little), o)
  | e => (e, o)

/-- characters that stand for others which an encoding lacks -/
def standIns : List (Nat × String) :=
  [(0xa0, " "), (0xa9, "(C)"), (0xab, "<<"), (0xad, "-"), (0xae, "(R)"), (0xbb, ">>"), (0xc4, "A"), (0xc6, "AE"),
    (0xd7, "x"), (0xdf, "ss"), (0xe6, "ae"), (0x2dc, "~"), (0xfeff, ""), (0x152, "OE"), (0x153, "oe"),
    (0x2010, "-"), (0x2011, "-"), (0x2012, "-"), (0x2013, "-"), (0x2014, "-"), (0x2015, "-"), (0x2018, "'"), (0x2019, "'"), (0x201a, ","), (0x201b, "'"),
    (0x201c, "\""), (0x201d, "\""), (0x201e, ",,"), (0x201f, "\""), (0x2020, "+"), (0x2022, "o"), (0x2026, "..."),
    (0x2039, "<"), (0x203a, ">"), (0x20ac, "EUR"), (0x2122, "TM"), (0x2190, "<-"), (0x2192, "->"), (0x2212, "-")]

/-- what a conversion has come to: the output, the pieces last one first, and what stopped it, with the place -/
structure Converted where
  out : List Octets
  stopped : Option (Broken × Nat)
  skipped : Bool

/-- how characters are dealt with that the other encoding lacks -/
structure Handling where
  skips : Bool
  replaces : Bool
  ignores : Bool

/-- converts a text; `place` is how much of it was read before -/
def convert (h : Handling) (source goal : Encoding) : Nat → Nat → Octets → Converted → Converted
  | 0, _, _, s => s
  | _, _, [], s => s
  | fuel + 1, place, o, s =>
    match source.next o with
    | .error .incomplete => { s with stopped := some (.incomplete, place) }
    | .error .illegal =>
      if h.skips || h.ignores then
        convert h source goal fuel (place + source.unit) (o.drop source.unit) { s with skipped := true }
      else { s with stopped := some (.illegal, place) }
    | .ok (n, size) =>
      let onward (text : Octets) : Converted :=
        convert h source goal fuel (place + size) (o.drop size) { s with out := text :: s.out }
      match goal.write? n with
      | some text => onward text
      | none =>
        let replacement := (octets ((standIns.lookup n).getD "?")).flatMap fun c => (goal.write? c.toNat).getD []
        if h.replaces then onward replacement
        else if h.skips then onward []
        else if h.ignores then convert h source goal fuel (place + size) (o.drop size) { s with skipped := true }
        else { s with stopped := some (.illegal, place) }

/-- changes the encoding of files -/
def iconv (c : Call) : Running UtilityRun := do
  let parsed := c.parse
    { flags := "cslV?", valued := "fto", wrong := 64, leading := false
      words := [("from-code", 'f'), ("list", 'l'), ("output", 'o'), ("silent", 's'), ("to-code", 't'), ("verbose", 'v')] }
  let hint := octets "Try `iconv --help' or `iconv --usage' for more information.\n"
  let (o, names) ← match parsed with
    | .ok found => pure found
    | .error r => .error { r with err := r.err.take (r.err.length - c.hint.length) ++ hint }
  let sourceName := (o.value? 'f').getD []
  let goalName := (o.value? 't').getD []
  let quoted (name : Octets) : Octets := '\x60' :: name ++ ['\'']
  let unsupported {α : Type} (message : Octets) : Running α :=
    .error { c.done 1 [] with err := c.complaint message ++ hint }
  let (source, goal) ← match named? sourceName, named? goalName with
    | some source, some goal => pure (source, goal)
    | none, some _ => unsupported (octets "conversion from " ++ quoted sourceName ++ octets " is not supported")
    | some _, none => unsupported (octets "conversion to " ++ quoted goalName ++ octets " is not supported")
    | none, none => unsupported (octets "conversions from " ++ quoted sourceName ++ octets " and to " ++ quoted goalName
        ++ octets " are not supported")
  let suffix := String.ofList ((goalName.dropWhile (· != '/')).map Char.toUpper)
  let h : Handling := ⟨o.has 'c', (suffix.splitOn "//").contains "TRANSLIT", (suffix.splitOn "//").contains "IGNORE"⟩
  let g := c.gather names fun name e => octets "cannot open input file " ++ quoted name ++ octets ": " ++ briefCause e
  let (out, err, failed) := g.parts.foldl (fun (acc : List Octets × Octets × Bool) part =>
    let (out, err, failed) := acc
    if failed then acc
    else
      let (from', text) := source.unmarked part.2
      let offset := part.2.length - text.length
      let r := convert h from' goal (text.length + 1) offset text ⟨[], none, false⟩
      let complaint := match r.stopped with
        | some (.illegal, n) => c.complaint (octets "illegal input sequence at position " ++ number n)
        | some (.incomplete, _) => c.complaint (octets "incomplete character or shift sequence at end of buffer")
        | none =>
          if r.skipped && !h.skips then c.complaint (octets "illegal input sequence at position " ++ number part.2.length)
          else []
      (r.out.reverse.flatten :: out, err ++ complaint, !complaint.isEmpty)) ([], [], false)
  let text := out.reverse.flatten
  let text := if text.isEmpty then text else goal.mark ++ text
  let status := if g.failed || failed then 1 else 0
  match o.value? 'o' with
  | none => return { c.finish g 1 text with status, err := g.err ++ err }
  | some name => match c.files.write (pathOf name) (toBytes text) with
    | .ok files => return { c.finish g 1 [] with status, err := g.err ++ err, files }
    | .error e => c.refuse 1 (octets "unable to open output file: " ++ briefCause e)

end ScriptBridge.Shell.Charset
