/-
Digests of texts, as the utilities of their names show them. A text is ended by a bit, filled up and followed by its
length, and then taken in blocks of words; each block changes a state of words, which is the digest in the end.

The constants of SHA-2 are the first bits of the fractions of square and cube roots of primes, and are computed as such;
those of MD5 are sines, and stand in a table.
-/
import ScriptBridge.Shell.Utility

namespace ScriptBridge.Shell

/-! ## Words -/

/-- a text as it is digested: a bit that ends it, zeros up to the place of the length, and the length in bits. `block`
is the size of a block and `width` the size of the length, in bytes. -/
def filledUp (block width : Nat) (bigEnd : Bool) (o : Octets) : List Nat :=
  let zeros := (2 * block - 1 - (o.length + width) % block) % block
  let length := (List.range width).map fun k => o.length * 8 / Nat.pow 256 k % 256
  o.map Char.toNat ++ 128 :: List.replicate zeros 0 ++ (if bigEnd then length.reverse else length)

/-- bytes as words of so many bytes -/
def wordsOf (size : Nat) (bigEnd : Bool) : Nat → List Nat → List Nat
  | 0, _ => []
  | fuel + 1, bytes =>
    if bytes.isEmpty then []
    else
      let word := bytes.take size
      (if bigEnd then word else word.reverse).foldl (fun n b => n * 256 + b) 0
        :: wordsOf size bigEnd fuel (bytes.drop size)

/-- words as bytes -/
def bytesOf (size : Nat) (bigEnd : Bool) (words : List Nat) : List Nat :=
  words.flatMap fun n =>
    let bytes := (List.range size).map fun k => n / Nat.pow 256 k % 256
    if bigEnd then bytes.reverse else bytes

/-- words in blocks of sixteen -/
def blocksOf : Nat → List Nat → List (List Nat)
  | 0, _ => []
  | fuel + 1, words => if words.isEmpty then [] else words.take 16 :: blocksOf fuel (words.drop 16)

/-- a word turned to the left -/
def turnLeft (w : UInt32) (n : Nat) : UInt32 := (w <<< UInt32.ofNat n) ||| (w >>> UInt32.ofNat (32 - n))

/-- a word turned to the right -/
def turnRight (w : UInt32) (n : Nat) : UInt32 := turnLeft w (32 - n)

/-- a double word turned to the right -/
def turnRightLong (w : UInt64) (n : Nat) : UInt64 := (w >>> UInt64.ofNat n) ||| (w <<< UInt64.ofNat (64 - n))

/-! ## Constants -/

/-- the first primes -/
def firstPrimes : List Nat :=
  ((List.range 410).drop 2).filter fun n => ((List.range n).drop 2).all fun d => n % d != 0

/-- the greatest number whose power is no greater than a number, found bit by bit -/
def wholeRoot (power n : Nat) : Nat → Nat → Nat
  | 0, found => found
  | bit + 1, found =>
    let more := found + Nat.pow 2 bit
    wholeRoot power n bit (if Nat.pow more power ≤ n then more else found)

/-- the first bits of the fraction of a root of a prime -/
def rootBits (power bits p : Nat) : Nat :=
  wholeRoot power (p * Nat.pow 2 (power * bits)) (bits + 5) 0 % Nat.pow 2 bits

/-- how far words are turned in the rounds of MD5: a row for each quarter of the rounds -/
def md5Turns : List (List Nat) := [[7, 12, 17, 22], [5, 9, 14, 20], [4, 11, 16, 23], [6, 10, 15, 21]]

/-- the absolute values of the sines of the first whole numbers, in parts of a word -/
def sineWords : Array UInt32 := #[
  0xd76aa478, 0xe8c7b756, 0x242070db, 0xc1bdceee, 0xf57c0faf, 0x4787c62a, 0xa8304613, 0xfd469501,
  0x698098d8, 0x8b44f7af, 0xffff5bb1, 0x895cd7be, 0x6b901122, 0xfd987193, 0xa679438e, 0x49b40821,
  0xf61e2562, 0xc040b340, 0x265e5a51, 0xe9b6c7aa, 0xd62f105d, 0x02441453, 0xd8a1e681, 0xe7d3fbc8,
  0x21e1cde6, 0xc33707d6, 0xf4d50d87, 0x455a14ed, 0xa9e3e905, 0xfcefa3f8, 0x676f02d9, 0x8d2a4c8a,
  0xfffa3942, 0x8771f681, 0x6d9d6122, 0xfde5380c, 0xa4beea44, 0x4bdecfa9, 0xf6bb4b60, 0xbebfbc70,
  0x289b7ec6, 0xeaa127fa, 0xd4ef3085, 0x04881d05, 0xd9d4d039, 0xe6db99e5, 0x1fa27cf8, 0xc4ac5665,
  0xf4292244, 0x432aff97, 0xab9423a7, 0xfc93a039, 0x655b59c3, 0x8f0ccc92, 0xffeff47d, 0x85845dd1,
  0x6fa87e4f, 0xfe2ce6e0, 0xa3014314, 0x4e0811a1, 0xf7537e82, 0xbd3af235, 0x2ad7d2bb, 0xeb86d391]

/-! ## Rounds -/

/-- one round of MD5 -/
def md5Round (block : Array UInt32) (s : UInt32 × UInt32 × UInt32 × UInt32) (k : Nat) :
    UInt32 × UInt32 × UInt32 × UInt32 :=
  let (a, b, c, d) := s
  let (mixed, place) :=
    match k / 16 with
    | 0 => ((b &&& c) ||| (~~~b &&& d), k)
    | 1 => ((d &&& b) ||| (~~~d &&& c), (5 * k + 1) % 16)
    | 2 => (b ^^^ c ^^^ d, (3 * k + 5) % 16)
    | _ => (c ^^^ (b ||| ~~~d), 7 * k % 16)
  let turn := (((md5Turns[k / 16]?).bind fun (row : List Nat) => row[k % 4]?).getD 0)
  (d, b + turnLeft (a + mixed + (sineWords[k]?).getD 0 + (block[place]?).getD 0) turn, b, c)

/-- the state of MD5 after a block -/
def md5Block (s : List UInt32) (block : List Nat) : List UInt32 :=
  match s with
  | [a, b, c, d] =>
    let words := (block.map UInt32.ofNat).toArray
    let (a', b', c', d') := (List.range 64).foldl (md5Round words) (a, b, c, d)
    [a + a', b + b', c + c', d + d']
  | s => s

/-- words that are followed by what earlier ones come to -/
def expandedWords {α : Type} (next : Array α → Nat → α) (rounds : Nat) (block : List α) : Array α :=
  (List.range (rounds - 16)).foldl (fun (words : Array α) k => words.push (next words (k + 16))) block.toArray

/-- the state of SHA-1 after a block -/
def sha1Block (s : List UInt32) (block : List Nat) : List UInt32 :=
  let at' (words : Array UInt32) (k : Nat) : UInt32 := (words[k]?).getD 0
  let next (w : Array UInt32) (k : Nat) : UInt32 :=
    turnLeft (at' w (k - 3) ^^^ at' w (k - 8) ^^^ at' w (k - 14) ^^^ at' w (k - 16)) 1
  let words := expandedWords next 80 (block.map UInt32.ofNat)
  let round (s : List UInt32) (k : Nat) : List UInt32 :=
    match s with
    | [a, b, c, d, e] =>
      let (mixed, constant) : UInt32 × UInt32 :=
        if k < 20 then ((b &&& c) ||| (~~~b &&& d), 0x5a827999)
        else if k < 40 then (b ^^^ c ^^^ d, 0x6ed9eba1)
        else if k < 60 then ((b &&& c) ||| (b &&& d) ||| (c &&& d), 0x8f1bbcdc)
        else (b ^^^ c ^^^ d, 0xca62c1d6)
      [turnLeft a 5 + mixed + e + constant + at' words k, a, turnLeft b 30, c, d]
    | s => s
  List.zipWith (· + ·) s ((List.range 80).foldl round s)

/-- one round of SHA-2, for words of a size: `long` and `short` mix the words that the two new ones are made from -/
def sha2Round {α : Type} [Add α] [AndOp α] [XorOp α] [Complement α] (long short : α → α) (s : List α)
    (given : α × α) : List α :=
  match s with
  | [a, b, c, d, e, f, g, h] =>
    let first := h + long e + ((e &&& f) ^^^ (~~~e &&& g)) + given.1 + given.2
    let second := short a + ((a &&& b) ^^^ (a &&& c) ^^^ (b &&& c))
    [first + second, a, b, c, d + first, e, f, g]
  | s => s

/-- the constants of the rounds of SHA-256 -/
def sha256Words : List UInt32 := (firstPrimes.take 64).map fun p => UInt32.ofNat (rootBits 3 32 p)

/-- the state of SHA-256 after a block -/
def sha256Block (constants : List UInt32) (s : List UInt32) (block : List Nat) : List UInt32 :=
  let word (w : Array UInt32) (k : Nat) : UInt32 := (w[k]?).getD 0
  let low (x : UInt32) : UInt32 := turnRight x 7 ^^^ turnRight x 18 ^^^ (x >>> 3)
  let high (x : UInt32) : UInt32 := turnRight x 17 ^^^ turnRight x 19 ^^^ (x >>> 10)
  let next (w : Array UInt32) (k : Nat) : UInt32 :=
    high (word w (k - 2)) + word w (k - 7) + low (word w (k - 15)) + word w (k - 16)
  let words := expandedWords next 64 (block.map UInt32.ofNat)
  List.zipWith (· + ·) s ((constants.zip words.toList).foldl
    (sha2Round (fun e => turnRight e 6 ^^^ turnRight e 11 ^^^ turnRight e 25)
      (fun a => turnRight a 2 ^^^ turnRight a 13 ^^^ turnRight a 22)) s)

/-- the constants of the rounds of SHA-512 -/
def sha512Words : List UInt64 := (firstPrimes.take 80).map fun p => UInt64.ofNat (rootBits 3 64 p)

/-- the state of SHA-512 after a block -/
def sha512Block (constants : List UInt64) (s : List UInt64) (block : List Nat) : List UInt64 :=
  let word (w : Array UInt64) (k : Nat) : UInt64 := (w[k]?).getD 0
  let low (x : UInt64) : UInt64 := turnRightLong x 1 ^^^ turnRightLong x 8 ^^^ (x >>> 7)
  let high (x : UInt64) : UInt64 := turnRightLong x 19 ^^^ turnRightLong x 61 ^^^ (x >>> 6)
  let next (w : Array UInt64) (k : Nat) : UInt64 :=
    high (word w (k - 2)) + word w (k - 7) + low (word w (k - 15)) + word w (k - 16)
  let words := expandedWords next 80 (block.map UInt64.ofNat)
  List.zipWith (· + ·) s ((constants.zip words.toList).foldl
    (sha2Round (fun e => turnRightLong e 14 ^^^ turnRightLong e 18 ^^^ turnRightLong e 41)
      (fun a => turnRightLong a 28 ^^^ turnRightLong a 34 ^^^ turnRightLong a 39)) s)

/-! ## BLAKE2 -/

/-- the order in which the rounds of BLAKE2 take the words of a block -/
def blakeOrders : List (List Nat) :=
  [[0, 1, 2, 3, 4, 5, 6, 7, 8, 9, 10, 11, 12, 13, 14, 15], [14, 10, 4, 8, 9, 15, 13, 6, 1, 12, 0, 2, 11, 7, 5, 3],
    [11, 8, 12, 0, 5, 2, 15, 13, 10, 14, 3, 6, 7, 1, 9, 4], [7, 9, 3, 1, 13, 12, 11, 14, 2, 6, 5, 10, 4, 0, 15, 8],
    [9, 0, 5, 7, 2, 4, 10, 15, 14, 1, 11, 12, 6, 8, 3, 13], [2, 12, 6, 10, 0, 11, 8, 3, 4, 13, 7, 5, 15, 14, 1, 9],
    [12, 5, 1, 15, 14, 13, 4, 10, 0, 7, 6, 3, 9, 2, 8, 11], [13, 11, 7, 14, 12, 1, 3, 9, 5, 0, 15, 4, 8, 6, 2, 10],
    [6, 15, 14, 9, 11, 3, 0, 8, 12, 2, 13, 7, 1, 4, 10, 5], [10, 2, 8, 4, 7, 6, 1, 5, 15, 11, 9, 14, 3, 12, 13, 0]]

/-- the places that are mixed in a round: the columns of a square, then its diagonals -/
def blakePlaces : List (Nat × Nat × Nat × Nat) :=
  [(0, 4, 8, 12), (1, 5, 9, 13), (2, 6, 10, 14), (3, 7, 11, 15), (0, 5, 10, 15), (1, 6, 11, 12), (2, 7, 8, 13),
    (3, 4, 9, 14)]

/-- mixes four words of a state with two words of a block -/
def blakeMix (v : Array UInt64) (places : Nat × Nat × Nat × Nat) (x y : UInt64) : Array UInt64 :=
  let (i, j, k, l) := places
  let word (n : Nat) : UInt64 := (v[n]?).getD 0
  let a := word i + word j + x
  let d := turnRightLong (word l ^^^ a) 32
  let c := word k + d
  let b := turnRightLong (word j ^^^ c) 24
  let a := a + b + y
  let d := turnRightLong (d ^^^ a) 16
  let c := c + d
  let b := turnRightLong (b ^^^ c) 63
  (((v.setIfInBounds i a).setIfInBounds j b).setIfInBounds k c).setIfInBounds l d

/-- the state of BLAKE2 after a block; `count` is how many bytes were taken, `last` that no block follows -/
def blakeBlock (first h : List UInt64) (block : List Nat) (count : Nat) (last : Bool) : List UInt64 :=
  let words := (block.map UInt64.ofNat).toArray
  let word (n : Nat) : UInt64 := (words[n]?).getD 0
  let start := (h ++ first).toArray.modify 12 (· ^^^ UInt64.ofNat count)
  let start := if last then start.modify 14 (~~~ ·) else start
  let v := (List.range 12).foldl (fun (v : Array UInt64) round =>
    let order := (blakeOrders[round % 10]?).getD []
    (blakePlaces.zip (List.range 8)).foldl (fun v (places, k) =>
      blakeMix v places (word ((order[2 * k]?).getD 0)) (word ((order[2 * k + 1]?).getD 0))) v) start
  (List.range 8).map fun k => (h[k]?).getD 0 ^^^ (v[k]?).getD 0 ^^^ (v[k + 8]?).getD 0

/-- the state of BLAKE2 after blocks of bytes -/
def blakeBlocks (first : List UInt64) : Nat → Nat → List UInt64 → List Nat → List UInt64
  | 0, _, h, _ => h
  | fuel + 1, count, h, bytes =>
    let block := bytes.take 128
    let words := wordsOf 8 false 16 (block ++ List.replicate (128 - block.length) 0)
    if bytes.length ≤ 128 then blakeBlock first h words (count + block.length) true
    else blakeBlocks first fuel (count + 128) (blakeBlock first h words (count + 128) false) (bytes.drop 128)

/-! ## Digests -/

/-- the digests; one of them has a length in bits -/
inductive DigestKind where
  | md5
  | sha1
  | sha224
  | sha256
  | sha384
  | sha512
  | blake (bits : Nat)
deriving DecidableEq

/-- the name of a digest in a row that says it -/
def DigestKind.name : DigestKind → String
  | md5 => "MD5"
  | sha1 => "SHA1"
  | sha224 => "SHA224"
  | sha256 => "SHA256"
  | sha384 => "SHA384"
  | sha512 => "SHA512"
  | blake bits => if bits = 512 then "BLAKE2b" else "BLAKE2b-" ++ toString bits

/-- the bytes of the digest of a text -/
def DigestKind.digest (kind : DigestKind) (o : Octets) : List Nat :=
  let blocks (size width : Nat) (bigEnd : Bool) : List (List Nat) :=
    let bytes := filledUp (16 * size) width bigEnd o
    blocksOf bytes.length (wordsOf size bigEnd bytes.length bytes)
  match kind with
  | md5 =>
    bytesOf 4 false (((blocks 4 8 false).foldl md5Block
      [0x67452301, 0xefcdab89, 0x98badcfe, 0x10325476]).map UInt32.toNat)
  | sha1 =>
    bytesOf 4 true (((blocks 4 8 true).foldl sha1Block
      [0x67452301, 0xefcdab89, 0x98badcfe, 0x10325476, 0xc3d2e1f0]).map UInt32.toNat)
  | sha224 =>
    (bytesOf 4 true (((blocks 4 8 true).foldl (sha256Block sha256Words)
      (((firstPrimes.drop 8).take 8).map fun p => UInt32.ofNat (rootBits 2 64 p % Nat.pow 2 32))).map
        UInt32.toNat)).take 28
  | sha384 =>
    (bytesOf 8 true (((blocks 8 16 true).foldl (sha512Block sha512Words)
      (((firstPrimes.drop 8).take 8).map fun p => UInt64.ofNat (rootBits 2 64 p))).map UInt64.toNat)).take 48
  | blake bits =>
    let first := (firstPrimes.take 8).map fun p => UInt64.ofNat (rootBits 2 64 p)
    let start := first.set 0 ((first.headD 0) ^^^ 0x01010000 ^^^ UInt64.ofNat (bits / 8))
    (bytesOf 8 false ((blakeBlocks first (o.length + 1) 0 start (o.map Char.toNat)).map UInt64.toNat)).take (bits / 8)
  | sha256 =>
    bytesOf 4 true (((blocks 4 8 true).foldl (sha256Block sha256Words)
      ((firstPrimes.take 8).map fun p => UInt32.ofNat (rootBits 2 32 p))).map UInt32.toNat)
  | sha512 =>
    bytesOf 8 true (((blocks 8 16 true).foldl (sha512Block sha512Words)
      ((firstPrimes.take 8).map fun p => UInt64.ofNat (rootBits 2 64 p))).map UInt64.toNat)

/-- the digest of its kind that has a number of bits -/
def DigestKind.ofLength (kind : DigestKind) (bits : Nat) : DigestKind :=
  match kind with
  | blake _ => blake bits
  | kind => kind

/-- bytes in base sixteen, two digits each -/
def inSixteen (bytes : List Nat) : Octets :=
  bytes.flatMap fun b => (Nat.toDigits 16 (b / 16)) ++ (Nat.toDigits 16 (b % 16))

/-- shows digests of files -/
def digestSum (kind : DigestKind) (c : Call) : Running UtilityRun := do
  let (o, names) ← c.parse
    { flags := "btcwz", valued := if kind == .blake 512 then "l" else "", wrong := 1, leading := false
      words := (if kind == .blake 512 then [("length", 'l')] else []) ++ [("binary", 'b'), ("text", 't'),
        ("check", 'c'), ("warn", 'w'), ("zero", 'z'), ("tag", 'T'), ("quiet", 'q'),
        ("status", 's'), ("strict", 'x'), ("ignore-missing", 'i')] }
  let kind ← match kind, o.value? 'l' with
    | .blake bits, some value =>
      let n := (digitsIn 10 value).1
      let refused : Octets := c.complaint (octets "invalid length: " ++ inQuotes value)
      if value.isEmpty || !value.all Char.isDigit then .error { c.done 1 [] with err := refused }
      else if n % 8 != 0 then
        .error { c.done 1 [] with err := refused ++ c.complaint (octets "length is not a multiple of 8") }
      else if 512 < n then
        .error { c.done 1 [] with
          err := refused ++ c.complaint (octets "maximum digest length for 'BLAKE2b' is 512 bits") }
      else pure (.blake (if n = 0 then bits else n))
    | kind, _ => pure kind
  let stop := if o.has 'z' then Char.ofNat 0 else '\n'
  let row (part : Octets × Octets) : Octets :=
    let hash := inSixteen (kind.digest part.2)
    if o.has 'T' then octets kind.name ++ octets " (" ++ part.1 ++ octets ") = " ++ hash ++ [stop]
    else
      let marked := !o.has 'z' && part.1.any fun d => d == '\\' || d == '\n' || d == '\r'
      let shown := if !marked then part.1
        else part.1.flatMap fun d =>
          if d == '\\' then ['\\', '\\'] else if d == '\n' then ['\\', 'n'] else if d == '\r' then ['\\', 'r'] else [d]
      (if marked then ['\\'] else []) ++ hash ++ (if o.has 'b' then [' ', '*'] else [' ', ' ']) ++ shown ++ [stop]
  let g := c.gather names plainComplaint
  if o.has 'c' then
    let proper (l : Octets) : Bool :=
      let hash := l.takeWhile fun d => d != ' '
      let length := match kind with
        | .blake _ => 8 ≤ hash.length && hash.length % 2 = 0
        | kind => hash.length == 2 * (kind.digest []).length
      length && hash.all (fun d => (digitOf? 16 d).isSome) && hash.length + 2 < l.length
    let rows := lines g.whole
    let improper := (rows.filter fun l => !proper l).length
    if improper = rows.length then
      let name := match names with
        | [name] => if namesInput name then octets "'standard input'" else name
        | _ => octets "'standard input'"
      return { c.finish g 1 [] with
        status := 1
        err := g.err ++ (if g.failed then []
          else c.complaint (name ++ octets ": no properly formatted checksum lines found")) }
    let checked := (rows.filter proper).filterMap fun l =>
      let hash := l.takeWhile fun d => d != ' '
      let name := l.drop (hash.length + 2)
      if name.isEmpty then none
      else some (name, match (if namesInput name then .ok c.input else c.readFile name) with
        | .ok content =>
          let digest := inSixteen ((kind.ofLength (hash.length * 4)).digest content)
          if digest == hash.map Char.toLower then .ok () else .error none
        | .error e => .error (some e))
    let shown := checked.flatMap fun (name, (r : Except (Option FileError) Unit)) => match r with
      | .ok _ => if o.has 'q' || o.has 's' then [] else name ++ octets ": OK\n"
      | .error none => if o.has 's' then [] else name ++ octets ": FAILED\n"
      | .error (some _) => if o.has 's' then [] else name ++ octets ": FAILED open or read\n"
    let missing := checked.filterMap fun (name, (r : Except (Option FileError) Unit)) => match r with
      | .error (some e) => some (c.complaint (plainComplaint name e))
      | _ => none
    let count (wrong : Except (Option FileError) Unit → Bool) : Nat := (checked.filter fun p => wrong p.2).length
    let differ := count fun r => match r with
      | .error none => true
      | _ => false
    let warning (n : Nat) (one many : String) : Octets :=
      if n = 0 || o.has 's' then []
      else c.complaint (octets "WARNING: " ++ number n ++ octets (if n = 1 then one else many))
    return { c.finish g 1 shown with
      status := if g.failed || differ != 0 || !missing.isEmpty then 1 else 0
      err := g.err ++ missing.flatten
        ++ warning improper " line is improperly formatted" " lines are improperly formatted"
        ++ warning missing.length " listed file could not be read" " listed files could not be read"
        ++ warning differ " computed checksum did NOT match" " computed checksums did NOT match" }
  else
    let rows (parts : List (Octets × Octets)) : Octets := parts.flatMap row
    return { c.finish g 1 (rows g.parts) with lead := g.leadOf rows }

end ScriptBridge.Shell
