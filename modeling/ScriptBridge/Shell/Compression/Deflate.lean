/-
Writing compressed data. A text becomes literals and copies of what came before; both are written with prefix codes,
either fixed ones or ones that are written first, or the text is stored as it is, whichever is shortest.

A prefix code stands for symbols by bits, no one the beginning of another. It is given by the lengths of its words; the
words are counted up in the order of length and symbol. `lengthsFor` finds lengths for symbols that occur so often: the
two nodes that occur least are joined until one is left. Of nodes that occur equally often the shallower one comes first,
as a heap keeps them. Where words would be too long, some are moved up.

A copy is put off by one character when a longer one may begin there. Earlier places are found by the three bytes that
begin at them, the latest ones first, and only so many are tried.
-/
import ScriptBridge.Shell.Octets

namespace ScriptBridge.Shell.Compression

/-! ## Prefix codes -/

/-- the words of a code: for each symbol its word and the length of it, zero where the symbol has none -/
abbrev Code := Array (Nat × Nat)

/-- the words of a code whose lengths are given -/
def codeOf (lengths : Array Nat) : Code :=
  let longest := lengths.foldl max 0
  let counts := lengths.foldl (fun (c : Array Nat) n => if n = 0 then c else c.modify n (· + 1)) (Array.replicate (longest + 1) 0)
  let (first, _) := (List.range (longest + 1)).foldl (fun (acc : Array Nat × Nat) n =>
    if n = 0 then acc
    else
      let code := (acc.2 + counts.getD (n - 1) 0) * 2
      (acc.1.set! n code, code)) (Array.replicate (longest + 1) 0, 0)
  (lengths.foldl (fun (acc : Code × Array Nat) n =>
    if n = 0 then (acc.1.push (0, 0), acc.2)
    else (acc.1.push (acc.2.getD n 0, n), acc.2.modify n (· + 1))) (#[], first)).1

/-- what the search for lengths works on: how often nodes occur, how deep they are, what each is joined into, and the
heap of nodes, whose first place is not used -/
structure Forest where
  counts : Array Nat
  depths : Array Nat
  parents : Array Nat
  heap : Array Nat

namespace Forest

/-- whether one node comes before another -/
def before (f : Forest) (a b : Nat) : Bool :=
  let x := f.counts.getD a 0
  let y := f.counts.getD b 0
  x < y || (x == y && f.depths.getD a 0 ≤ f.depths.getD b 0)

/-- moves a node down to its place in the heap -/
def sink : Nat → Nat → Nat → Forest → Forest
  | 0, place, node, f => { f with heap := f.heap.set! place node }
  | fuel + 1, place, node, f =>
    let size := f.heap.size - 1
    let j := 2 * place
    if size < j then { f with heap := f.heap.set! place node }
    else
      let j := if j < size && f.before (f.heap.getD (j + 1) 0) (f.heap.getD j 0) then j + 1 else j
      let child := f.heap.getD j 0
      if f.before node child then { f with heap := f.heap.set! place node }
      else sink fuel j node { f with heap := f.heap.set! place child }

/-- puts the node at a place of the heap where it belongs -/
def settle (place : Nat) (f : Forest) : Forest := f.sink 64 place (f.heap.getD place 0)

/-- joins nodes until one is left; `order` are the nodes that were taken, the last ones first -/
def joinAll : Nat → Forest → List Nat → Forest × List Nat
  | 0, f, order => (f, order)
  | fuel + 1, f, order =>
    if f.heap.size ≤ 2 then (f, f.heap.getD 1 0 :: order)
    else
      let n := f.heap.getD 1 0
      let last := f.heap.getD (f.heap.size - 1) 0
      let f := { f with heap := (f.heap.pop).set! 1 last }
      let f := f.settle 1
      let m := f.heap.getD 1 0
      let node := f.counts.size
      let f : Forest :=
        { counts := f.counts.push (f.counts.getD n 0 + f.counts.getD m 0)
          depths := f.depths.push (max (f.depths.getD n 0) (f.depths.getD m 0) + 1)
          parents := ((f.parents.push 0).set! n node).set! m node
          heap := f.heap.set! 1 node }
      joinAll fuel (f.settle 1) (m :: n :: order)

end Forest

/-- moves words up until none is too long: counts of words by their lengths -/
def shorten (limit : Nat) : Nat → Nat → Array Nat → Array Nat
  | 0, _, counts => counts
  | fuel + 1, excess, counts =>
    if excess = 0 then counts
    else
      let n := ((List.range limit).reverse.find? fun n => 0 < n && counts.getD n 0 != 0).getD 1
      let counts := ((counts.modify n (· - 1)).modify (n + 1) (· + 2)).modify limit (· - 1)
      shorten limit fuel (excess - 2) counts

/-- lengths of words for symbols that occur so often -/
def lengthsFor (limit : Nat) (occurrences : Array Nat) : Array Nat :=
  let size := occurrences.size
  let used := (List.range size).filter fun i => occurrences.getD i 0 != 0
  let greatest := used.getLast?
  let extra : List Nat := match used, greatest with
    | [], _ => [0, 1]
    | [_], some g => if g < 2 then [g + 1] else [0]
    | _, _ => []
  let counts := extra.foldl (fun (c : Array Nat) i => c.set! i 1) occurrences
  let heap := (0 :: used ++ extra).toArray
  let f : Forest := ⟨counts, Array.replicate size 0, Array.replicate size 0, heap⟩
  let f := (List.range ((heap.size - 1) / 2)).reverse.foldl (fun (f : Forest) i => f.settle (i + 1)) f
  let (f, order) := f.joinAll (2 * size + 2) []
  -- the root comes first, every node after what it was joined into
  let (lengths, counted, excess) := (order.drop 1).foldl (fun (acc : Array Nat × Array Nat × Nat) node =>
    let (lengths, counted, excess) := acc
    let wanted := lengths.getD (f.parents.getD node 0) 0 + 1
    let n := min wanted limit
    let excess := if limit < wanted then excess + 1 else excess
    (lengths.set! node n, if node < size then counted.modify n (· + 1) else counted, excess))
    (Array.replicate f.counts.size 0, Array.replicate (limit + 2) 0, 0)
  if excess = 0 then lengths.extract 0 size
  else
    let counted := shorten limit (size + 1) excess counted
    let leaves := (order.filter (· < size)).reverse
    let wanted := (List.range (limit + 1)).reverse.flatMap fun n => if n = 0 then [] else List.replicate (counted.getD n 0) n
    (leaves.zip wanted).foldl (fun (lengths : Array Nat) (leaf, n) => lengths.set! leaf n) (Array.replicate size 0)

/-! ## Pieces of a text -/

/-- a part of a text: a byte, or the length of a copy and how far back it begins -/
inductive Piece where
  | literal (byte : Nat)
  | copy (length distance : Nat)
deriving Inhabited

/-! ## Lengths and distances -/

/-- the extra bits of the symbols for lengths, in order; the lengths begin at three -/
def lengthBits : List Nat :=
  [0, 0, 0, 0, 0, 0, 0, 0, 1, 1, 1, 1, 2, 2, 2, 2, 3, 3, 3, 3, 4, 4, 4, 4, 5, 5, 5, 5]

/-- the extra bits of the symbols for distances, in order; the distances begin at one -/
def distanceBits : List Nat :=
  [0, 0, 0, 0, 1, 1, 2, 2, 3, 3, 4, 4, 5, 5, 6, 6, 7, 7, 8, 8, 9, 9, 10, 10, 11, 11, 12, 12, 13, 13]

/-- the first value of each symbol, where values begin at a number -/
def bases (first : Nat) (bits : List Nat) : List Nat :=
  (bits.foldl (fun (acc : List Nat × Nat) b => (acc.2 :: acc.1, acc.2 + Nat.pow 2 b)) ([], first)).1.reverse

/-- the symbols for lengths: first values with extra bits; the greatest length has a symbol of its own -/
def lengthSymbols : Array (Nat × Nat) := (((bases 3 lengthBits).zip lengthBits) ++ [(258, 0)]).toArray

/-- the symbols for distances -/
def distanceSymbols : Array (Nat × Nat) := ((bases 1 distanceBits).zip distanceBits).toArray

/-- the last symbol whose first value is no greater: the symbol with what is left of the value and its bits -/
def symbolOf (symbols : Array (Nat × Nat)) (value : Nat) : Nat × Nat × Nat :=
  let index := (symbols.toList.takeWhile fun s => s.1 ≤ value).length - 1
  let (base, bits) := symbols.getD index (0, 0)
  (index, value - base, bits)

/-- the order in which the lengths of the code for lengths are written -/
def lengthOrder : List Nat := [16, 17, 18, 0, 8, 7, 9, 6, 10, 5, 11, 4, 12, 3, 13, 2, 14, 1, 15]

/-- the lengths of the fixed codes -/
def fixedLengths : Array Nat :=
  Array.replicate 144 8 ++ Array.replicate 112 9 ++ Array.replicate 24 7 ++ Array.replicate 8 8

def fixedDistances : Array Nat := Array.replicate 30 5

/-! ## Finding copies -/

/-- how hard copies are looked for: lengths from which fewer places are tried, from which a copy is not put off, and at
which the search ends, and how many places are tried -/
structure Effort where
  good : Nat
  lazyBound : Nat
  nice : Nat
  chain : Nat
  putsOff : Bool

/-- the effort of a level from one to nine -/
def Effort.ofLevel : Nat → Effort
  | 1 => ⟨4, 4, 8, 4, false⟩
  | 2 => ⟨4, 5, 16, 8, false⟩
  | 3 => ⟨4, 6, 32, 32, false⟩
  | 4 => ⟨4, 4, 16, 16, true⟩
  | 5 => ⟨8, 16, 32, 32, true⟩
  | 7 => ⟨8, 32, 128, 256, true⟩
  | 8 => ⟨32, 128, 258, 1024, true⟩
  | 9 => ⟨32, 258, 258, 4096, true⟩
  | _ => ⟨8, 16, 128, 128, true⟩

/-- a text with the places where three bytes were met: the last place for each hash, and the place before for each place;
place zero stands for none -/
structure Memory where
  bytes : Array Nat
  heads : Array Nat
  previous : Array Nat

namespace Memory

/-- the byte at a place; zeros follow the text -/
def byte (m : Memory) (place : Nat) : Nat := m.bytes.getD place 0

/-- notes the three bytes at a place; gives the place where they were met last -/
def insert (m : Memory) (place : Nat) : Nat × Memory :=
  let hash := ((m.byte place * 1024) ^^^ (m.byte (place + 1) * 32) ^^^ m.byte (place + 2)) % 32768
  let head := m.heads.getD hash 0
  (head, { m with heads := m.heads.set! hash place, previous := m.previous.setIfInBounds place head })

/-- notes several places -/
def insertAll (m : Memory) (place : Nat) : Nat → Memory
  | 0 => m
  | n + 1 => insertAll (m.insert place).2 (place + 1) n

/-- for how long the text goes on at one place as at another -/
def sameFor (m : Memory) : Nat → Nat → Nat → Nat
  | 0, _, _ => 0
  | fuel + 1, a, b => if m.byte a == m.byte b then m.sameFor fuel (a + 1) (b + 1) + 1 else 0

/-- the longest copy that begins at a place, among earlier places: its length and where it was found -/
def longest (m : Memory) (e : Effort) (place limit : Nat) : Nat → Nat → Nat → Nat → Nat × Nat
  | 0, _, best, start => (best, start)
  | chain + 1, candidate, best, start =>
    let length := if m.byte (candidate + best) == m.byte (place + best) then m.sameFor 258 candidate place else 0
    let (best, start) := if best < length then (length, candidate) else (best, start)
    if e.nice ≤ best && start == candidate then (best, start)
    else
      let next := m.previous.getD candidate 0
      if next ≤ limit then (best, start) else longest m e place limit chain next best start

end Memory

/-- what finding copies has reached: the place, the copy that was found at the place before, whether a byte is held back,
and the pieces, the last one first -/
structure Finder where
  memory : Memory
  place : Nat
  length : Nat
  start : Nat
  held : Bool
  pieces : List Piece

/-- how far back a copy may begin -/
def reach : Nat := 32768 - 262

/-- one step of finding copies, where they may be put off -/
def Finder.stepLazy (e : Effort) (s : Finder) : Finder :=
  let size := s.memory.bytes.size
  let (head, memory) := s.memory.insert s.place
  let earlier := s.length
  let earlierStart := s.start
  let (length, start) :=
    if head != 0 && earlier < e.lazyBound && s.place - head ≤ reach then
      let chain := if e.good ≤ earlier then e.chain / 4 else e.chain
      let (length, start) := memory.longest e s.place (s.place - reach) chain head earlier s.start
      let length := min length (size - s.place)
      if length == 3 && 4096 < s.place - start then (2, start) else (length, start)
    else (2, s.start)
  if 3 ≤ earlier && length ≤ earlier then
    { memory := memory.insertAll (s.place + 1) (earlier - 2), place := s.place - 1 + earlier, length := 2, start, held := false
      pieces := .copy earlier (s.place - 1 - earlierStart) :: s.pieces }
  else
    { memory, place := s.place + 1, length, start, held := true
      pieces := if s.held then .literal (memory.byte (s.place - 1)) :: s.pieces else s.pieces }

/-- one step of finding copies that are not put off -/
def Finder.stepFast (e : Effort) (s : Finder) : Finder :=
  let size := s.memory.bytes.size
  let (head, memory) := s.memory.insert s.place
  let (length, start) :=
    if head != 0 && s.place - head ≤ reach then
      let (length, start) := memory.longest e s.place (s.place - reach) e.chain head 2 s.start
      (min length (size - s.place), start)
    else (0, s.start)
  if 3 ≤ length then
    let memory := if length ≤ e.lazyBound then memory.insertAll (s.place + 1) (length - 1) else memory
    { s with memory, place := s.place + length, start, pieces := .copy length (s.place - start) :: s.pieces }
  else { s with memory, place := s.place + 1, start, pieces := .literal (memory.byte s.place) :: s.pieces }

/-- the pieces of a text -/
def Finder.run (e : Effort) : Nat → Finder → List Piece
  | 0, s => s.pieces.reverse
  | fuel + 1, s =>
    if s.memory.bytes.size ≤ s.place then
      (if s.held then .literal (s.memory.byte (s.place - 1)) :: s.pieces else s.pieces).reverse
    else Finder.run e fuel (if e.putsOff then s.stepLazy e else s.stepFast e)

/-- the pieces of a text -/
def piecesOf (level : Nat) (bytes : Array Nat) : List Piece :=
  Finder.run (.ofLevel level) (bytes.size + 1)
    ⟨⟨bytes, Array.replicate 32768 0, Array.replicate bytes.size 0⟩, 0, 2, 0, false, []⟩

/-! ## Writing bits -/

/-- bits that were written: whole bytes, and what is left with its number -/
structure Bits where
  bytes : Array Nat
  rest : Nat
  count : Nat

namespace Bits

/-- writes the lowest bits of a number, the lowest one first -/
def put (b : Bits) (value count : Nat) : Bits :=
  let rest := b.rest + value % Nat.pow 2 count * Nat.pow 2 b.count
  let total := b.count + count
  let bytes := (List.range (total / 8)).foldl (fun (bytes : Array Nat) i => bytes.push (rest / Nat.pow 256 i % 256)) b.bytes
  ⟨bytes, rest / Nat.pow 256 (total / 8), total % 8⟩

/-- fills up the last byte -/
def align (b : Bits) : Bits := if b.count = 0 then b else b.put 0 (8 - b.count)

end Bits

/-- a word with its bits in the other order -/
def turned : Nat → Nat → Nat
  | 0, _ => 0
  | count + 1, word => turned count (word / 2) + word % 2 * Nat.pow 2 count

/-- writes the word of a symbol -/
def Bits.symbol (b : Bits) (code : Code) (n : Nat) : Bits :=
  let (word, count) := code.getD n (0, 0)
  b.put (turned count word) count

/-- the symbol, the extra value and its bits for a length and a distance -/
def Piece.symbols : Piece → Nat × (Nat × Nat) × Option (Nat × Nat × Nat)
  | .literal byte => (byte, (0, 0), none)
  | .copy length distance =>
    let (symbol, value, bits) := symbolOf lengthSymbols length
    (257 + symbol, (value, bits), some (symbolOf distanceSymbols distance))

/-- writes pieces with codes, and the end of them -/
def Bits.pieces (b : Bits) (literals distances : Code) (pieces : List Piece) : Bits :=
  (pieces.foldl (fun (b : Bits) piece =>
    let (symbol, (value, bits), distance) := piece.symbols
    let b := (b.symbol literals symbol).put value bits
    match distance with
    | none => b
    | some (symbol, value, bits) => (b.symbol distances symbol).put value bits) b).symbol literals 256

/-- lengths of words written shorter: each symbol with an extra value and its bits. A length may be repeated. -/
def packed : Nat → Option Nat → List Nat → List (Nat × Nat × Nat)
  | 0, _, _ => []
  | _, _, [] => []
  | fuel + 1, before, n :: rest =>
    let most := if n = 0 then 138 else if before == some n then 6 else 7
    let least := if n = 0 || before == some n then 3 else 4
    let count := (((n :: rest).takeWhile (· == n)).length).min most
    let after := rest.drop (count - 1)
    let these : List (Nat × Nat × Nat) :=
      if count < least then List.replicate count (n, 0, 0)
      else if n != 0 then
        if before == some n then [(16, count - 3, 2)] else [(n, 0, 0), (16, count - 4, 2)]
      else if count ≤ 10 then [(17, count - 3, 3)]
      else [(18, count - 11, 7)]
    these ++ packed fuel (some n) after

/-- how often symbols occur -/
def occurrences (size : Nat) (symbols : List Nat) : Array Nat :=
  symbols.foldl (fun (c : Array Nat) n => c.modify n (· + 1)) (Array.replicate size 0)

/-- how many bits symbols take -/
def cost (lengths : Array Nat) (occurrences : Array Nat) (extra : Nat → Nat) : Nat :=
  (List.range occurrences.size).foldl (fun n i => n + occurrences.getD i 0 * (lengths.getD i 0 + extra i)) 0

/-- lengths without the zeros at their end, but at least so many -/
def withoutZeros (least : Nat) (lengths : Array Nat) : List Nat :=
  let kept := (lengths.toList.reverse.dropWhile (· == 0)).reverse
  kept ++ List.replicate (least - kept.length) 0

/-- writes a block in the shortest way -/
def Bits.block (b : Bits) (last : Bool) (bytes : List Nat) (pieces : List Piece) : Bits :=
  let symbols := pieces.map Piece.symbols
  let counts := occurrences 286 (symbols.map (·.1) ++ [256])
  let distanceCounts := occurrences 30 (symbols.filterMap fun s => s.2.2.map (·.1))
  let lengths := lengthsFor 15 counts
  let distances := lengthsFor 15 distanceCounts
  let lengthList := withoutZeros 257 lengths
  let distanceList := withoutZeros 1 distances
  let header := packed 400 none lengthList ++ packed 400 none distanceList
  let headerCounts := occurrences 19 (header.map (·.1))
  let headerLengths := lengthsFor 7 headerCounts
  let shown := lengthOrder.map fun n => headerLengths.getD n 0
  let shown := shown.take (max 4 (shown.reverse.dropWhile (· == 0)).length)
  let lengthExtra (n : Nat) : Nat := if n < 257 then 0 else ((lengthSymbols[n - 257]?).map Prod.snd).getD 0
  let distanceExtra (n : Nat) : Nat := ((distanceSymbols[n]?).map Prod.snd).getD 0
  let headerExtra (n : Nat) : Nat := if n = 16 then 2 else if n = 17 then 3 else if n = 18 then 7 else 0
  let own := cost lengths counts lengthExtra + cost distances distanceCounts distanceExtra
    + cost headerLengths headerCounts headerExtra + 3 * shown.length + 14
  let fixed := cost fixedLengths counts lengthExtra + cost fixedDistances distanceCounts distanceExtra
  let ownBytes := (own + 10) / 8
  let fixedBytes := (fixed + 10) / 8
  let flag := if last then 1 else 0
  if bytes.length + 4 ≤ min ownBytes fixedBytes then
    let b := (b.put flag 3).align
    let b := (b.put bytes.length 16).put (65535 - bytes.length) 16
    bytes.foldl (fun (b : Bits) byte => b.put byte 8) b
  else if fixedBytes ≤ ownBytes then (b.put (2 + flag) 3).pieces (codeOf fixedLengths) (codeOf fixedDistances) pieces
  else
    let b := (((b.put (4 + flag) 3).put (lengthList.length - 257) 5).put (distanceList.length - 1) 5).put (shown.length - 4) 4
    let b := shown.foldl (fun (b : Bits) n => b.put n 3) b
    let code := codeOf headerLengths
    let b := header.foldl (fun (b : Bits) (symbol, value, bits) => (b.symbol code symbol).put value bits) b
    b.pieces (codeOf lengths) (codeOf distances) pieces

/-- how many pieces a block has at most -/
def blockSize : Nat := 32767

/-- writes blocks -/
def Bits.blocks : Nat → Bits → List Nat → List Piece → Bits
  | 0, b, _, _ => b
  | fuel + 1, b, bytes, pieces =>
    let these := pieces.take blockSize
    let rest := pieces.drop blockSize
    let size := these.foldl (fun n p => n + match p with
      | .literal _ => 1
      | .copy length _ => length) 0
    if rest.isEmpty then b.block true bytes these
    else Bits.blocks fuel (b.block false (bytes.take size) these) (bytes.drop size) rest

/-- a text as compressed data -/
def deflate (level : Nat) (o : Octets) : Octets :=
  let bytes := o.map Char.toNat
  let pieces := piecesOf level bytes.toArray
  let b := (Bits.blocks (pieces.length + 1) ⟨#[], 0, 0⟩ bytes pieces).align
  b.bytes.toList.map Char.ofNat

end ScriptBridge.Shell.Compression
