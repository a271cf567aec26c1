import Theming.Picture.Inflate

/-!
# Deflate compression

Bytes are compressed into a zlib stream the way the default compression level does it, so the
output is the same byte for byte, not only the same once inflated.

## Matching

The input is scanned with a window of 32768 bytes and hash chains over four-byte prefixes: the
head of each chain is kept per hash (17 bits of the product of the prefix and `0x1e35a7bd`), and
each position links to the previous one with its hash. Matching is lazy: a match found at a
position is only emitted if the match at the next position is not longer. A chain is searched
only while the pending match is shorter than 16; at most 128 links are followed (32 when the
match to beat is already 8 long), the search stops at a match of 128, and a match of exactly
four bytes is taken only within 4096 bytes. The last three positions are not hashed.

The scan sees the input through a buffer of twice the window: once the unread part of a full
buffer is shorter than the longest match plus four, the buffer slides by one window. Positions
that slid out can no longer be matched, and a block whose start slid out can no longer be
stored verbatim.

## Blocks

Every 16384 tokens, and at the end, the tokens so far make a block. A block is written in the
smallest of three forms: stored (when its bytes are still at hand and at most 65535), with the
fixed codes, or with codes built for it; a tie keeps the fixed codes and then the coded form.
The stream ends with an empty final stored block.

Codes for a block are built from the symbol counts with lengths limited to 15 bits (7 for the
code lengths' own code) by package-merge over the symbols sorted by count and then by value;
one or two symbols get one bit each. Code lengths are sent with repeat codes 16 (3 to 6 times
the previous length), 17 (3 to 10 zeros) and 18 (11 to 138 zeros).
-/

set_option autoImplicit false

namespace Theming.Picture.Deflate

/-- A token of the compressed stream: a byte, or a copy of `length` bytes from `distance` back. -/
inductive Token where
  | literal (byte : Nat)
  | reference (length distance : Nat)
  deriving Inhabited

/-! ## Constants of the default level -/

/-- The window: how far back a copy may reach. -/
def windowSize : Nat := 32768

/-- The shortest match emitted. -/
def minMatch : Nat := 4

/-- The longest match. -/
def maxMatch : Nat := 258

/-- The number of hash chain heads. -/
def hashSize : Nat := 131072

/-- The tokens of a full block. -/
def maxBlockTokens : Nat := 16384

/-- A match this long searches only a quarter of the chain. -/
def goodLength : Nat := 8

/-- A pending match this long is not improved on. -/
def lazyLength : Nat := 16

/-- A match this long ends the search. -/
def niceLength : Nat := 128

/-- The links of a chain searched. -/
def chainLength : Nat := 128

/-- A byte of the input, 0 past its end. -/
def byteAt (data : ByteArray) (i : Nat) : Nat :=
  if h : i < data.size then data[i].toNat else 0

/-- The hash of the four bytes from a position. -/
def hash4 (data : ByteArray) (p : Nat) : Nat :=
  let x := byteAt data p * 16777216 + byteAt data (p + 1) * 65536 + byteAt data (p + 2) * 256 +
    byteAt data (p + 3)
  x * 0x1e35a7bd % 4294967296 / 32768

/-- The number of equal bytes from `a` and from `b`, counting from `k`, at most `k + fuel`. -/
def commonPrefix (data : ByteArray) (a b : Nat) : Nat → Nat → Nat
  | 0, k => k
  | fuel + 1, k =>
    if byteAt data (a + k) == byteAt data (b + k) then commonPrefix data a b fuel (k + 1) else k

/-! ## Matching -/

/-- The best match a chain search has found. -/
structure Found where
  length : Nat
  distance : Nat
  found : Bool

/-- Follows a hash chain from candidate `i` for a match at `pos` longer than the one found,
comparing at most `look` bytes; `floor` is the first position still in the buffer. -/
def chainSearch (data : ByteArray) (prev : Array Nat) (floor pos look nice : Nat) :
    Nat → Int → Found → Found
  | 0, _, r => r
  | tries + 1, i, r =>
    let c := i.toNat
    let (r, done) : Found × Bool :=
      if byteAt data (pos + r.length) == byteAt data (c + r.length) then
        let n := commonPrefix data c pos look 0
        if n > r.length && (n > minMatch || pos - c ≤ 4096) then (⟨n, pos - c, true⟩, n ≥ nice)
        else (r, false)
      else (r, false)
    if done || i == (pos : Int) - windowSize then r
    else
      let next : Int := (prev.getD (c % windowSize) 0 : Int) - 1
      if next < (pos : Int) - windowSize || next < floor then r
      else chainSearch data prev floor pos look nice tries next r

/-- The longest match at `pos` from the chain starting at `head`, better than `prevLength`. -/
def findMatch (data : ByteArray) (prev : Array Nat) (floor pos : Nat) (head : Int)
    (prevLength lookahead : Nat) : Found :=
  let look := min maxMatch lookahead
  let tries := if prevLength ≥ goodLength then chainLength / 4 else chainLength
  chainSearch data prev floor pos look (min look niceLength) tries head ⟨prevLength, 0, false⟩

/-- A finished block: its tokens and, when its bytes are still at hand, their range. -/
abbrev Block := Array Token × Option (Nat × Nat)

/-- The state of the scan besides the hash tables: the position, the end of the bytes in the
buffer, how often the buffer slid, the last chain head read, the pending match, whether the
previous byte is still to be emitted, and where the current block starts (none once it slid
out). -/
structure Scan where
  index : Nat
  windowEnd : Nat
  slides : Nat
  chainHead : Int
  length : Nat
  offset : Nat
  byteAvailable : Bool
  blockStart : Option Nat

/-- A block of tokens ending at `index`. -/
def blockOf (s : Scan) (tokens : Array Token) (index : Nat) : Block :=
  (tokens, s.blockStart.bind fun b => if b ≤ index then some (b, index) else none)

/-- Hashes a position skipped over by a match. -/
def insertSkipped (data : ByteArray) (limit : Nat) (tables : Array Nat × Array Nat) (j : Nat) :
    Array Nat × Array Nat :=
  match tables with
  | (head, prev) =>
    if j < limit then
      let h := hash4 data j
      let link := head.getD h 0
      (head.set! h (j + 1), prev.set! (j % windowSize) link)
    else (head, prev)

/-- The scan loop: one step per position (or buffer slide), producing blocks. -/
def scan (data : ByteArray) : Nat → Array Nat → Array Nat → Scan → Array Token → Array Block →
    Array Block
  | 0, _, _, _, _, blocks => blocks
  | fuel + 1, head, prev, s, tokens, blocks =>
    let n := data.size
    let lookahead := s.windowEnd - s.index
    if lookahead < minMatch + maxMatch && s.windowEnd < n then
      let slides := s.slides + 1
      let blockStart := s.blockStart.bind fun b => if b < windowSize * slides then none else some b
      scan data fuel head prev
        { s with slides, blockStart, windowEnd := min n (s.windowEnd + windowSize) } tokens blocks
    else if lookahead == 0 then
      let tokens := if s.byteAvailable then tokens.push (.literal (byteAt data (s.index - 1)))
        else tokens
      if tokens.isEmpty then blocks else blocks.push (blockOf s tokens s.index)
    else
      let limit := s.windowEnd - (minMatch - 1)
      let (head, prev, chainHead) :=
        if s.index < limit then
          let h := hash4 data s.index
          let link := head.getD h 0
          (head.set! h (s.index + 1), prev.set! (s.index % windowSize) link, (link : Int))
        else (head, prev, s.chainHead)
      let prevLength := s.length
      let prevOffset := s.offset
      let floor := windowSize * s.slides
      let lowest : Int := max (floor : Int) ((s.index : Int) - windowSize)
      let found : Found :=
        if chainHead - 1 ≥ lowest && lookahead > prevLength && prevLength < lazyLength then
          findMatch data prev floor s.index (chainHead - 1) (minMatch - 1) lookahead
        else ⟨minMatch - 1, 0, false⟩
      let (length, offset) := if found.found then (found.length, found.distance)
        else (minMatch - 1, 0)
      if prevLength ≥ minMatch && length ≤ prevLength then
        let tokens := tokens.push (.reference prevLength prevOffset)
        let newIndex := s.index + prevLength - 1
        let (head, prev) := (List.range (prevLength - 2)).foldl
          (fun tables k => insertSkipped data limit tables (s.index + 1 + k)) (head, prev)
        let s := { s with
          index := newIndex, chainHead, length := minMatch - 1, offset, byteAvailable := false }
        if tokens.size == maxBlockTokens then
          scan data fuel head prev { s with blockStart := some newIndex } #[]
            (blocks.push (blockOf s tokens newIndex))
        else scan data fuel head prev s tokens blocks
      else
        let s := { s with chainHead, length, offset }
        if s.byteAvailable then
          let tokens := tokens.push (.literal (byteAt data (s.index - 1)))
          let s' := { s with index := s.index + 1, byteAvailable := true }
          if tokens.size == maxBlockTokens then
            scan data fuel head prev { s' with blockStart := some s.index } #[]
              (blocks.push (blockOf s tokens s.index))
          else scan data fuel head prev s' tokens blocks
        else scan data fuel head prev { s with index := s.index + 1, byteAvailable := true }
          tokens blocks

/-- The blocks of tokens of an input. -/
def blocks (data : ByteArray) : Array Block :=
  let start : Scan :=
    { index := 0, windowEnd := min data.size (2 * windowSize), slides := 0, chainHead := -1,
      length := minMatch - 1, offset := 0, byteAvailable := false, blockStart := some 0 }
  scan data (2 * data.size + 8) (Array.replicate hashSize 0) (Array.replicate windowSize 0) start
    #[] #[]

/-! ## Symbols -/

/-- The first length of each length symbol. -/
def lengthBases : Array Nat :=
  #[3, 4, 5, 6, 7, 8, 9, 10, 11, 13, 15, 17, 19, 23, 27, 31, 35, 43, 51, 59, 67, 83, 99, 115,
    131, 163, 195, 227, 258]

/-- The extra bits of each length symbol. -/
def lengthExtra : Array Nat :=
  #[0, 0, 0, 0, 0, 0, 0, 0, 1, 1, 1, 1, 2, 2, 2, 2, 3, 3, 3, 3, 4, 4, 4, 4, 5, 5, 5, 5, 0]

/-- The first distance of each distance symbol. -/
def distanceBases : Array Nat :=
  #[1, 2, 3, 4, 5, 7, 9, 13, 17, 25, 33, 49, 65, 97, 129, 193, 257, 385, 513, 769, 1025, 1537,
    2049, 3073, 4097, 6145, 8193, 12289, 16385, 24577]

/-- The extra bits of each distance symbol. -/
def distanceExtra : Array Nat :=
  #[0, 0, 0, 0, 1, 1, 2, 2, 3, 3, 4, 4, 5, 5, 6, 6, 7, 7, 8, 8, 9, 9, 10, 10, 11, 11, 12, 12, 13,
    13]

/-- The last symbol whose base is at most a value. -/
def symbolOf (bases : Array Nat) (v : Nat) : Nat :=
  (bases.toList.zip (List.range bases.size)).foldl (fun acc (b, i) => if b ≤ v then i else acc) 0

/-- The literal/length symbols: 256 bytes, the end of block, 29 lengths. -/
def literalSymbols : Nat := 286

/-- The distance symbols. -/
def distanceSymbols : Nat := 30

/-- The end-of-block symbol. -/
def endOfBlock : Nat := 256

/-- The symbol counts of a block's tokens followed by the end of block. -/
def frequencies (tokens : Array Token) : Array Nat × Array Nat :=
  let count (a : Array Nat) (i : Nat) := a.modify i (· + 1)
  let (lit, dist) := tokens.foldl (fun (lit, dist) t =>
    match t with
    | .literal b => (count lit b, dist)
    | .reference len d =>
      (count lit (endOfBlock + 1 + symbolOf lengthBases len), count dist (symbolOf distanceBases d)))
    (Array.replicate literalSymbols 0, Array.replicate distanceSymbols 0)
  (count lit endOfBlock, dist)

/-! ## Codes -/

/-- A code for each symbol: its bits reversed (so they are sent first bit first) and its
length, 0 for a symbol without code. -/
abbrev Codes := Array (Nat × Nat)

/-- The low `width` bits of a number in reverse order. -/
def reverseBits (code width : Nat) : Nat :=
  (List.range width).foldl (fun acc i => acc * 2 + code / Nat.pow 2 i % 2) 0

/-- The fixed literal/length code. -/
def fixedLiteralCodes : Codes :=
  (List.range literalSymbols).toArray.map fun ch =>
    let (bits, size) :=
      if ch < 144 then (ch + 48, 8)
      else if ch < 256 then (ch + 400 - 144, 9)
      else if ch < 280 then (ch - 256, 7)
      else (ch + 192 - 280, 8)
    (reverseBits bits size, size)

/-- The fixed distance code. -/
def fixedDistanceCodes : Codes :=
  (List.range distanceSymbols).toArray.map fun ch => (reverseBits ch 5, 5)

/-- The bits the symbols take with a code. -/
def bitLength (codes : Codes) (freq : Array Nat) : Nat :=
  (List.range freq.size).foldl (fun acc i => acc + freq.getD i 0 * (codes.getD i (0, 0)).2) 0

/-- A count larger than any real one, closing each list of counts. -/
def never : Nat := 2147483647

/-- A level of the package-merge construction: the count of its last item, of the next leaf
and of the next pair from the level below, and how many items it still needs. -/
structure Level where
  lastFreq : Nat
  nextCharFreq : Nat
  nextPairFreq : Nat
  needed : Int
  deriving Inhabited

/-- Goes down while the level below still needs items. -/
def descend (levels : Array Level) : Nat → Nat → Nat
  | 0, level => level
  | fuel + 1, level =>
    if level ≥ 1 && (levels.getD (level - 1) default).needed > 0 then descend levels fuel (level - 1)
    else level

/-- The package-merge loop over the sorted counts (closed by `never`); gives, per level, how many
leaves lie left of the chain's nodes. -/
def packageMerge (counts : Array Nat) (maxBits : Nat) :
    Nat → Nat → Array Level → Array (Array Nat) → Array (Array Nat)
  | 0, _, _, leaves => leaves
  | fuel + 1, level, levels, leaves =>
    let l := levels.getD level default
    if l.nextPairFreq == never && l.nextCharFreq == never then
      let levels := levels.set! level { l with needed := 0 }
      let levels := levels.modify (level + 1) fun u => { u with nextPairFreq := never }
      packageMerge counts maxBits fuel (level + 1) levels leaves
    else
      let prevFreq := l.lastFreq
      let (l, leaves, levels) :=
        if l.nextCharFreq < l.nextPairFreq then
          let taken := (leaves.getD level #[]).getD level 0 + 1
          ({ l with lastFreq := l.nextCharFreq, nextCharFreq := counts.getD taken never },
            leaves.modify level (·.set! level taken), levels)
        else
          let below := leaves.getD (level - 1) #[]
          ({ l with lastFreq := l.nextPairFreq },
            leaves.modify level fun row =>
              (List.range level).foldl (fun row j => row.set! j (below.getD j 0)) row,
            levels.modify (level - 1) fun d => { d with needed := 2 })
      let l := { l with needed := l.needed - 1 }
      let levels := levels.set! level l
      if l.needed == 0 then
        if level == maxBits then leaves
        else
          let levels := levels.modify (level + 1) fun u => { u with nextPairFreq := prevFreq + l.lastFreq }
          packageMerge counts maxBits fuel (level + 1) levels leaves
      else packageMerge counts maxBits fuel (descend levels level level) levels leaves

/-- How many symbols get each code length, from 0 to `maxBits`, for at least three counts
sorted ascending. -/
def bitCounts (counts : Array Nat) (maxBits : Nat) : Array Nat :=
  let n := counts.size
  let list := counts.push never
  let maxBits := min maxBits (n - 1)
  let f (i : Nat) := list.getD i never
  let levels : Array Level := (List.range 17).toArray.map fun level =>
    if level == 0 || level > maxBits then default
    else ⟨f 1, f 2, if level == 1 then never else f 0 + f 1, 0⟩
  let levels := levels.modify maxBits fun l => { l with needed := 2 * (n : Int) - 4 }
  let leaves : Array (Array Nat) := (List.range 17).toArray.map fun level =>
    (Array.replicate 17 0).set! level (if level ≥ 1 && level ≤ maxBits then 2 else 0)
  let leaves := packageMerge list maxBits (4 * (n + 2) * 17) maxBits levels leaves
  let top := leaves.getD maxBits #[]
  (List.range (maxBits + 1)).toArray.map fun bits =>
    if bits == 0 then 0 else top.getD (maxBits + 1 - bits) 0 - top.getD (maxBits - bits) 0

/-- Gives the codes: the most frequent symbols take the shortest lengths, and within a length
codes go up with the symbol. -/
def assignCodes (bitCount : Array Nat) (sorted : List (Nat × Nat)) (size : Nat) : Codes :=
  let (_, _, codes) := (List.range bitCount.size).foldl (fun (code, rest, codes) len =>
    let code := code * 2 % 65536
    let bits := bitCount.getD len 0
    if len == 0 || bits == 0 then (code, rest, codes)
    else
      let chunk := (rest.drop (rest.length - bits)).mergeSort fun a b => a.1 ≤ b.1
      let (code, codes) := chunk.foldl (fun (code, codes) (sym, _) =>
        (code + 1, codes.set! sym (reverseBits code len, len))) (code, codes)
      (code, rest.take (rest.length - bits), codes))
    (0, sorted, Array.replicate size (0, 0))
  codes

/-- The code for symbol counts, lengths at most `maxBits`. -/
def generate (freq : Array Nat) (maxBits : Nat) : Codes :=
  let used := (List.range freq.size).filterMap fun i =>
    let f := freq.getD i 0
    if f == 0 then none else some (i, f)
  if used.length ≤ 2 then
    (used.zip (List.range used.length)).foldl (fun codes ((sym, _), i) => codes.set! sym (i, 1))
      (Array.replicate freq.size (0, 0))
  else
    let sorted := used.mergeSort fun a b => a.2 < b.2 || (a.2 == b.2 && a.1 ≤ b.1)
    assignCodes (bitCounts (sorted.map (·.2)).toArray maxBits) sorted freq.size

/-! ## Bits -/

/-- Bits written first bit first: whole bytes and the bits of the next byte. -/
structure BitOut where
  bytes : ByteArray
  acc : Nat
  count : Nat

/-- Writes the low `width` bits of a value. -/
def BitOut.put (o : BitOut) (value width : Nat) : BitOut :=
  match o with
  | ⟨bytes, acc, count⟩ =>
    let acc := acc ||| (value <<< count)
    let count := count + width
    let whole := count / 8
    let bytes := (List.range whole).foldl (fun b i => b.push ((acc >>> (8 * i)) % 256).toUInt8) bytes
    ⟨bytes, acc >>> (8 * whole), count % 8⟩

/-- Fills the current byte with zeros. -/
def BitOut.align (o : BitOut) : BitOut :=
  match o with
  | ⟨bytes, acc, count⟩ => if count == 0 then ⟨bytes, 0, 0⟩ else ⟨bytes.push (acc % 256).toUInt8, 0, 0⟩

/-- Writes a code. -/
def BitOut.code (o : BitOut) (c : Nat × Nat) : BitOut := o.put c.1 c.2

/-! ## Block writing -/

/-- The order in which code length code lengths are sent. -/
def codegenOrder : Array Nat := #[16, 17, 18, 0, 8, 7, 9, 6, 10, 5, 11, 4, 12, 3, 13, 2, 14, 1, 15]

/-- The code lengths of a run of equal lengths, with repeat codes, and their counts. -/
def runCodes (size count : Nat) (out : Array Nat) (freq : Array Nat) : Array Nat × Array Nat :=
  let bump (f : Array Nat) (i : Nat) := f.modify i (· + 1)
  let (count, out, freq) :=
    if size != 0 then
      let out := out.push size
      let freq := bump freq size
      let (count, out, freq) := (List.range (count / 3 + 1)).foldl (fun (count, out, freq) _ =>
        if count - 1 ≥ 3 then
          let k := min 6 (count - 1)
          (count - k, (out.push 16).push (k - 3), bump freq 16)
        else (count, out, freq)) (count, out, freq)
      (count - 1, out, freq)
    else
      let (count, out, freq) := (List.range (count / 11 + 1)).foldl (fun (count, out, freq) _ =>
        if count ≥ 11 then
          let k := min 138 count
          (count - k, (out.push 18).push (k - 11), bump freq 18)
        else (count, out, freq)) (count, out, freq)
      if count ≥ 3 then (0, (out.push 17).push (count - 3), bump freq 17)
      else (count, out, freq)
  (List.range count).foldl (fun (out, freq) _ => (out.push size, bump freq size)) (out, freq)

/-- Maximal runs of equal values. -/
def runs : List Nat → List (Nat × Nat)
  | [] => []
  | x :: rest =>
    match runs rest with
    | (y, k) :: more => if x == y then (y, k + 1) :: more else (x, 1) :: (y, k) :: more
    | [] => [(x, 1)]

/-- The code lengths of both codes as code length symbols (each repeat code followed by its
count), with the counts of the symbols. -/
def codegen (literals distances : Codes) (numLiterals numDistances : Nat) : Array Nat × Array Nat :=
  let sizes := (List.range numLiterals).map (fun i => (literals.getD i (0, 0)).2) ++
    (List.range numDistances).map (fun i => (distances.getD i (0, 0)).2)
  (runs sizes).foldl (fun (out, freq) (size, count) => runCodes size count out freq)
    (#[], Array.replicate 19 0)

/-- The number of symbols up to the last one used, at least `least`. -/
def usedPrefix (freq : Array Nat) (least : Nat) : Nat :=
  (List.range freq.size).foldl (fun acc i => if freq.getD i 0 != 0 then i + 1 else acc) least

/-- Writes a token with the two codes. -/
def writeToken (literals distances : Codes) (o : BitOut) (t : Token) : BitOut :=
  match t with
  | .literal b => o.code (literals.getD b (0, 0))
  | .reference len dist =>
    let ls := symbolOf lengthBases len
    let o := o.code (literals.getD (endOfBlock + 1 + ls) (0, 0))
    let extra := lengthExtra.getD ls 0
    let o := if extra > 0 then o.put (len - lengthBases.getD ls 0) extra else o
    let ds := symbolOf distanceBases dist
    let o := o.code (distances.getD ds (0, 0))
    let extra := distanceExtra.getD ds 0
    if extra > 0 then o.put (dist - distanceBases.getD ds 0) extra else o

/-- Writes a stored block header: the final flag, alignment, the length and its complement. -/
def storedHeader (o : BitOut) (length : Nat) (final : Bool) : BitOut :=
  ((o.put (if final then 1 else 0) 3).align.put length 16).put (65535 - length) 16

/-- Writes a block, not final, in its smallest form. -/
def writeBlock (o : BitOut) (tokens : Array Token) (input : Option ByteArray) : BitOut :=
  let (litFreq, distFreq) := frequencies tokens
  let tokens := tokens.push (.literal endOfBlock)
  let numLiterals := usedPrefix litFreq 0
  let numDistances0 := usedPrefix distFreq 0
  let (distFreq, numDistances) :=
    if numDistances0 == 0 then (distFreq.set! 0 1, 1) else (distFreq, numDistances0)
  let literals := generate litFreq 15
  let distances := generate distFreq 15
  let storable := match input with
    | some bytes => bytes.size ≤ 65535
    | none => false
  let storedSize := match input with
    | some bytes => (bytes.size + 5) * 8
    | none => 0
  let extraBits :=
    if storable then
      (List.range literalSymbols).foldl (fun acc code =>
        if code ≥ endOfBlock + 1 + 8 && code < numLiterals then
          acc + litFreq.getD code 0 * lengthExtra.getD (code - endOfBlock - 1) 0
        else acc) 0 +
      (List.range distanceSymbols).foldl (fun acc code =>
        if code ≥ 4 && code < numDistances then acc + distFreq.getD code 0 * distanceExtra.getD code 0
        else acc) 0
    else 0
  let fixedSize := 3 + bitLength fixedLiteralCodes litFreq + bitLength fixedDistanceCodes distFreq +
    extraBits
  let (lengthSymbols, codegenFreq) := codegen literals distances numLiterals numDistances
  let lengthCodes := generate codegenFreq 7
  let numCodegens := (List.range 15).foldl (fun acc _ =>
    if acc > 4 && codegenFreq.getD (codegenOrder.getD (acc - 1) 0) 0 == 0 then acc - 1 else acc) 19
  let header := 3 + 5 + 5 + 4 + 3 * numCodegens + bitLength lengthCodes codegenFreq +
    codegenFreq.getD 16 0 * 2 + codegenFreq.getD 17 0 * 3 + codegenFreq.getD 18 0 * 7
  let dynamicSize := header + bitLength literals litFreq + bitLength distances distFreq + extraBits
  let (size, dynamic) := if dynamicSize < fixedSize then (dynamicSize, true) else (fixedSize, false)
  match input with
  | some bytes =>
    if storable && storedSize < size then
      let o := (storedHeader o bytes.size false)
      ⟨o.bytes ++ bytes, o.acc, o.count⟩
    else if dynamic then writeCoded o tokens literals distances numLiterals numDistances
      numCodegens lengthSymbols lengthCodes
    else tokens.foldl (writeToken fixedLiteralCodes fixedDistanceCodes) (o.put 2 3)
  | none =>
    if dynamic then writeCoded o tokens literals distances numLiterals numDistances
      numCodegens lengthSymbols lengthCodes
    else tokens.foldl (writeToken fixedLiteralCodes fixedDistanceCodes) (o.put 2 3)
where
  /-- Writes the block with its own codes: the header, the code lengths and the tokens. -/
  writeCoded (o : BitOut) (tokens : Array Token) (literals distances : Codes)
      (numLiterals numDistances numCodegens : Nat) (lengthSymbols : Array Nat)
      (lengthCodes : Codes) : BitOut :=
    let o := (((o.put 4 3).put (numLiterals - 257) 5).put (numDistances - 1) 5).put (numCodegens - 4) 4
    let o := (List.range numCodegens).foldl (fun o i =>
      o.put (lengthCodes.getD (codegenOrder.getD i 0) (0, 0)).2 3) o
    let (o, _) := (List.range lengthSymbols.size).foldl (fun (o, skip) i =>
      if skip then (o, false)
      else
        let word := lengthSymbols.getD i 0
        let o := o.code (lengthCodes.getD word (0, 0))
        let arg := lengthSymbols.getD (i + 1) 0
        if word == 16 then (o.put arg 2, true)
        else if word == 17 then (o.put arg 3, true)
        else if word == 18 then (o.put arg 7, true)
        else (o, false)) (o, false)
    tokens.foldl (writeToken literals distances) o

/-- The raw deflate stream of bytes. -/
def deflate (data : ByteArray) : ByteArray :=
  let o := (blocks data).foldl (fun o (tokens, range) =>
    writeBlock o tokens (range.map fun (a, b) => data.extract a b)) (⟨.empty, 0, 0⟩ : BitOut)
  (storedHeader o 0 true).align.bytes

/-- The zlib stream of bytes: header, deflate stream and Adler-32 checksum. -/
def zlib (data : ByteArray) : ByteArray :=
  let sum := adler32 data
  let tail : List UInt8 := [sum / 16777216 % 256, sum / 65536 % 256, sum / 256 % 256, sum % 256].map
    Nat.toUInt8
  ⟨#[0x78, 0x9c]⟩ ++ deflate data ++ ⟨tail.toArray⟩

end Theming.Picture.Deflate
