/-!
# Inflating compressed data

DEFLATE streams (RFC 1951) inside zlib wrappers (RFC 1950), decoded the way a byte-at-a-time
decoder does it: bits are taken from whole bytes as they are needed, and the number of bytes
taken so far is the offset named when the input turns out to be corrupt.

Prefix codes are decoded through a table of 512 entries for codes of up to 9 bits, with linked
tables for longer codes. A symbol is found by first taking as many bytes as the shortest code
needs, then looking the bits up (unknown bits read as zero): when the entry found is longer
than the bits at hand, another byte is taken and the lookup repeated. The literal code of a
dynamic block starts its lookups at the length of the end-of-block code, so that no byte after
the end of the stream is ever taken.

The input is a `Source`: the bytes that can be read, and what reading past them reports.
-/

set_option autoImplicit false

namespace Theming.Picture

/-- Why reading a stream stopped. -/
inductive StreamError where
  /-- The input ended cleanly, before a value began. -/
  | ended
  /-- The input ended inside a value. -/
  | truncated
  /-- The compressed data is malformed; the offset counts the bytes taken so far. -/
  | corrupt (offset : Nat)
  /-- The zlib header is malformed. -/
  | badHeader
  /-- The zlib header asks for a preset dictionary that is not given. -/
  | badDictionary
  /-- The zlib checksum does not match the data. -/
  | badChecksum
  /-- The underlying input failed. -/
  | source (message : String)
  deriving Repr, BEq, Inhabited

namespace StreamError

/-- The message of a stream failure. -/
def message : StreamError → String
  | ended => "EOF"
  | truncated => "unexpected EOF"
  | corrupt n => "flate: corrupt input before offset " ++ toString n
  | badHeader => "zlib: invalid header"
  | badDictionary => "zlib: invalid dictionary"
  | badChecksum => "zlib: invalid checksum"
  | source m => m

/-- The failure of running out in the middle of something: a clean end becomes a truncation. -/
def midway : StreamError → StreamError
  | ended => truncated
  | e => e

end StreamError

/-- Readable bytes, and what reading past them reports. -/
structure Source where
  bytes : ByteArray
  ending : StreamError
  deriving Inhabited

/-- The state of inflating: the input, the bytes taken, the bit buffer (low bits first) and the
output so far. -/
structure Inflater where
  src : Source
  pos : Nat := 0
  bits : Nat := 0
  count : Nat := 0
  out : ByteArray := ByteArray.empty
  deriving Inhabited

/-- Inflating steps: they may fail, and the state reached is kept when they do. -/
abbrev InflateM := ExceptT StreamError (StateM Inflater)

namespace Inflate

/-- The low `n` bits of `v` in reverse order. -/
def reverseBits (n v : Nat) : Nat :=
  (List.range n).foldl (fun acc i => acc * 2 + v / Nat.pow 2 i % 2) 0

/-- The corruption failure at the current offset. -/
def corruptHere : InflateM Unit := do
  throw (.corrupt (← get).pos)

/-- Takes one more byte into the bit buffer. -/
def moreBits : InflateM Unit := do
  let s ← get
  match s.src.bytes[s.pos]? with
  | some c => set { s with pos := s.pos + 1, bits := s.bits ||| (c.toNat <<< s.count), count := s.count + 8 }
  | none => throw s.src.ending.midway

/-- Takes bytes until the bit buffer holds at least `n` bits. -/
def need (n : Nat) : InflateM Unit :=
  go (n / 8 + 1)
where
  /-- At most `fuel` more bytes. -/
  go : Nat → InflateM Unit
    | 0 => pure ()
    | fuel + 1 => do
      if (← get).count < n then
        moreBits
        go fuel

/-- Takes `n` bits as a number, low bit first. -/
def takeBits (n : Nat) : InflateM Nat := do
  need n
  let s ← get
  set { s with bits := s.bits >>> n, count := s.count - n }
  pure (s.bits % (1 <<< n))

end Inflate

/-- A prefix code as lookup tables: the shortest code length, the 9-bit table, the linked tables
for longer codes and the mask of their index. An entry holds a symbol times 16 plus a code
length; length zero marks bits no code starts with. -/
structure Huffman where
  min : Nat
  chunks : Array Nat
  links : Array (Array Nat)
  linkMask : Nat
  deriving Inhabited

namespace Huffman

/-- Sets every `step`-th entry of a table from `start` on. -/
def fill (table : Array Nat) (start step value : Nat) : Array Nat :=
  let count := if start < table.size then (table.size - start + step - 1) / step else 0
  (List.range count).foldl (fun t k => t.setIfInBounds (start + k * step) value) table

/-- The first code of each length, counting codes of each length in the canonical order. -/
def firstCodes (counts : Array Nat) (lo hi : Nat) : Array Nat × Nat :=
  (List.range (hi + 1 - lo)).foldl (fun (acc : Array Nat × Nat) k =>
    let i := lo + k
    let code := acc.2 * 2
    (acc.1.setIfInBounds i code, code + counts.getD i 0)) (Array.replicate 16 0, 0)

/-- The tables of a code given by its code lengths, or `none` when the lengths do not make a
complete code. A single code of length one is accepted; so is the empty code, whose table
matches nothing. -/
def build (lengths : Array Nat) : Option Huffman :=
  let used := lengths.toList.filter (· != 0)
  let counts := used.foldl (fun c n => c.modify n (· + 1)) (Array.replicate 16 0)
  let lo := used.foldl (fun m n => if m == 0 || n < m then n else m) 0
  let hi := used.foldl max 0
  if hi == 0 then some ⟨0, Array.replicate 512 0, #[], 0⟩
  else
    let (next, code) := firstCodes counts lo hi
    if code != Nat.pow 2 hi && !(code == 1 && hi == 1) then none
    else
      let (chunks, links, linkMask) :=
        if hi > 9 then
          let numLinks := Nat.pow 2 (hi - 9)
          let link := next.getD 10 0 / 2
          let chunks := (List.range (512 - link)).foldl (fun (t : Array Nat) off =>
            t.setIfInBounds (reverseBits 9 (link + off)) (off * 16 + 10)) (Array.replicate 512 0)
          (chunks, Array.replicate (512 - link) (Array.replicate numLinks 0), numLinks - 1)
        else (Array.replicate 512 0, #[], 0)
      let step (acc : Array Nat × Array (Array Nat) × Array Nat) (entry : Nat × Nat) :
          Array Nat × Array (Array Nat) × Array Nat :=
        let (chunks, links, next) := acc
        let (n, i) := entry
        if n == 0 then acc
        else
          let code := next.getD n 0
          let next := next.modify n (· + 1)
          let value := i * 16 + n
          let rev := reverseBits n code
          if n ≤ 9 then (fill chunks rev (Nat.pow 2 n) value, links, next)
          else
            let slot := chunks.getD (rev % 512) 0 / 16
            let links := links.modify slot fun t => fill t (rev / 512) (Nat.pow 2 (n - 9)) value
            (chunks, links, next)
      let (chunks, links, _) := lengths.toList.zipIdx.foldl step (chunks, links, next)
      some ⟨lo, chunks, links, linkMask⟩
where
  /-- The low `n` bits of `v` in reverse order. -/
  reverseBits (n v : Nat) : Nat := Inflate.reverseBits n v

/-- The code of fixed-code blocks: literals 0–143 in 8 bits, 144–255 in 9, 256–279 in 7 and
280–287 in 8. -/
def fixed : Huffman :=
  let lengths := (List.range 288).map fun i =>
    if i < 144 then 8 else if i < 256 then 9 else if i < 280 then 7 else 8
  (build lengths.toArray).getD default

end Huffman

namespace Inflate

/-- Decodes one symbol. -/
def symbol (h : Huffman) : InflateM Nat :=
  go 4 h.min
where
  /-- Looks up with at least `n` bits at hand; at most `fuel` more lookups. -/
  go : Nat → Nat → InflateM Nat
    | 0, _ => do
      throw (.corrupt (← get).pos)
    | fuel + 1, n => do
      need n
      let s ← get
      let entry := h.chunks.getD (s.bits % 512) 0
      let entry := if entry % 16 > 9 then
          (h.links.getD (entry / 16) #[]).getD (s.bits / 512 &&& h.linkMask) 0
        else entry
      let len := entry % 16
      if len ≤ s.count then
        if len == 0 then throw (.corrupt s.pos)
        else
          set { s with bits := s.bits >>> len, count := s.count - len }
          pure (entry / 16)
      else go fuel len

/-- The order in which the code-length code's lengths are given. -/
def codeOrder : List Nat := [16, 17, 18, 0, 8, 7, 9, 6, 10, 5, 11, 4, 12, 3, 13, 2, 14, 1, 15]

/-- Reads `total` code lengths with the code-length code; symbols 16–18 repeat the previous
length or zero. -/
def codeLengths (h : Huffman) (total : Nat) : Nat → Array Nat → InflateM (Array Nat)
  | 0, acc => pure acc
  | fuel + 1, acc => do
    if acc.size ≥ total then pure acc
    else
      let x ← symbol h
      if x < 16 then codeLengths h total fuel (acc.push x)
      else
        let (rep, width, value) ← match x with
          | 16 => do
            if acc.size == 0 then corruptHere
            pure (3, 2, acc.back!)
          | 17 => pure (3, 3, 0)
          | _ => pure (11, 7, 0)
        let extra ← takeBits width
        let rep := rep + extra
        if acc.size + rep > total then corruptHere
        codeLengths h total fuel (acc ++ Array.replicate rep value)

/-- Reads the codes of a dynamic block: the literal/length code and the distance code. -/
def dynamicCodes : InflateM (Huffman × Huffman) := do
  need 14
  let s ← get
  let nlit := s.bits % 32 + 257
  if nlit > 286 then corruptHere
  let ndist := s.bits / 32 % 32 + 1
  if ndist > 30 then corruptHere
  let nclen := s.bits / 1024 % 16 + 4
  set { s with bits := s.bits >>> 14, count := s.count - 14 }
  let mut lens := Array.replicate 19 0
  for i in codeOrder.take nclen do
    let v ← takeBits 3
    lens := lens.setIfInBounds i v
  let some h := Huffman.build lens | throw (.corrupt (← get).pos)
  let all ← codeLengths h (nlit + ndist) (nlit + ndist) #[]
  let some lit := Huffman.build (all.extract 0 nlit) | throw (.corrupt (← get).pos)
  let some dist := Huffman.build (all.extract nlit (nlit + ndist)) | throw (.corrupt (← get).pos)
  let eob := all.getD 256 0
  pure ({ lit with min := if lit.min < eob then eob else lit.min }, dist)

/-- The base length and extra bits of a length symbol (257–285), or `none` for 286 and 287. -/
def lengthBase (v : Nat) : Option (Nat × Nat) :=
  if v < 265 then some (v - 254, 0)
  else if v < 269 then some (v * 2 - 519, 1)
  else if v < 273 then some (v * 4 - 1057, 2)
  else if v < 277 then some (v * 8 - 2149, 3)
  else if v < 281 then some (v * 16 - 4365, 4)
  else if v < 285 then some (v * 32 - 8861, 5)
  else if v < 286 then some (258, 0)
  else none

/-- Appends `length` bytes copied from `dist` bytes back, one at a time (the copy may overlap
what it writes). -/
def copyBack (out : ByteArray) (dist length : Nat) : ByteArray :=
  (List.range length).foldl (fun o _ => o.push (o.get! (o.size - dist))) out

/-- Reads a distance: the fixed 5-bit code when there is no distance code. -/
def distance (dist : Option Huffman) : InflateM Nat := do
  let sym ← match dist with
    | some h => symbol h
    | none => do
      let v ← takeBits 5
      pure (reverseBits 5 v)
  if sym < 4 then pure (sym + 1)
  else if sym < 30 then
    let nb := (sym - 2) / 2
    let extra ← takeBits nb
    pure (Nat.pow 2 (nb + 1) + 1 + ((sym % 2) <<< nb ||| extra))
  else
    throw (.corrupt (← get).pos)

/-- The symbols of a compressed block up to its end-of-block symbol. -/
def codedBlock (lit : Huffman) (dist : Option Huffman) : Nat → InflateM Unit
  | 0 => corruptHere
  | fuel + 1 => do
    let v ← symbol lit
    if v < 256 then
      modify fun s => { s with out := s.out.push v.toUInt8 }
      codedBlock lit dist fuel
    else if v == 256 then pure ()
    else
      match lengthBase v with
      | none => corruptHere
      | some (base, extraBits) =>
        let extra ← takeBits extraBits
        let d ← distance dist
        let s ← get
        if d > min s.out.size 32768 then throw (.corrupt s.pos)
        set { s with out := copyBack s.out d (base + extra) }
        codedBlock lit dist fuel

/-- Takes up to `n` whole bytes; fewer when the input ends. -/
def takeBytes (n : Nat) : InflateM ByteArray := do
  let s ← get
  let avail := min n (s.src.bytes.size - s.pos)
  let got := s.src.bytes.extract s.pos (s.pos + avail)
  set { s with pos := s.pos + avail }
  pure got

/-- A stored block: the rest of the current byte is dropped, then a length, its complement and
that many bytes. -/
def storedBlock : InflateM Unit := do
  modify fun s => { s with bits := 0, count := 0 }
  let head ← takeBytes 4
  if head.size < 4 then throw (← get).src.ending.midway
  let n := (head.get! 0).toNat + (head.get! 1).toNat * 256
  let nn := (head.get! 2).toNat + (head.get! 3).toNat * 256
  if nn != 65535 - n then corruptHere
  let body ← takeBytes n
  modify fun s => { s with out := s.out ++ body }
  if body.size < n then throw (← get).src.ending.midway

/-- Blocks up to and including the final one. -/
def blocks : Nat → InflateM Unit
  | 0 => corruptHere
  | fuel + 1 => do
    let header ← takeBits 3
    let final := header % 2 == 1
    let kind := header / 2
    let s ← get
    let budget := 8 * (s.src.bytes.size - s.pos) + s.count + 1
    match kind with
    | 0 => storedBlock
    | 1 => codedBlock Huffman.fixed none budget
    | 2 => do
      let (lit, dist) ← dynamicCodes
      codedBlock lit (some dist) budget
    | _ => corruptHere
    if !final then blocks fuel

end Inflate

/-- What inflating gave: the output, why it stopped early (nothing when the final block ended),
and the number of input bytes taken. -/
structure Inflated where
  data : ByteArray
  failure : Option StreamError
  consumed : Nat
  deriving Inhabited

/-- Inflates a raw DEFLATE stream starting at an offset. -/
def inflateFrom (src : Source) (start : Nat) : Inflated :=
  let budget := 8 * src.bytes.size + 8
  let (result, s) := (Inflate.blocks budget).run.run { src, pos := start }
  match result with
  | .ok () => ⟨s.out, none, s.pos⟩
  | .error e => ⟨s.out, some e, s.pos⟩

/-- The Adler-32 checksum of bytes. -/
def adler32 (data : ByteArray) : Nat :=
  let (a, b) := data.foldl (fun (acc : Nat × Nat) x =>
    let a := (acc.1 + x.toNat) % 65521
    (a, (acc.2 + a) % 65521)) (1, 0)
  b * 65536 + a

/-- A big-endian number from bytes. -/
def bigEndian (bs : ByteArray) : Nat := bs.foldl (fun acc x => acc * 256 + x.toNat) 0

/-- Unpacks a zlib stream: a two-byte header (deflate, window of at most 32 KiB, check bits, no
preset dictionary), the compressed data and the Adler-32 checksum of the output. A malformed
header fails at once; later failures come with the output made before them. -/
def unzlib (src : Source) : Except StreamError Inflated :=
  let bs := src.bytes
  if bs.size < 2 then .error src.ending.midway
  else
    let cmf := (bs.get! 0).toNat
    let flg := (bs.get! 1).toNat
    if cmf % 16 != 8 || cmf / 16 > 7 || (cmf * 256 + flg) % 31 != 0 then .error .badHeader
    else if flg &&& 0x20 != 0 then
      if bs.size < 6 then .error src.ending.midway
      else if bigEndian (bs.extract 2 6) != 1 then .error .badDictionary
      else .ok (finish (inflateFrom src 6))
    else .ok (finish (inflateFrom src 2))
where
  /-- Checks the trailing checksum after a stream that ended properly. -/
  finish (r : Inflated) : Inflated :=
    match r.failure with
    | some _ => r
    | none =>
      let avail := min 4 (src.bytes.size - r.consumed)
      if avail < 4 then { r with failure := some src.ending.midway, consumed := r.consumed + avail }
      else if bigEndian (src.bytes.extract r.consumed (r.consumed + 4)) != adler32 r.data then
        { r with failure := some .badChecksum, consumed := r.consumed + 4 }
      else { r with consumed := r.consumed + 4 }

end Theming.Picture
