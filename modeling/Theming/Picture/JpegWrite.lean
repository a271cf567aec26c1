import Theming.Picture.Raster

/-!
# Writing JPEG pictures

A canvas is written as a baseline JPEG file: the start-of-image marker, the two quantization
tables, the frame header, the four standard Huffman tables, one scan and the end-of-image
marker. There is no application segment.

Colors are premultiplied by alpha and turned into Y, Cb and Cr with the JFIF weights in 16-bit
fixed point. Chroma is subsampled 4:2:0: the picture is cut into 16×16 units, each giving four
luma blocks and one block of each chroma channel, whose samples are the rounded averages of 2×2
samples. Units and blocks reaching past the picture repeat its last row and column.

Each 8×8 block goes through the integer forward DCT (the two-pass slow-but-accurate form in
13-bit fixed point), is quantized with rounding to the nearest integer and coded: the
difference of its DC value to the previous block of the channel, then the AC values in zig-zag
order as runs of zeros and sizes, with a marker for sixteen zeros and one for the end of the
block. Bytes `0xFF` in the coded data are followed by `0x00`, and the last byte is filled with
one bits.

The quantization tables are the example tables of the standard, scaled for a quality from 1 to
100: by `5000 / quality` percent below 50 and by `200 - 2 * quality` percent from 50 on, each
entry then kept between 1 and 255.
-/

set_option autoImplicit false

namespace Theming.Picture.JpegWrite

/-- The position in a block, in natural order, of each zig-zag index. -/
def zigzag : Array Nat :=
  #[0, 1, 8, 16, 9, 2, 3, 10, 17, 24, 32, 25, 18, 11, 4, 5,
    12, 19, 26, 33, 40, 48, 41, 34, 27, 20, 13, 6, 7, 14, 21, 28,
    35, 42, 49, 56, 57, 50, 43, 36, 29, 22, 15, 23, 30, 37, 44, 51,
    58, 59, 52, 45, 38, 31, 39, 46, 53, 60, 61, 54, 47, 55, 62, 63]

/-- The example luminance quantization table, in zig-zag order. -/
def lumaTable : List Nat :=
  [16, 11, 12, 14, 12, 10, 16, 14, 13, 14, 18, 17, 16, 19, 24, 40,
   26, 24, 22, 22, 24, 49, 35, 37, 29, 40, 58, 51, 61, 60, 57, 51,
   56, 55, 64, 72, 92, 78, 64, 68, 87, 69, 55, 56, 80, 109, 81, 87,
   95, 98, 103, 104, 103, 62, 77, 113, 121, 112, 100, 120, 92, 101, 103, 99]

/-- The example chrominance quantization table, in zig-zag order. -/
def chromaTable : List Nat :=
  [17, 18, 18, 24, 21, 24, 47, 26, 26, 47, 99, 66, 56, 66, 99, 99] ++ List.replicate 48 99

/-- A quantization table scaled for a quality. -/
def scaledTable (quality : Nat) (table : List Nat) : Array Nat :=
  let q := max 1 (min 100 quality)
  let scale := if q < 50 then 5000 / q else 200 - 2 * q
  (table.map fun x => max 1 (min 255 ((x * scale + 50) / 100))).toArray

/-- A Huffman table: how many codes there are of each length from 1 to 16, and the values in
code order. -/
structure HuffmanSpec where
  counts : List Nat
  values : List Nat

/-- The luminance DC table. -/
def lumaDC : HuffmanSpec :=
  ⟨[0, 1, 5, 1, 1, 1, 1, 1, 1, 0, 0, 0, 0, 0, 0, 0], List.range 12⟩

/-- The luminance AC table. -/
def lumaAC : HuffmanSpec :=
  ⟨[0, 2, 1, 3, 3, 2, 4, 3, 5, 5, 4, 4, 0, 0, 1, 125],
   [0x01, 0x02, 0x03, 0x00, 0x04, 0x11, 0x05, 0x12, 0x21, 0x31, 0x41, 0x06, 0x13, 0x51, 0x61, 0x07,
    0x22, 0x71, 0x14, 0x32, 0x81, 0x91, 0xa1, 0x08, 0x23, 0x42, 0xb1, 0xc1, 0x15, 0x52, 0xd1, 0xf0,
    0x24, 0x33, 0x62, 0x72, 0x82, 0x09, 0x0a, 0x16, 0x17, 0x18, 0x19, 0x1a, 0x25, 0x26, 0x27, 0x28,
    0x29, 0x2a, 0x34, 0x35, 0x36, 0x37, 0x38, 0x39, 0x3a, 0x43, 0x44, 0x45, 0x46, 0x47, 0x48, 0x49,
    0x4a, 0x53, 0x54, 0x55, 0x56, 0x57, 0x58, 0x59, 0x5a, 0x63, 0x64, 0x65, 0x66, 0x67, 0x68, 0x69,
    0x6a, 0x73, 0x74, 0x75, 0x76, 0x77, 0x78, 0x79, 0x7a, 0x83, 0x84, 0x85, 0x86, 0x87, 0x88, 0x89,
    0x8a, 0x92, 0x93, 0x94, 0x95, 0x96, 0x97, 0x98, 0x99, 0x9a, 0xa2, 0xa3, 0xa4, 0xa5, 0xa6, 0xa7,
    0xa8, 0xa9, 0xaa, 0xb2, 0xb3, 0xb4, 0xb5, 0xb6, 0xb7, 0xb8, 0xb9, 0xba, 0xc2, 0xc3, 0xc4, 0xc5,
    0xc6, 0xc7, 0xc8, 0xc9, 0xca, 0xd2, 0xd3, 0xd4, 0xd5, 0xd6, 0xd7, 0xd8, 0xd9, 0xda, 0xe1, 0xe2,
    0xe3, 0xe4, 0xe5, 0xe6, 0xe7, 0xe8, 0xe9, 0xea, 0xf1, 0xf2, 0xf3, 0xf4, 0xf5, 0xf6, 0xf7, 0xf8,
    0xf9, 0xfa]⟩

/-- The chrominance DC table. -/
def chromaDC : HuffmanSpec :=
  ⟨[0, 3, 1, 1, 1, 1, 1, 1, 1, 1, 1, 0, 0, 0, 0, 0], List.range 12⟩

/-- The chrominance AC table. -/
def chromaAC : HuffmanSpec :=
  ⟨[0, 2, 1, 2, 4, 4, 3, 4, 7, 5, 4, 4, 0, 1, 2, 119],
   [0x00, 0x01, 0x02, 0x03, 0x11, 0x04, 0x05, 0x21, 0x31, 0x06, 0x12, 0x41, 0x51, 0x07, 0x61, 0x71,
    0x13, 0x22, 0x32, 0x81, 0x08, 0x14, 0x42, 0x91, 0xa1, 0xb1, 0xc1, 0x09, 0x23, 0x33, 0x52, 0xf0,
    0x15, 0x62, 0x72, 0xd1, 0x0a, 0x16, 0x24, 0x34, 0xe1, 0x25, 0xf1, 0x17, 0x18, 0x19, 0x1a, 0x26,
    0x27, 0x28, 0x29, 0x2a, 0x35, 0x36, 0x37, 0x38, 0x39, 0x3a, 0x43, 0x44, 0x45, 0x46, 0x47, 0x48,
    0x49, 0x4a, 0x53, 0x54, 0x55, 0x56, 0x57, 0x58, 0x59, 0x5a, 0x63, 0x64, 0x65, 0x66, 0x67, 0x68,
    0x69, 0x6a, 0x73, 0x74, 0x75, 0x76, 0x77, 0x78, 0x79, 0x7a, 0x82, 0x83, 0x84, 0x85, 0x86, 0x87,
    0x88, 0x89, 0x8a, 0x92, 0x93, 0x94, 0x95, 0x96, 0x97, 0x98, 0x99, 0x9a, 0xa2, 0xa3, 0xa4, 0xa5,
    0xa6, 0xa7, 0xa8, 0xa9, 0xaa, 0xb2, 0xb3, 0xb4, 0xb5, 0xb6, 0xb7, 0xb8, 0xb9, 0xba, 0xc2, 0xc3,
    0xc4, 0xc5, 0xc6, 0xc7, 0xc8, 0xc9, 0xca, 0xd2, 0xd3, 0xd4, 0xd5, 0xd6, 0xd7, 0xd8, 0xd9, 0xda,
    0xe2, 0xe3, 0xe4, 0xe5, 0xe6, 0xe7, 0xe8, 0xe9, 0xea, 0xf2, 0xf3, 0xf4, 0xf5, 0xf6, 0xf7, 0xf8,
    0xf9, 0xfa]⟩

/-- The code of each value of a Huffman table, as its length and bits; codes are given in order
of length, consecutive within a length, doubling from one length to the next. -/
def HuffmanSpec.codes (s : HuffmanSpec) : Array (Nat × Nat) :=
  let lengths := (s.counts.zipIdx.flatMap fun (count, i) => List.replicate count (i + 1))
  let (table, _, _) := (s.values.zip lengths).foldl
    (fun (acc : Array (Nat × Nat) × Nat × Nat) (value, length) =>
      let (table, code, last) := acc
      let code := code * Nat.pow 2 (length - last)
      (table.set! value (length, code), code + 1, length))
    (Array.replicate 256 (0, 0), 0, 1)
  table

/-- Coded bits on their way to bytes: the finished bytes and fewer than eight pending bits. -/
structure BitSink where
  bytes : ByteArray := ByteArray.empty
  pending : Nat := 0
  width : Nat := 0

/-- Moves whole bytes from the pending bits to the output, stuffing `0x00` after `0xFF`. -/
def BitSink.settle (s : BitSink) : BitSink :=
  let rec go (fuel : Nat) (s : BitSink) : BitSink :=
    match fuel with
    | 0 => s
    | fuel + 1 =>
      if s.width < 8 then s
      else
        let rest := s.width - 8
        let byte := s.pending >>> rest
        let bytes := s.bytes.push byte.toUInt8
        let bytes := if byte == 0xFF then bytes.push 0 else bytes
        go fuel { bytes, pending := s.pending % (1 <<< rest), width := rest }
  go (s.width / 8) s

/-- Adds the low `count` bits of a value. -/
def BitSink.emit (s : BitSink) (bits count : Nat) : BitSink :=
  BitSink.settle { s with pending := (s.pending <<< count) + bits % (1 <<< count), width := s.width + count }

/-- Adds the code of a value. -/
def BitSink.emitCode (s : BitSink) (codes : Array (Nat × Nat)) (value : Nat) : BitSink :=
  let (length, code) := codes.getD value (0, 0)
  s.emit code length

/-- The number of bits of a natural number. -/
def bitLength (n : Nat) : Nat := if n = 0 then 0 else Nat.log2 n + 1

/-- Adds a value after a run of zeros: the code of run and size, then the value's bits (one
less than the value for a negative one). -/
def BitSink.emitValue (s : BitSink) (codes : Array (Nat × Nat)) (run : Nat) (value : Int) : BitSink :=
  let size := bitLength value.natAbs
  let s := s.emitCode codes (run * 16 + size)
  if size = 0 then s
  else s.emit ((if value < 0 then value - 1 else value) % ((1 <<< size : Nat) : Int)).toNat size

/-- Floor division by a power of two. -/
def shiftDown (x : Int) (k : Nat) : Int := Int.fdiv x ((1 <<< k : Nat) : Int)

/-- One line of the forward DCT: the first pass on rows scales up by four and removes the level
shift, the second on columns takes the four out again and leaves all values scaled by eight. -/
def dctLine (x : Array Int) (first : Bool) : Array Int :=
  let g (i : Nat) : Int := x.getD i 0
  let s0 := g 0 + g 7
  let s1 := g 1 + g 6
  let s2 := g 2 + g 5
  let s3 := g 3 + g 4
  let e10 := s0 + s3 + (if first then 0 else 2)
  let e12 := s0 - s3
  let e11 := s1 + s2
  let e13 := s1 - s2
  let d0 := g 0 - g 7
  let d1 := g 1 - g 6
  let d2 := g 2 - g 5
  let d3 := g 3 - g 4
  let shift := if first then 11 else 15
  let round : Int := ((1 <<< (shift - 1) : Nat) : Int)
  let out0 := if first then (e10 + e11 - 1024) * 4 else shiftDown (e10 + e11) 2
  let out4 := if first then (e10 - e11) * 4 else shiftDown (e10 - e11) 2
  let z1 := (e12 + e13) * 4433 + round
  let out2 := shiftDown (z1 + e12 * 6270) shift
  let out6 := shiftDown (z1 - e13 * 15137) shift
  let o10 := d0 + d3
  let o11 := d1 + d2
  let o12 := d0 + d2
  let o13 := d1 + d3
  let z := (o12 + o13) * 9633 + round
  let t10 := o10 * -7373
  let t11 := o11 * -20995
  let t12 := o12 * -3196 + z
  let t13 := o13 * -16069 + z
  #[out0, shiftDown (d0 * 12299 + t10 + t12) shift, out2, shiftDown (d1 * 25172 + t11 + t13) shift,
    out4, shiftDown (d2 * 16819 + t11 + t12) shift, out6, shiftDown (d3 * 2446 + t10 + t13) shift]

/-- The forward DCT of a block in natural order: rows, then columns. -/
def fdct (block : Array Int) : Array Int :=
  let rows := (List.range 8).foldl (fun b y =>
    let line := dctLine ((List.range 8).map fun i => b.getD (8 * y + i) 0).toArray true
    (List.range 8).foldl (fun b i => b.set! (8 * y + i) (line.getD i 0)) b) block
  (List.range 8).foldl (fun b x =>
    let line := dctLine ((List.range 8).map fun i => b.getD (8 * i + x) 0).toArray false
    (List.range 8).foldl (fun b i => b.set! (8 * i + x) (line.getD i 0)) b) rows

/-- A quotient rounded to the nearest integer, halves away from zero. -/
def divRound (a : Int) (b : Nat) : Int :=
  if a ≥ 0 then ((a.toNat + b / 2) / b : Nat) else -(((-a).toNat + b / 2) / b : Nat)

/-- The codes of one channel: DC and AC tables and the quantization table. -/
structure Channel where
  dc : Array (Nat × Nat)
  ac : Array (Nat × Nat)
  quant : Array Nat

/-- Codes one block after the previous DC value of its channel; gives the block's DC value. -/
def codeBlock (s : BitSink) (c : Channel) (block : Array Int) (previous : Int) : BitSink × Int :=
  let f := fdct block
  let dc := divRound (f.getD 0 0) (8 * c.quant.getD 0 1)
  let s := s.emitValue c.dc 0 (dc - previous)
  let (s, run) := (List.range 63).foldl (fun (acc : BitSink × Nat) k =>
    let (s, run) := acc
    let zig := k + 1
    let ac := divRound (f.getD (zigzag.getD zig 0) 0) (8 * c.quant.getD zig 1)
    if ac == 0 then (s, run + 1)
    else
      let s := (List.range (run / 16)).foldl (fun s _ => s.emitCode c.ac 0xF0) s
      (s.emitValue c.ac (run % 16) ac, 0)) (s, 0)
  ((if run > 0 then s.emitCode c.ac 0 else s), dc)

/-- Y, Cb and Cr of a color given as premultiplied 8-bit channels. -/
def toYCbCr (r g b : Nat) : Int × Int × Int :=
  let r : Int := r
  let g : Int := g
  let b : Int := b
  let clamp (v : Int) : Int := max 0 (min 255 (shiftDown v 16))
  ((19595 * r + 38470 * g + 7471 * b + 32768) / 65536,
   clamp (-11056 * r - 21712 * g + 32768 * b + 257 * 32768),
   clamp (32768 * r - 27440 * g - 5328 * b + 257 * 32768))

/-- An 8-bit channel premultiplied by an 8-bit alpha: widened to 16 bits, scaled by the alpha
and cut back to 8 bits. -/
def premultiply (c a : Nat) : Nat := c * 257 * a / 255 / 256

/-- The Y, Cb and Cr blocks of the 8×8 region at a corner, repeating the last row and column. -/
def regionBlocks (c : Canvas) (px py : Nat) : Array Int × Array Int × Array Int :=
  let cells := (List.range 64).map fun k =>
    let p := c.pixelAt (min (px + k % 8) (c.width - 1)) (min (py + k / 8) (c.height - 1))
    toYCbCr (premultiply p.r p.a) (premultiply p.g p.a) (premultiply p.b p.a)
  ((cells.map (·.1)).toArray, (cells.map (·.2.1)).toArray, (cells.map (·.2.2)).toArray)

/-- The 8×8 block of averages of a 16×16 region held in four blocks. -/
def halve (quarters : Array (Array Int)) : Array Int :=
  (List.range 4).foldl (fun dst i =>
    let src := quarters.getD i #[]
    let offset := (i / 2) * 32 + (i % 2) * 4
    (List.range 16).foldl (fun dst k =>
      let y := k / 4
      let x := k % 4
      let j := 16 * y + 2 * x
      let sum := src.getD j 0 + src.getD (j + 1) 0 + src.getD (j + 8) 0 + src.getD (j + 9) 0
      dst.set! (8 * y + x + offset) (shiftDown (sum + 2) 2)) dst) (Array.replicate 64 0)

/-- The coded scan of a canvas. -/
def scan (c : Canvas) (luma chroma : Channel) : BitSink :=
  let units := (List.range ((c.height + 15) / 16)).flatMap fun uy =>
    (List.range ((c.width + 15) / 16)).map fun ux => (16 * ux, 16 * uy)
  let (s, _, _, _) := units.foldl (fun (acc : BitSink × Int × Int × Int) (x, y) =>
    let (s, dy, dcb, dcr) := acc
    let (s, dy, cbs, crs) := (List.range 4).foldl
      (fun (acc : BitSink × Int × Array (Array Int) × Array (Array Int)) i =>
        let (s, dy, cbs, crs) := acc
        let (yb, cb, cr) := regionBlocks c (x + (i % 2) * 8) (y + (i / 2) * 8)
        let (s, dy) := codeBlock s luma yb dy
        (s, dy, cbs.push cb, crs.push cr)) (s, dy, #[], #[])
    let (s, dcb) := codeBlock s chroma (halve cbs) dcb
    let (s, dcr) := codeBlock s chroma (halve crs) dcr
    (s, dy, dcb, dcr)) ({}, 0, 0, 0)
  s.emit 0x7F 7

/-- A marker with its segment length. -/
def segment (code : UInt8) (body : List Nat) : List UInt8 :=
  [0xFF, code, ((body.length + 2) / 256).toUInt8, ((body.length + 2) % 256).toUInt8] ++
    body.map (·.toUInt8)

/-- A canvas as a JPEG file of a quality. -/
def write (c : Canvas) (quality : Nat) : ByteArray :=
  let lq := scaledTable quality lumaTable
  let cq := scaledTable quality chromaTable
  let dqt := segment 0xDB ([0] ++ lq.toList ++ [1] ++ cq.toList)
  let sof := segment 0xC0 [8, c.height / 256, c.height % 256, c.width / 256, c.width % 256, 3,
    1, 0x22, 0, 2, 0x11, 1, 3, 0x11, 1]
  let specs := [(0x00, lumaDC), (0x10, lumaAC), (0x01, chromaDC), (0x11, chromaAC)]
  let dht := segment 0xC4 (specs.flatMap fun (id, s) => [id] ++ s.counts ++ s.values)
  let sos := segment 0xDA [3, 1, 0x00, 2, 0x11, 3, 0x11, 0, 0x3F, 0]
  let luma : Channel := ⟨lumaDC.codes, lumaAC.codes, lq⟩
  let chroma : Channel := ⟨chromaDC.codes, chromaAC.codes, cq⟩
  let head : List UInt8 := [0xFF, 0xD8] ++ dqt ++ sof ++ dht ++ sos
  ⟨head.toArray⟩ ++ (scan c luma chroma).bytes ++ ⟨#[0xFF, 0xD9]⟩

end Theming.Picture.JpegWrite
