import Theming.Picture.Raster

/-!
# Writing GIF pictures

A canvas is written as a GIF89a file holding one image with the 256 colors of the Plan 9
palette as its global color table: the logical screen (the canvas size, a table of `2^8`
entries, background 0), the image descriptor at the origin using the global table, the LZW
minimum code size 8, the coded indices in sub-blocks of at most 255 bytes closed by an empty
one, and the trailer. No color of the palette is transparent, so there is no graphic control
extension.

## Palette

The Plan 9 palette splits each of 16 gray levels `4 r + v` into 16 colors, one per green and
blue pair: the color is `(r, g, b)` scaled so that its largest component `d` becomes
`17 (4 d + v)`, and plain gray `17 v` when all three are zero. Within the group of `(r, v)` the
color of `(g, b)` sits at `(v - r + 4 g + b) mod 16`, so each group is a rotation of the 16
pairs.

## Dithering

Pixels are matched to palette colors with Floyd–Steinberg error diffusion in 16-bit
premultiplied RGBA. The wanted color of a pixel is its own color plus a sixteenth of the error
carried to it (rounded toward zero, each channel then kept between 0 and 65535); the palette
color nearest to it (least sum of squared channel differences, each difference squared and
divided by four; the first such color on ties) is taken, and the difference is carried on:
7/16 to the right, 3/16 below left, 5/16 below and 1/16 below right. Each row starts with the
error carried to it by the row above.

## Coding

The index stream is LZW-coded with 8-bit literals, least significant bit first, codes growing
from 9 to 12 bits. The stream starts with a clear code. A string already known is extended by
the next index; otherwise its code is written and a new code is defined for it extended. When
the codes run out (at 4095) a clear code is written and the table starts over. The stream ends
with the code of the pending string and the end code, the last partial byte padded with zeros.
Known strings are kept in an open-addressing table of 16384 slots keyed by the string's code
and the next index, so the codes written depend only on which strings are known.
-/

set_option autoImplicit false

namespace Theming.Picture.GifWrite

/-- A number as two little-endian bytes. -/
def word (n : Nat) : List UInt8 := [(n % 256).toUInt8, (n / 256 % 256).toUInt8]

/-! ## Palette -/

/-- The color of green and blue `g`, `b` in the group of red `r` and gray step `v`. -/
def plan9Color (r v g b : Nat) : Nat × Nat × Nat :=
  let d := max r (max g b)
  if d == 0 then (17 * v, 17 * v, 17 * v)
  else
    let scale := 17 * (4 * d + v)
    (r * scale / d, g * scale / d, b * scale / d)

/-- Where the color of `(r, v, g, b)` sits in the palette. -/
def plan9Slot (r v g b : Nat) : Nat :=
  16 * (4 * r + v) + (v + 16 - r + 4 * g + b) % 16

/-- The Plan 9 palette, 256 colors. -/
def plan9 : Array (Nat × Nat × Nat) := Id.run do
  let mut table := Array.replicate 256 (0, 0, 0)
  for r in List.range 4 do
    for v in List.range 4 do
      for g in List.range 4 do
        for b in List.range 4 do
          table := table.set! (plan9Slot r v g b) (plan9Color r v g b)
  return table

/-- The palette as a color table, red, green and blue for each color. -/
def colorTable : List UInt8 :=
  plan9.toList.flatMap fun (r, g, b) => [r.toUInt8, g.toUInt8, b.toUInt8]

/-- A color in 16-bit channels. -/
structure Wide where
  r : Int
  g : Int
  b : Int
  a : Int

/-- The palette in 16-bit channels, each color with its index. -/
def widePalette : List (Nat × Wide) :=
  (plan9.toList.zip (List.range 256)).map fun ((r, g, b), i) =>
    (i, ⟨(r * 257 : Nat), (g * 257 : Nat), (b * 257 : Nat), 65535⟩)

/-! ## Dithering -/

/-- A pixel in 16-bit premultiplied channels. -/
def wide (p : Rgba8) : Wide :=
  ⟨(p.r * 257 * p.a / 255 : Nat), (p.g * 257 * p.a / 255 : Nat), (p.b * 257 * p.a / 255 : Nat),
    (p.a * 257 : Nat)⟩

/-- A channel kept between 0 and 65535. -/
def clampWide (v : Int) : Int := if v < 0 then 0 else if v > 65535 then 65535 else v

/-- The squared difference of two channels, divided by four. -/
def squaredGap (x y : Int) : Nat :=
  let d := (x - y).natAbs
  d * d / 4

/-- The distance of a wanted color to a palette color. -/
def distance (want color : Wide) : Nat :=
  squaredGap want.r color.r + squaredGap want.g color.g + squaredGap want.b color.b +
    squaredGap want.a color.a

/-- The first of the colors nearest to a wanted color, or the best so far if none is nearer. -/
def nearestIn (want : Wide) : List (Nat × Wide) → Nat × Wide → Nat → Nat × Wide
  | [], best, _ => best
  | (i, c) :: rest, best, bestSum =>
    let sum := distance want c
    if sum < bestSum then nearestIn want rest (i, c) sum else nearestIn want rest best bestSum

/-- The first palette color nearest to a wanted color, with its index. -/
def nearest (want : Wide) : Nat × Wide :=
  nearestIn want widePalette (0, ⟨0, 0, 0, 65535⟩) (Nat.pow 2 32 - 1)

/-- The errors carried to the current and the next row, four channels for each column from
one left of the canvas to one right of it. -/
structure Spread where
  current : Array Int
  next : Array Int

/-- No error carried, for a canvas width. -/
def Spread.clear (width : Nat) : Spread :=
  ⟨Array.replicate ((width + 2) * 4) 0, Array.replicate ((width + 2) * 4) 0⟩

/-- Adds an error to a slot. -/
def carry (errors : Array Int) (slot : Nat) (e : Int) : Array Int :=
  errors.modify slot (· + e)

/-- Carries the error of channel `k` of the pixel in column `x` on: 7/16 to the right, 3/16,
5/16 and 1/16 to the row below. -/
def spreadChannel (s : Spread) (x k : Nat) (e : Int) : Spread :=
  match s with
  | ⟨current, next⟩ =>
    ⟨carry current ((x + 2) * 4 + k) (7 * e),
      carry (carry (carry next (x * 4 + k) (3 * e)) ((x + 1) * 4 + k) (5 * e)) ((x + 2) * 4 + k) e⟩

/-- The error carried to channel `k` of the pixel in column `x`, a sixteenth of it rounded toward
zero. -/
def carried (s : Spread) (x k : Nat) : Int := (s.current.getD ((x + 1) * 4 + k) 0).tdiv 16

/-- Matches the pixel in column `x` and carries its error on; gives its palette index. -/
def matchPixel (s : Spread) (x : Nat) (p : Rgba8) : Spread × Nat :=
  let source := wide p
  let want : Wide :=
    ⟨clampWide (source.r + carried s x 0), clampWide (source.g + carried s x 1),
      clampWide (source.b + carried s x 2), clampWide (source.a + carried s x 3)⟩
  let (index, color) := nearest want
  let s := spreadChannel s x 0 (want.r - color.r)
  let s := spreadChannel s x 1 (want.g - color.g)
  let s := spreadChannel s x 2 (want.b - color.b)
  let s := spreadChannel s x 3 (want.a - color.a)
  (s, index)

/-- Matches one row of pixels, then moves on to the next row. -/
def matchRow (c : Canvas) (y : Nat) (s : Spread) (out : Array Nat) : Spread × Array Nat :=
  let (s, out) := (List.range c.width).foldl (fun (s, out) x =>
    let (s, i) := matchPixel s x (c.pixelAt x y)
    (s, out.push i)) (s, out)
  match s with
  | ⟨_, next⟩ => (⟨next, Array.replicate ((c.width + 2) * 4) 0⟩, out)

/-- The palette indices of a canvas, row by row. -/
def dither (c : Canvas) : Array Nat :=
  ((List.range c.height).foldl (fun (s, out) y => matchRow c y s out)
    (Spread.clear c.width, #[])).2

/-! ## Coding -/

/-- The slots of the table of known strings. -/
def tableSize : Nat := 16384

/-- The last code; reaching it starts the table over. -/
def lastCode : Nat := 4095

/-- The state of the LZW coder: the bytes written, the bits not yet making a byte, the code
width, the last code defined and the code at which the width grows. -/
structure Coder where
  bytes : ByteArray
  bits : Nat
  pending : Nat
  width : Nat
  hi : Nat
  overflow : Nat

/-- The literal width of GIF pictures with 256 colors. -/
def literalWidth : Nat := 8

/-- The clear code. -/
def clearCode : Nat := Nat.pow 2 literalWidth

/-- A fresh coder. -/
def Coder.start : Coder :=
  ⟨.empty, 0, 0, literalWidth + 1, clearCode + 1, Nat.pow 2 (literalWidth + 1)⟩

/-- Writes a code at the current width, least significant bit first. -/
def Coder.emit (w : Coder) (code : Nat) : Coder :=
  match w with
  | ⟨bytes, bits, pending, width, hi, overflow⟩ =>
    let bits := bits ||| (code <<< pending)
    let pending := pending + width
    let n := pending / 8
    let bytes := (List.range n).foldl (fun acc i => acc.push ((bits >>> (8 * i)) % 256).toUInt8) bytes
    ⟨bytes, bits >>> (8 * n), pending % 8, width, hi, overflow⟩

/-- Counts one more code; at the last code a clear code is written and the codes start over,
which is told by the flag. -/
def Coder.advance (w : Coder) : Coder × Bool :=
  match w with
  | ⟨bytes, bits, pending, width, hi, overflow⟩ =>
    let hi := hi + 1
    let w : Coder := if hi == overflow then ⟨bytes, bits, pending, width + 1, hi, overflow * 2⟩
      else ⟨bytes, bits, pending, width, hi, overflow⟩
    if hi == lastCode then
      match w.emit clearCode with
      | ⟨bytes, bits, pending, _, _, _⟩ =>
        (⟨bytes, bits, pending, literalWidth + 1, clearCode + 1, Nat.pow 2 (literalWidth + 1)⟩, true)
    else (w, false)

/-- The table of known strings: 0 for an empty slot, otherwise the key shifted up 12 bits
above its code. -/
def emptyTable : Array Nat := Array.replicate tableSize 0

/-- The first slot probed for a key. -/
def slotOf (key : Nat) : Nat := ((key >>> 12) ^^^ key) % tableSize

/-- The code of a known string, probing slots from `slot` until an empty one. -/
def find (table : Array Nat) (key : Nat) : Nat → Nat → Option Nat
  | 0, _ => none
  | fuel + 1, slot =>
    let t := table.getD slot 0
    if t == 0 then none
    else if t >>> 12 == key then some (t % 4096)
    else find table key fuel ((slot + 1) % tableSize)

/-- Stores an entry in the first empty slot from `slot` on. -/
def store (table : Array Nat) (entry : Nat) : Nat → Nat → Array Nat
  | 0, _ => table
  | fuel + 1, slot =>
    if table.getD slot 0 == 0 then table.set! slot entry
    else store table entry fuel ((slot + 1) % tableSize)

/-- Extends the pending string (its code last in the state) by an index: to a known string, or
the pending code is written and the extended string gets the next code. -/
def step (state : Coder × Array Nat × Nat) (x : Nat) : Coder × Array Nat × Nat :=
  match state with
  | (w, table, code) =>
    let key := (code <<< 8) ||| x
    match find table key tableSize (slotOf key) with
    | some known => (w, table, known)
    | none =>
      let (w, restarted) := (w.emit code).advance
      if restarted then (w, emptyTable, x)
      else (w, store table ((key <<< 12) ||| w.hi) tableSize (slotOf key), x)

/-- The LZW code of an index stream. -/
def compress (data : List Nat) : ByteArray :=
  let w := match data with
    | [] => Coder.start.emit clearCode
    | first :: rest =>
      let (w, _, code) := rest.foldl step (Coder.start.emit clearCode, emptyTable, first)
      ((w.emit code).advance).1
  let w := w.emit (clearCode + 1)
  if w.pending > 0 then w.bytes.push (w.bits % 256).toUInt8 else w.bytes

/-- Bytes cut into sub-blocks of at most 255 bytes, each led by its length, and the empty
sub-block. -/
def subBlocks (data : ByteArray) : List UInt8 :=
  let full := data.size / 255
  let blocks := (List.range full).flatMap fun i =>
    255 :: (data.extract (i * 255) (i * 255 + 255)).toList
  let rest := data.size - full * 255
  let last := if rest == 0 then [] else rest.toUInt8 :: (data.extract (full * 255) data.size).toList
  blocks ++ last ++ [0]

/-- A canvas as a GIF file. -/
def write (c : Canvas) : ByteArray :=
  let screen := "GIF89a".toUTF8.toList ++ word c.width ++ word c.height ++ [0x87, 0, 0] ++ colorTable
  let image := [0x2C] ++ word 0 ++ word 0 ++ word c.width ++ word c.height ++ [0, literalWidth.toUInt8]
  ⟨(screen ++ image ++ subBlocks (compress (dither c).toList) ++ [0x3B]).toArray⟩

end Theming.Picture.GifWrite
