import Theming.Picture.Deflate
import Theming.Picture.Raster

/-!
# Writing TIFF pictures

A canvas is written as a little-endian TIFF file with one strip: the header (`II`, 42 and the
offset of the image file directory), the pixels as 8-bit red, green, blue and unassociated
alpha compressed with zlib (compression 8, no predictor), then the directory.

The directory lists thirteen entries in tag order: width, height, bits per sample (8 four
times), compression, RGB photometric interpretation, the strip offset 8, four samples per
pixel, the rows per strip (all of them), the strip byte count, 72 dpi resolutions in both
directions and their unit, and the extra sample kind. Values of more than four bytes (the bits
per sample and the two resolutions) go after the directory's closing zero; each entry's value
field is written over the previous entry's, so a short value keeps the upper bytes of the value
before it.
-/

set_option autoImplicit false

namespace Theming.Picture.TiffWrite

/-- A number as little-endian bytes, cut to the width. -/
def littleEndianBytes (value width : Nat) : List UInt8 :=
  (List.range width).map fun i => (value / Nat.pow 256 i % 256).toUInt8

/-- The kinds of directory values used: 16-bit, 32-bit and fractions of two 32-bit numbers. -/
inductive ValueKind where
  | short
  | long
  | rational

/-- The number a value kind has in a directory entry. -/
def ValueKind.code : ValueKind → Nat
  | .short => 3
  | .long => 4
  | .rational => 5

/-- The bytes one value of a kind takes. -/
def ValueKind.width : ValueKind → Nat
  | .short => 2
  | .long => 4
  | .rational => 8

/-- A directory entry: tag, value kind and values (a fraction given as two numbers). -/
structure Entry where
  tag : Nat
  kind : ValueKind
  values : List Nat

/-- The count written for an entry: the number of values, fractions counting once. -/
def Entry.count (e : Entry) : Nat :=
  match e.kind with
  | .rational => e.values.length / 2
  | _ => e.values.length

/-- The bytes of an entry's values. -/
def Entry.data (e : Entry) : List UInt8 :=
  e.values.flatMap fun v =>
    match e.kind with
    | .short => littleEndianBytes v 2
    | _ => littleEndianBytes v 4

/-- The directory of a picture with compressed data of a length. -/
def entries (width height dataLength : Nat) : List Entry :=
  [⟨256, .short, [width]⟩, ⟨257, .short, [height]⟩, ⟨258, .short, [8, 8, 8, 8]⟩,
    ⟨259, .short, [8]⟩, ⟨262, .short, [2]⟩, ⟨273, .long, [8]⟩, ⟨277, .short, [4]⟩,
    ⟨278, .short, [height]⟩, ⟨279, .long, [dataLength]⟩, ⟨282, .rational, [72, 1]⟩,
    ⟨283, .rational, [72, 1]⟩, ⟨296, .short, [2]⟩, ⟨338, .short, [2]⟩]

/-- The directory at an offset: the entry count, the entries, the closing zero and the values
that did not fit in their entries. -/
def directory (offset : Nat) (list : List Entry) : List UInt8 :=
  let spill := offset + 12 * list.length + 6
  let (rows, _, extra) := list.foldl (fun (rows, field, extra) e =>
    let data := e.data
    let (field, extra) :=
      if data.length ≤ 4 then (data ++ field.drop data.length, extra)
      else (littleEndianBytes (spill + extra.length) 4, extra ++ data)
    (rows ++ littleEndianBytes e.tag 2 ++ littleEndianBytes e.kind.code 2 ++
      littleEndianBytes e.count 4 ++ field, field, extra)) ([], [0, 0, 0, 0], [])
  littleEndianBytes list.length 2 ++ rows ++ littleEndianBytes 0 4 ++ extra

/-- The pixels of a canvas, red, green, blue and alpha, row by row. -/
def pixelBytes (c : Canvas) : ByteArray :=
  c.pixels.foldl (fun acc p =>
    acc.push p.r.toUInt8 |>.push p.g.toUInt8 |>.push p.b.toUInt8 |>.push p.a.toUInt8) .empty

/-- A canvas as a TIFF file. -/
def write (c : Canvas) : ByteArray :=
  let data := Deflate.zlib (pixelBytes c)
  let head := [0x49, 0x49, 0x2A, 0x00] ++ littleEndianBytes (data.size + 8) 4
  ⟨head.toArray⟩ ++ data ++
    ⟨(directory (data.size + 8) (entries c.width c.height data.size)).toArray⟩

end Theming.Picture.TiffWrite
