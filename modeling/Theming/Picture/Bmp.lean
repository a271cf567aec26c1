import Theming.Picture.Raster
import Theming.Picture.Reading

/-!
# BMP pictures

A BMP file is a 14-byte file header (`BM`, the file size, and the offset of the pixels), an
information header of 40, 108 or 124 bytes, an optional palette, and rows of pixels. Supported
are one plane, no compression (or bit fields that spell the plain layout), and 8, 24 or 32 bits
a pixel; everything else is "unsupported BMP image". The pixels must follow the headers and the
palette directly.

Rows are stored bottom to top, or top to bottom when the height is negative. Pixels are stored
blue first. Rows of 8-bit and 24-bit pixels are padded to a multiple of four bytes. Only the
larger information headers give 32-bit pixels an alpha channel; with the 40-byte one they are
opaque.

Reading the rows reports `EOF` when a read finds nothing left and `unexpected EOF` when it finds
only part of what it needs; the headers report `unexpected EOF` for both.
-/

set_option autoImplicit false

namespace Theming.Picture.Bmp

/-- The failure for valid files using a feature not supported. -/
def unsupported : String := "bmp: unsupported BMP image"

/-- What the headers say. -/
structure Header where
  width : Nat
  height : Nat
  topDown : Bool
  depth : Nat
  alpha : Bool
  palette : Array Shade
  /-- Where the rows start. -/
  start : Nat
  deriving Inhabited

/-- A run of header bytes; any shortfall is an unexpected end. -/
def headerRun (data : ByteArray) (pos n : Nat) : Except String ByteArray :=
  (readRun data pos n).mapError fun _ => Shortfall.truncated.message

/-- Reads the headers and the palette. -/
def header (data : ByteArray) : Except String Header := do
  let _ ← headerRun data 0 18
  if byteAt data 0 != 0x42 || byteAt data 1 != 0x4D then throw "bmp: invalid format"
  let offset := littleEndian data 10 4
  let infoLen := littleEndian data 14 4
  if infoLen != 40 && infoLen != 108 && infoLen != 124 then throw unsupported
  let _ ← headerRun data 18 (infoLen - 4)
  let width := signed32 (littleEndian data 18 4)
  let height := signed32 (littleEndian data 22 4)
  let (height, topDown) := if height < 0 then (-height, true) else (height, false)
  if width < 0 then throw unsupported
  let planes := littleEndian data 26 2
  let depth := littleEndian data 28 2
  let compression := littleEndian data 30 4
  let plainFields := compression == 3 && infoLen > 40 &&
    littleEndian data 54 4 == 0xFF0000 && littleEndian data 58 4 == 0xFF00 &&
    littleEndian data 62 4 == 0xFF && littleEndian data 66 4 == 0xFF000000
  let compression := if plainFields then 0 else compression
  if planes != 1 || compression != 0 then throw unsupported
  let base := 14 + infoLen
  let sized (depth : Nat) (alpha : Bool) (palette : Array Shade) (start : Nat) : Header :=
    { width := width.toNat, height := height.toNat, topDown, depth, alpha, palette, start }
  match depth with
  | 8 =>
    let used := littleEndian data 46 4
    let used := if used == 0 then 256 else used
    if used > 256 then throw unsupported
    if offset != base + used * 4 then throw unsupported
    let bs ← (readRun data base (used * 4)).mapError Shortfall.message
    let palette := (List.range used).toArray.map fun i =>
      Shade.rgba (byteAt bs (4 * i + 2)) (byteAt bs (4 * i + 1)) (byteAt bs (4 * i)) 255
    pure (sized 8 false palette (base + used * 4))
  | 24 =>
    if offset != base then throw unsupported
    pure (sized 24 false #[] base)
  | 32 =>
    if offset != base then throw unsupported
    pure (sized 32 (infoLen > 40) #[] base)
  | _ => throw unsupported

/-- The pixels of one stored row. -/
def rowPixels (h : Header) (row : ByteArray) : List Shade :=
  (List.range h.width).map fun x =>
    match h.depth with
    | 8 => h.palette.getD (byteAt row x) (Shade.rgba 0 0 0 0)
    | 24 => Shade.rgba (byteAt row (3 * x + 2)) (byteAt row (3 * x + 1)) (byteAt row (3 * x)) 255
    | _ => Shade.nrgba (byteAt row (4 * x + 2)) (byteAt row (4 * x + 1)) (byteAt row (4 * x))
        (if h.alpha then byteAt row (4 * x + 3) else 255)

/-- Reads one stored row at a position; gives its bytes and the position after it. -/
def readRow (data : ByteArray) (h : Header) (pos : Nat) : Except String (ByteArray × Nat) := do
  match h.depth with
  | 8 =>
    let row ← (readRun data pos h.width).mapError Shortfall.message
    let pad := if h.width % 4 == 0 then 0 else 4 - h.width % 4
    let _ ← (readRun data (pos + h.width) pad).mapError Shortfall.message
    pure (row, pos + h.width + pad)
  | 24 =>
    let n := (3 * h.width + 3) / 4 * 4
    let row ← (readRun data pos n).mapError Shortfall.message
    pure (row, pos + n)
  | _ =>
    let row ← (readRun data pos (4 * h.width)).mapError Shortfall.message
    pure (row, pos + 4 * h.width)

/-- Reads `n` stored rows, in stored order. -/
def readRows (data : ByteArray) (h : Header) : Nat → Nat → List (List Shade) →
    Except String (List (List Shade))
  | 0, _, acc => .ok acc.reverse
  | n + 1, pos, acc => do
    let (row, pos) ← readRow data h pos
    readRows data h n pos (rowPixels h row :: acc)

/-- The storage layout of a depth. -/
def layoutOf (depth : Nat) : Layout :=
  match depth with
  | 8 => .paletted
  | 24 => .rgba
  | _ => .nrgba

/-- Decodes a BMP file. -/
def decode (data : ByteArray) : Except String Raster := do
  let h ← header data
  let layout := layoutOf h.depth
  if h.width == 0 || h.height == 0 then
    pure { width := h.width, height := h.height, layout, pixels := #[] }
  else
    let rows ← readRows data h h.height h.start []
    let rows := if h.topDown then rows else rows.reverse
    pure { width := h.width, height := h.height, layout, pixels := rows.flatten.toArray }

/-- The size a BMP file's headers give. -/
def dimensions (data : ByteArray) : Except String (Nat × Nat) := do
  let h ← header data
  pure (h.width, h.height)

end Theming.Picture.Bmp
