import Theming.Picture.Raster

/-!
# Writing BMP pictures

A canvas is written as an uncompressed bitmap with the 40-byte information header: the file
header (`BM`, file size, pixel offset 54), then width, height, one plane, the bits per pixel,
no compression, the size of the pixel data and zeros for resolution and palette counts.

A canvas whose pixels are all opaque is written with 24 bits per pixel, each row blue, green,
red and padded with zeros to a multiple of four bytes; a canvas with any alpha below 255 keeps
its alpha, 32 bits per pixel, blue, green, red, alpha. Rows go bottom-up. A canvas with no rows
or no columns has the headers only.
-/

set_option autoImplicit false

namespace Theming.Picture.BmpWrite

/-- A number as little-endian bytes, cut to the width. -/
def littleEndianBytes (value width : Nat) : List UInt8 :=
  (List.range width).map fun i => (value / Nat.pow 256 i % 256).toUInt8

/-- Whether every pixel of a canvas is fully opaque. -/
def isSolid (c : Canvas) : Bool := c.pixels.all (·.a == 255)

/-- The bytes one row takes: three a pixel rounded up to four for a canvas of opaque pixels,
four a pixel otherwise. -/
def rowStep (solid : Bool) (width : Nat) : Nat :=
  if solid then (3 * width + 3) / 4 * 4 else 4 * width

/-- One row of pixels, blue first, padded with zeros to the row step. -/
def rowBytes (c : Canvas) (solid : Bool) (y : Nat) : List UInt8 :=
  let row := (List.range c.width).flatMap fun x =>
    let p := c.pixelAt x y
    if solid then [p.b.toUInt8, p.g.toUInt8, p.r.toUInt8]
    else [p.b.toUInt8, p.g.toUInt8, p.r.toUInt8, p.a.toUInt8]
  row ++ List.replicate (rowStep solid c.width - row.length) 0

/-- The file and information headers. -/
def headers (width height bitsPerPixel imageSize : Nat) : List UInt8 :=
  [66, 77] ++ littleEndianBytes (54 + imageSize) 4 ++ littleEndianBytes 0 4 ++
    littleEndianBytes 54 4 ++ littleEndianBytes 40 4 ++ littleEndianBytes width 4 ++
    littleEndianBytes height 4 ++ littleEndianBytes 1 2 ++ littleEndianBytes bitsPerPixel 2 ++
    littleEndianBytes 0 4 ++ littleEndianBytes imageSize 4 ++ littleEndianBytes 0 16

/-- A canvas as a BMP file. -/
def write (c : Canvas) : ByteArray :=
  let solid := isSolid c
  let step := rowStep solid c.width
  let head := headers c.width c.height (if solid then 24 else 32) (c.height * step)
  let rows := if c.width == 0 || c.height == 0 then []
    else (List.range c.height).reverse.flatMap (rowBytes c solid)
  ⟨(head ++ rows).toArray⟩

end Theming.Picture.BmpWrite
