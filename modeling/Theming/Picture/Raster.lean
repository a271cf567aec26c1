/-!
# Rasters

A decoded picture keeps its pixels the way its decoder stored them: gray levels, colors with
premultiplied alpha, or straight (non-premultiplied) colors, at 8 or 16 bits a channel, or
palette entries. How a pixel becomes an 8-bit straight color depends on that layout, so the
layout is kept with the pixels.

Two conversions to 8-bit straight color exist, and they differ in rounding:

* the *model* conversion goes through 16-bit premultiplied channels and divides back by alpha;
* the *scan* conversion, used before resampling, works on the stored bytes directly where it can.

A `Canvas` is a picture in 8-bit straight color, which is what drawing and resampling produce.
-/

set_option autoImplicit false

namespace Theming.Picture

/-- A color in 8-bit straight (non-premultiplied) channels. -/
structure Rgba8 where
  r : Nat
  g : Nat
  b : Nat
  a : Nat
  deriving Repr, BEq, DecidableEq, Inhabited

/-- Fully transparent black. -/
def Rgba8.clear : Rgba8 := ⟨0, 0, 0, 0⟩

/-- A pixel as a decoder stores it. -/
inductive Shade where
  /-- An 8-bit gray level. -/
  | gray (y : Nat)
  /-- A 16-bit gray level. -/
  | gray16 (y : Nat)
  /-- 8-bit channels with premultiplied alpha. -/
  | rgba (r g b a : Nat)
  /-- 16-bit channels with premultiplied alpha. -/
  | rgba64 (r g b a : Nat)
  /-- 8-bit straight channels. -/
  | nrgba (r g b a : Nat)
  /-- 16-bit straight channels. -/
  | nrgba64 (r g b a : Nat)
  deriving Repr, BEq, Inhabited

namespace Shade

/-- The 16-bit premultiplied channels of a shade. -/
def premultiplied : Shade → Nat × Nat × Nat × Nat
  | gray y => (y * 0x101, y * 0x101, y * 0x101, 0xFFFF)
  | gray16 y => (y, y, y, 0xFFFF)
  | rgba r g b a => (r * 0x101, g * 0x101, b * 0x101, a * 0x101)
  | rgba64 r g b a => (r, g, b, a)
  | nrgba r g b a =>
    (r * 0x101 * a / 0xFF, g * 0x101 * a / 0xFF, b * 0x101 * a / 0xFF, a * 0x101)
  | nrgba64 r g b a => (r * a / 0xFFFF, g * a / 0xFFFF, b * a / 0xFFFF, a)

/-- 8-bit straight channels from 16-bit premultiplied ones: opaque colors keep their high
bytes, transparent ones become clear, others are divided by alpha first. -/
def straighten (p : Nat × Nat × Nat × Nat) : Rgba8 :=
  let (r, g, b, a) := p
  if a == 0xFFFF then ⟨r / 256, g / 256, b / 256, 0xFF⟩
  else if a == 0 then Rgba8.clear
  else ⟨r * 0xFFFF / a / 256 % 256, g * 0xFFFF / a / 256 % 256, b * 0xFFFF / a / 256 % 256, a / 256⟩

/-- The model conversion: 8-bit straight shades stay as they are, all others go through their
16-bit premultiplied channels. -/
def toRgba8 : Shade → Rgba8
  | nrgba r g b a => ⟨r, g, b, a⟩
  | s => straighten s.premultiplied

end Shade

/-- How a picture stores its pixels; it decides the scan conversion. -/
inductive Layout where
  | gray
  | gray16
  | rgba
  | rgba64
  | nrgba
  | nrgba64
  /-- Palette indices; the shades are the palette entries. -/
  | paletted
  deriving Repr, BEq, DecidableEq, Inhabited

/-- A decoded picture: its size, its layout and its pixels row by row. -/
structure Raster where
  width : Nat
  height : Nat
  layout : Layout
  pixels : Array Shade
  deriving Inhabited

/-- A picture in 8-bit straight color, row by row. -/
structure Canvas where
  width : Nat
  height : Nat
  pixels : Array Rgba8
  deriving Inhabited

namespace Canvas

/-- A canvas of one color. -/
def filled (width height : Nat) (c : Rgba8) : Canvas :=
  ⟨width, height, Array.replicate (width * height) c⟩

/-- The empty canvas, with no rows and no columns. -/
def empty : Canvas := ⟨0, 0, #[]⟩

/-- The pixel at a column and row; clear outside the canvas. -/
def pixelAt (c : Canvas) (x y : Nat) : Rgba8 :=
  if x < c.width then c.pixels.getD (y * c.width + x) Rgba8.clear else Rgba8.clear

/-- The canvas made by a function of column and row. -/
def tabulate (width height : Nat) (f : Nat → Nat → Rgba8) : Canvas :=
  ⟨width, height, ((List.range height).flatMap fun y => (List.range width).map fun x => f x y).toArray⟩

end Canvas

/-- The scan conversion of a pixel stored in a layout. Straight 8-bit pixels are copied; 16-bit
ones keep their high bytes; premultiplied ones are divided by alpha in their own width (8-bit
products wrap at 16 bits); gray levels become opaque; palette entries use the model
conversion. -/
def scanShade (layout : Layout) (s : Shade) : Rgba8 :=
  match layout, s with
  | .nrgba, .nrgba r g b a => ⟨r, g, b, a⟩
  | .nrgba64, .nrgba64 r g b a => ⟨r / 256, g / 256, b / 256, a / 256⟩
  | .rgba, .rgba r g b a =>
    if a == 0 then Rgba8.clear
    else if a == 0xFF then ⟨r, g, b, a⟩
    else ⟨r * 0xFF % 65536 / a % 256, g * 0xFF % 65536 / a % 256, b * 0xFF % 65536 / a % 256, a⟩
  | .rgba64, .rgba64 r g b a =>
    let high := a / 256
    if high == 0 then Rgba8.clear
    else if high == 0xFF then ⟨r / 256, g / 256, b / 256, high⟩
    else ⟨r * 0xFFFF / a / 256 % 256, g * 0xFFFF / a / 256 % 256, b * 0xFFFF / a / 256 % 256, high⟩
  | .gray, .gray y => ⟨y, y, y, 0xFF⟩
  | .gray16, .gray16 y => ⟨y / 256, y / 256, y / 256, 0xFF⟩
  | .paletted, s => s.toRgba8
  | _, s =>
    let (r, g, b, a) := s.premultiplied
    if a == 0xFFFF then ⟨r / 256, g / 256, b / 256, 0xFF⟩
    else if a == 0 then Rgba8.clear
    else ⟨r * 0xFFFF / a / 256 % 256, g * 0xFFFF / a / 256 % 256, b * 0xFFFF / a / 256 % 256, a / 256⟩

namespace Raster

/-- The pixels in 8-bit straight color by the model conversion. -/
def modelPixels (p : Raster) : Array Rgba8 := p.pixels.map Shade.toRgba8

/-- The picture as a canvas by the scan conversion. -/
def scan (p : Raster) : Canvas := ⟨p.width, p.height, p.pixels.map (scanShade p.layout)⟩

end Raster

/-- A canvas seen as a decoded picture in straight 8-bit layout. -/
def Canvas.toRaster (c : Canvas) : Raster :=
  ⟨c.width, c.height, .nrgba, c.pixels.map fun p => .nrgba p.r p.g p.b p.a⟩

end Theming.Picture
