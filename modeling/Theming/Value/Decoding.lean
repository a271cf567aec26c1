import Theming.Value.Color
import Theming.Picture.Decode
import Theming.Picture.Resample
import Theming.Vector.Render

/-!
# Pixels of image values

An image value's bytes are decoded on demand. Failures name the image: decoding failures read
`unable to decode image "name": …` and size failures `unable to read image "name": …`.

A stretched image honours its cap insets, rounded to whole pixels. A pattern color takes the
average color of its image as its channels.
-/

set_option autoImplicit false

namespace Theming.Value

open Theming.Text Theming.Picture

namespace Image

/-- The decoded pixels of an image; an SVG document is rendered at its intrinsic size. -/
def decode (i : Image) : Except String Raster :=
  let data := ByteArray.mk i.data.toArray
  let pixels := if i.format == "svg" then
      (Theming.Vector.rasterizeSvg data 0 0).map Canvas.toRaster
    else decodePicture data
  pixels.mapError fun e => "unable to decode image " ++ Quoted.quote i.name ++ ": " ++ e

/-- The width and height of an image in pixels; for an SVG document, its intrinsic size. -/
def size (i : Image) : Except String (Nat × Nat) :=
  let data := ByteArray.mk i.data.toArray
  let dims := if i.format == "svg" then Theming.Vector.svgSize data else pictureSize data
  dims.mapError fun e => "unable to read image " ++ Quoted.quote i.name ++ ": " ++ e

/-- An inset rounded to whole pixels (halves away from zero). -/
def pixelInset (x : Float) : Int := Theming.Number.truncateToInt64 (Theming.Number.roundHalfAway x)

/-- The image drawn at a size, honouring its cap insets. -/
def stretchTo (i : Image) (w h : Nat) : Except String Canvas := do
  let p ← i.decode
  let ins := i.insets
  pure (stretch p ⟨pixelInset ins.top, pixelInset ins.left, pixelInset ins.bottom, pixelInset ins.right⟩ w h)

end Image

/-- The pattern color of an image: its average color, carrying the image. -/
def Color.ofPattern (i : Image) : Except String Color := do
  let p ← i.decode
  let avg := averageColor p
  pure { Color.ofBytes avg.r.toFloat avg.g.toFloat avg.b.toFloat avg.a.toFloat with pattern := some i }

end Theming.Value
