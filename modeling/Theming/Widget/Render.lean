import Theming.Widget.Widget
import Theming.Value.Decoding
import Theming.Fault

/-!
# Drawing widgets

A widget is drawn at its frame's size, each side rounded (halves away from zero) and at most
4096 pixels; a side that is not positive leaves nothing to draw. The canvas is filled with the
background color (clear without one). Unless the widget is hidden, its background image is then
stretched over the whole canvas, honouring cap insets, and laid over the fill with the view's
opacity, clamped to `[0, 1]`.

The background image is the navigation bar's background image, else the image view's image,
else the image of the background view.

Laying a pixel over another weighs the two colors by their alphas: the upper one counts with
its alpha times the opacity, the lower one with what that leaves of its own alpha; the weights
are scaled to sum to one, and each channel is the weighted sum, cut to a byte. The alpha is the
lower alpha plus the upper alpha times the opacity times what the lower leaves, at most 255.
Where both pixels are clear the weights are undefined and the color channels come out zero.
-/

set_option autoImplicit false

namespace Theming.Widget

open Theming.Value Theming.Picture Theming.Number

/-- The largest side of a drawing. -/
def maxRenderSide : Nat := 4096

/-- A frame side in pixels: zero for a side that is not positive (or not a number), else the
side rounded and capped. -/
def renderSide (f : Float) : Nat :=
  if f ≤ 0 || f.isNaN then 0
  else (truncateToInt64 (min (roundHalfAway f) (Float.ofNat maxRenderSide))).toNat

/-- The 8-bit color a fill takes: the color's bytes, through 16-bit premultiplied channels. -/
def fillColor (c : Color) : Rgba8 :=
  match c.bytes with
  | [r, g, b, a] => Shade.straighten (Shade.nrgba r g b a).premultiplied
  | _ => Rgba8.clear

/-- One pixel laid over another with an opacity. -/
def overPixel (opacity : Float) (lower upper : Rgba8) : Rgba8 :=
  let r1 := Float.ofNat lower.r
  let g1 := Float.ofNat lower.g
  let b1 := Float.ofNat lower.b
  let a1 := Float.ofNat lower.a
  let r2 := Float.ofNat upper.r
  let g2 := Float.ofNat upper.g
  let b2 := Float.ofNat upper.b
  let a2 := Float.ofNat upper.a
  let coef2 := opacity * a2 / 255
  let coef1 := (1 - coef2) * a1 / 255
  let sum := coef1 + coef2
  let coef1 := coef1 / sum
  let coef2 := coef2 / sum
  ⟨truncateToByte (r1 * coef1 + r2 * coef2), truncateToByte (g1 * coef1 + g2 * coef2),
    truncateToByte (b1 * coef1 + b2 * coef2), truncateToByte (min (a1 + a2 * opacity * (255 - a1) / 255) 255)⟩

/-- A canvas laid over another of the same size with an opacity. -/
def overlay (lower upper : Canvas) (opacity : Float) : Canvas :=
  { lower with pixels := lower.pixels.zipWith (overPixel opacity) upper.pixels }

/-- The image drawn behind a widget. -/
def Widget.background (w : Widget) : Option Image :=
  let own := match w with
    | .navigationBar n => n.backgroundImage
    | .imageView v => v.image
    | _ => none
  own.orElse fun _ => w.base.backgroundView

/-- Draws a widget's background. -/
def Widget.render (w : Widget) : Except Fault Canvas := do
  let v := w.base
  let width := renderSide v.frame.w
  let height := renderSide v.frame.h
  if width == 0 || height == 0 then throw .emptyFrame
  let fill := (v.backgroundColor.map fillColor).getD Rgba8.clear
  let dst := Canvas.filled width height fill
  if v.hidden then return dst
  match w.background with
  | none => pure dst
  | some img =>
    let picture ← (img.stretchTo width height).mapError Fault.plain
    pure (overlay dst picture (max 0 (min 1 v.alpha)))

end Theming.Widget
