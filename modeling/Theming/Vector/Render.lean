import Theming.Vector.Icon
import Theming.Vector.Coverage

/-!
# Rendering icons

An icon's intrinsic size is its view box rounded up to whole pixels, with 256 standing in for a
side that is not positive. It is rendered at a target size on a clear canvas:

* with no target side, at the intrinsic size;
* with one target side, at that side and the other in proportion, rounded;
* with both, at the largest size of the same proportions that fits inside them;

each side is at least one pixel, and a result beyond 4096 pixels a side is scaled down to fit
within 4096 (keeping at least one pixel a side).

The view box is mapped onto the whole canvas, each axis scaled on its own. Each filled shape
is then painted over what is there, in its color with its fill opacity.
-/

set_option autoImplicit false

namespace Theming.Vector

open Theming.Picture Theming.Number

/-- The side used when the view box gives none. -/
def defaultSide : Nat := 256

/-- The largest side of a rendering. -/
def maxSide : Nat := 4096

/-- A double rounded half away from zero to a 64-bit integer. -/
def roundToInt (x : Float) : Int := truncateToInt64 (roundHalfAway x)

/-- The intrinsic size of an icon. -/
def Icon.intrinsic (i : Icon) : Nat × Nat :=
  let side (x : Float) : Nat :=
    let n := truncateToInt64 x.ceil
    if n ≤ 0 then defaultSide else n.toNat
  (side i.viewBox.w, side i.viewBox.h)

/-- The size an icon is rendered at for target sides (zero or less meaning none). -/
def Icon.renderSize (i : Icon) (tw th : Int) : Nat × Nat :=
  let (iw, ih) := i.intrinsic
  let fw := Float.ofNat iw
  let fh := Float.ofNat ih
  let (w, h) : Int × Int :=
    if tw ≤ 0 && th ≤ 0 then (iw, ih)
    else if tw > 0 && th ≤ 0 then (tw, roundToInt (Float.ofInt tw * fh / fw))
    else if th > 0 && tw ≤ 0 then (roundToInt (Float.ofInt th * fw / fh), th)
    else
      let s := min (Float.ofInt tw / fw) (Float.ofInt th / fh)
      (roundToInt (fw * s), roundToInt (fh * s))
  let w := max w 1
  let h := max h 1
  let limit : Int := maxSide
  let (w, h) :=
    if w > limit || h > limit then
      let s := min (Float.ofNat maxSide / Float.ofInt w) (Float.ofNat maxSide / Float.ofInt h)
      (max (roundToInt (Float.ofInt w * s)) 1, max (roundToInt (Float.ofInt h * s)) 1)
    else (w, h)
  (w.toNat, h.toNat)

/-- A fixed-point coordinate in single precision. -/
def fixedToF32 (v : Int) : Float32 := Float32.ofInt v / 64

/-- Accumulates the coverage of outlines: each is drawn from its first point through the others
and back to the first. -/
def Coverage.outline (z : Coverage) (pts : List (Int × Int)) : Coverage :=
  match pts with
  | [] => z
  | p :: rest =>
    let z := z.moveTo (fixedToF32 p.1) (fixedToF32 p.2)
    let z := rest.foldl (fun z q => z.lineTo (fixedToF32 q.1) (fixedToF32 q.2)) z
    let last := (rest.getLast?).getD p
    if last != p then z.lineTo (fixedToF32 p.1) (fixedToF32 p.2) else z

/-- Renders an icon at a size. -/
def Icon.render (i : Icon) (w h : Nat) : Canvas :=
  let vb := i.viewBox
  let view := (Affine.identity.translate (0 - vb.x) (0 - vb.y)).scale
    (Float.ofNat w / vb.w) (Float.ofNat h / vb.h)
  i.shapes.foldl (fun canvas shape =>
    match shape.style.fill with
    | none => canvas
    | some paint =>
      let m := view.mult shape.style.transform
      let z := shape.outlines.foldl (fun z o => z.outline (o.map m.applyFixed)) (Coverage.empty w h)
      let color : Rgba8 := ⟨paint.r, paint.g, paint.b, truncateToByte (shape.style.fillOpacity * 255)⟩
      paintOver canvas z.levels color) (Canvas.filled w h Rgba8.clear)

/-- The intrinsic size of an SVG document. -/
def svgSize (data : ByteArray) : Except String (Nat × Nat) := do
  let icon ← Icon.read data
  pure icon.intrinsic

/-- Renders an SVG document for target sides (zero or less meaning none). -/
def rasterizeSvg (data : ByteArray) (tw th : Int) : Except String Canvas := do
  let icon ← Icon.read data
  let (w, h) := icon.renderSize tw th
  pure (icon.render w h)

end Theming.Vector
