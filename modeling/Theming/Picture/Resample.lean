import Theming.Picture.Raster
import Theming.Number.Convert

/-!
# Resampling

Resizing runs a filter over rows, then over columns, in double precision. The weights of a
destination pixel come from the filter's kernel at the distance of each source pixel in reach,
scaled when shrinking, and are normalized to sum to one. Colors are weighted by alpha: each
channel sums `channel · alpha · weight`, alpha sums `alpha · weight`, and the channels are
divided by the alpha sum; a pixel whose alpha sum is zero stays clear. Results are rounded half
up and clamped to a byte.

A stretch is a nine-slice resize: the corner pieces keep their size, the edges stretch along
one axis and the center along both, with cap insets fitted first so that the center keeps at
least one pixel (the fitting adds insets as 64-bit words do, and two insets whose sum wraps around
are not fitted). Without insets it is a plain resize.

The average color of a picture is its resize to a single pixel with the box filter.
-/

set_option autoImplicit false

namespace Theming.Picture

/-- A resampling filter: how far it reaches, and its kernel. -/
structure Filter where
  support : Float
  kernel : Float → Float

namespace Filter

/-- The box filter: weight one within half a pixel. -/
def box : Filter := ⟨0.5, fun x => if x.abs ≤ 0.5 then 1.0 else 0.0⟩

/-- The linear (tent) filter. -/
def linear : Filter := ⟨1.0, fun x => if x.abs < 1.0 then 1.0 - x.abs else 0.0⟩

end Filter

/-- The source pixels and weights of each destination pixel along one axis. -/
def weights (dstSize srcSize : Nat) (f : Filter) : Array (List (Nat × Float)) :=
  let du := srcSize.toFloat / dstSize.toFloat
  let scale := if du < 1.0 then 1.0 else du
  let ru := (scale * f.support).ceil
  (List.range dstSize).toArray.map fun v =>
    let fu := (v.toFloat + 0.5) * du - 0.5
    let first : Int := max 0 (Theming.Number.truncateToInt64 (fu - ru).ceil)
    let last : Int := min (srcSize - 1 : Int) (Theming.Number.truncateToInt64 (fu + ru).floor)
    let span := (last - first + 1).toNat
    let taken := (List.range span).filterMap fun (k : Nat) =>
      let u := (first + (k : Int)).toNat
      let w := f.kernel ((u.toFloat - fu) / scale)
      if w != 0.0 then some (u, w) else none
    let sum := taken.foldl (fun s p => s + p.2) 0.0
    if sum != 0.0 then taken.map fun (u, w) => (u, w / sum) else taken

/-- A double rounded half up and clamped to a byte. -/
def clampByte (x : Float) : Nat :=
  let v := Theming.Number.truncateToInt64 (x + 0.5)
  if v > 255 then 255 else if v > 0 then v.toNat else 0

/-- The alpha-weighted mix of pixels. -/
def mix (pick : Nat → Rgba8) (ws : List (Nat × Float)) : Rgba8 :=
  let (r, g, b, a) := ws.foldl (fun (acc : Float × Float × Float × Float) (i, w) =>
    let s := pick i
    let aw := s.a.toFloat * w
    (acc.1 + s.r.toFloat * aw, acc.2.1 + s.g.toFloat * aw, acc.2.2.1 + s.b.toFloat * aw,
      acc.2.2.2 + aw)) (0.0, 0.0, 0.0, 0.0)
  if a != 0.0 then
    let inv := 1.0 / a
    ⟨clampByte (r * inv), clampByte (g * inv), clampByte (b * inv), clampByte a⟩
  else Rgba8.clear

namespace Canvas

/-- Resizes the rows to a new width. -/
def resizeRows (c : Canvas) (width : Nat) (f : Filter) : Canvas :=
  let ws := weights width c.width f
  Canvas.tabulate width c.height fun x y => mix (fun i => c.pixelAt i y) (ws.getD x [])

/-- Resizes the columns to a new height. -/
def resizeColumns (c : Canvas) (height : Nat) (f : Filter) : Canvas :=
  let ws := weights height c.height f
  Canvas.tabulate c.width height fun x y => mix (fun i => c.pixelAt x i) (ws.getD y [])

/-- The part of a canvas inside a rectangle given by its corners, clipped to the canvas. -/
def crop (c : Canvas) (x0 y0 x1 y1 : Nat) : Canvas :=
  let x1 := min x1 c.width
  let y1 := min y1 c.height
  if x0 ≥ x1 || y0 ≥ y1 then Canvas.empty
  else Canvas.tabulate (x1 - x0) (y1 - y0) fun x y => c.pixelAt (x0 + x) (y0 + y)

/-- A canvas with another one copied over it at a position, clipped. -/
def paste (c : Canvas) (part : Canvas) (px py : Nat) : Canvas :=
  Canvas.tabulate c.width c.height fun x y =>
    if px ≤ x && x < px + part.width && py ≤ y && y < py + part.height then
      part.pixelAt (x - px) (y - py)
    else c.pixelAt x y

/-- A new canvas of one color; a side of zero gives the empty canvas. -/
def blank (width height : Nat) (fill : Rgba8) : Canvas :=
  if width == 0 || height == 0 then Canvas.empty else Canvas.filled width height fill

end Canvas

/-- Resizes a picture. A side of zero keeps the aspect ratio (at least one pixel); an empty
source or an empty target gives the empty canvas. -/
def resize (p : Raster) (width height : Nat) (f : Filter) : Canvas :=
  if (width == 0 && height == 0) || p.width == 0 || p.height == 0 then Canvas.empty
  else
    let aspect (num den : Nat) (side : Nat) : Nat :=
      let t := side.toFloat * num.toFloat / den.toFloat
      let r := (t + 0.5).floor
      if r < 1.0 then 1 else (Theming.Number.truncateToInt64 r).toNat
    let w := if width == 0 then aspect p.width p.height height else width
    let h := if height == 0 then aspect p.height p.width w else height
    let src := p.scan
    if p.width != w && p.height != h then (src.resizeRows w f).resizeColumns h f
    else if p.width != w then src.resizeRows w f
    else if p.height != h then src.resizeColumns h f
    else src

/-- Cap insets in whole pixels: top, left, bottom, right. -/
structure PixelInsets where
  top : Int
  left : Int
  bottom : Int
  right : Int
  deriving Repr, BEq, Inhabited

namespace PixelInsets

/-- Whether all insets are zero. -/
def isZero (i : PixelInsets) : Bool := i.top == 0 && i.left == 0 && i.bottom == 0 && i.right == 0

/-- Two opposite insets fitted into a side: negative ones become zero, and when together they
leave no pixel, the first takes at most half of what is left after one pixel and the second
the rest. The two are added as signed 64-bit words, so a sum past `2^63 - 1` wraps around to a
negative one and the insets are kept as they are. -/
def fit (a b : Int) (size : Nat) : Nat × Nat :=
  let a := max a 0
  let b := max b 0
  if Theming.Number.wrapInt64 (a + b) ≥ size then
    let a' := min a ((size - 1 : Int) / 2)
    let b' := min b (size - 1 - a')
    (a'.toNat, b'.toNat)
  else (a.toNat, b.toNat)

end PixelInsets

/-- The cuts of one axis of a nine-slice stretch: `source` cuts a side into the leading cap, the
middle and the trailing cap, and `target` cuts the side drawn. -/
structure AxisCuts where
  source : Array Int
  target : Array Nat

/-- The cuts of one axis, from a side of `size` pixels to one of `target` pixels, for a leading and
a trailing inset. The insets are fitted into the side first; on the drawn side the leading cap
takes at most half and the trailing cap at most what is left. -/
def axisCuts (lead trail : Int) (size target : Nat) : AxisCuts :=
  let (lead, trail) := PixelInsets.fit lead trail size
  let dlead := min lead (target / 2)
  let dtrail := min trail (target - dlead)
  ⟨#[0, (lead : Int), (size : Int) - trail, size], #[0, dlead, target - dtrail, target]⟩

/-- Paints the tile of a nine-slice stretch in row `row` and column `col`. Its source is the
rectangle between the source cuts (its corners put in order, then clipped to the source), resized
to the tile between the target cuts unless it has that size already. An empty source or tile
paints nothing. -/
def paintTile (src : Canvas) (xs ys : AxisCuts) (dst : Canvas) (row col : Nat) : Canvas :=
  let x0 := min (xs.source.getD col 0) (xs.source.getD (col + 1) 0)
  let x1 := max (xs.source.getD col 0) (xs.source.getD (col + 1) 0)
  let y0 := min (ys.source.getD row 0) (ys.source.getD (row + 1) 0)
  let y1 := max (ys.source.getD row 0) (ys.source.getD (row + 1) 0)
  let tw := xs.target.getD (col + 1) 0 - xs.target.getD col 0
  let th := ys.target.getD (row + 1) 0 - ys.target.getD row 0
  if x0 ≥ x1 || y0 ≥ y1 || tw == 0 || th == 0 then dst
  else
    let part := src.crop x0.toNat y0.toNat x1.toNat y1.toNat
    let part := if part.width != tw || part.height != th then
        resize part.toRaster tw th Filter.linear
      else part
    dst.paste part (xs.target.getD col 0) (ys.target.getD row 0)

/-- The nine tiles of a stretch, row by row. -/
def tiles : List (Nat × Nat) := (List.range 3).flatMap fun row => (List.range 3).map fun col => (row, col)

/-- Draws a picture at a size the nine-slice way. -/
def stretch (p : Raster) (insets : PixelInsets) (w h : Nat) : Canvas :=
  if p.width == 0 || p.height == 0 || w == 0 || h == 0 then Canvas.blank w h Rgba8.clear
  else if insets.isZero then resize p w h Filter.linear
  else
    let xs := axisCuts insets.left insets.right p.width w
    let ys := axisCuts insets.top insets.bottom p.height h
    tiles.foldl (fun dst cell => paintTile p.scan xs ys dst cell.1 cell.2) (Canvas.filled w h Rgba8.clear)

/-- The average color of a picture: clear for an empty one. -/
def averageColor (p : Raster) : Rgba8 :=
  if p.width == 0 || p.height == 0 then Rgba8.clear
  else (resize p 1 1 Filter.box).pixelAt 0 0

end Theming.Picture
