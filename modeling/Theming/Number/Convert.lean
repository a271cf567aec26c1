/-!
# From doubles to machine integers

A double is turned into an integer by cutting off its fraction. When the result does not fit in
a signed 64-bit word, or the double is not a number or infinite, the result is the smallest
64-bit integer, -2^63: the answer of the processor's conversion instruction. Sums of such words
wrap around (`wrapInt64`). Rounding to the nearest whole double (`roundHalfAway`) is worked out
on the bits too.
-/

set_option autoImplicit false

namespace Theming.Number

/-- The integer part of a finite double, exactly; `none` for not-a-number and the infinities. -/
def truncate? (x : Float) : Option Int :=
  let bits : Nat := x.toBits.toNat
  let negative : Bool := bits / Nat.pow 2 63 % 2 == 1
  let biased : Nat := bits / Nat.pow 2 52 % 2048
  let fraction : Nat := bits % Nat.pow 2 52
  if biased = 2047 then none
  else
    let m : Nat := if biased = 0 then fraction else fraction + Nat.pow 2 52
    let q : Int := if biased = 0 then -1074 else (biased : Int) - 1075
    let magnitude : Nat := if q ≥ 0 then m * Nat.pow 2 q.toNat else m / Nat.pow 2 (-q).toNat
    some (if negative then -(magnitude : Int) else magnitude)

/-- The smallest signed 64-bit integer. -/
def int64Min : Int := -(Int.pow 2 63)

/-- The 64-bit integer of a double: its integer part when that fits, else `int64Min`. -/
def truncateToInt64 (x : Float) : Int :=
  match truncate? x with
  | some n => if int64Min ≤ n ∧ n < Int.pow 2 63 then n else int64Min
  | none => int64Min

/-- An integer as a signed 64-bit word holds it: wrapped around into `[-2^63, 2^63)`, the way
machine addition leaves a sum that does not fit. -/
def wrapInt64 (n : Int) : Int := n.bmod (Nat.pow 2 64)

/-- A double rounded to a whole number, halves away from zero, worked out on its bits as the
standard library does it. A magnitude below one half becomes zero and one below one becomes one,
each keeping the sign. A magnitude that has a fraction gets half the weight of its lowest whole
bit added, which may carry into the exponent, and the bits below that weight cleared. Whole
numbers, the infinities and not-a-number stay as they are. -/
def roundHalfAway (x : Float) : Float :=
  let bits : Nat := x.toBits.toNat
  let biased : Nat := bits / Nat.pow 2 52 % 2048
  let sign : Nat := bits / Nat.pow 2 63 * Nat.pow 2 63
  if biased < 1022 then Float.ofBits (UInt64.ofNat sign)
  else if biased = 1022 then Float.ofBits (UInt64.ofNat (sign + 1023 * Nat.pow 2 52))
  else if biased < 1075 then
    -- the weight of the lowest whole bit, in units of the lowest bit of the pattern
    let unit : Nat := Nat.pow 2 (1075 - biased)
    let up : Nat := bits + unit / 2
    Float.ofBits (UInt64.ofNat (up - up % unit))
  else x

/-- A byte from a double: the low byte of its 64-bit integer (see `truncateToInt64`). -/
def truncateToByte (x : Float) : Nat := (truncateToInt64 x % 256).toNat

/-- The 32-bit integer of a double: its integer part when that fits, else the smallest 32-bit
integer. -/
def truncateToInt32 (x : Float) : Int :=
  match truncate? x with
  | some n => if -(Int.pow 2 31) ≤ n ∧ n < Int.pow 2 31 then n else -(Int.pow 2 31)
  | none => -(Int.pow 2 31)

end Theming.Number
