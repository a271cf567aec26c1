/-!
# The shortest decimal that reads back as a given double

A finite double is `m * 2^q` for a natural significand `m` and an integer exponent `q`. Every
real number strictly inside the half-gaps around it rounds to it when read, and so do the two
ends when `m` is even (ties go to the even significand). `classify` picks, among the
decimals `d * 10^j` in that interval, one with the fewest significant digits, and of two such the
one nearer to the double; an exact tie between them goes to the even `d`.

The search tries 1, 2, … 17 significant digits. For each count it looks only at the two
neighbours of the double on that decimal grid: if any point of the grid lies in the interval, one
of these two does. Seventeen digits always succeed, since the grid is then finer than the gap.
All comparisons are exact, in natural numbers.
-/

set_option autoImplicit false

namespace Theming.Number

/-- A decimal number `±digits * 10^exponent`. -/
structure Decimal where
  negative : Bool
  digits : Nat
  exponent : Int
  deriving Repr, BEq, DecidableEq

/-- The classes of doubles: finite values carry their decimal, the others only their sign. -/
inductive FloatClass where
  | finite (d : Decimal)
  | nan
  | infinite (negative : Bool)
  deriving Repr, BEq

namespace Decimal

/-- `a * 2^p2` compared with `b * 10^p10`, exactly. -/
def compareScaled (a : Nat) (p2 : Int) (b : Nat) (p10 : Int) : Ordering :=
  compare (a * Nat.pow 2 p2.toNat * Nat.pow 10 (-p10).toNat) (b * Nat.pow 10 p10.toNat * Nat.pow 2 (-p2).toNat)

/-- The number of binary digits of `n`. -/
def bitLength (n : Nat) : Nat := if n = 0 then 0 else Nat.log2 n + 1

/-- Lowers `e` while `10^e` exceeds `m * 2^q`, at most `fuel` times. -/
def lowerExponent (m : Nat) (q : Int) : Nat → Int → Int
  | 0, e => e
  | fuel + 1, e => if compareScaled m q 1 e == .lt then lowerExponent m q fuel (e - 1) else e

/-- Raises `e` while `10^(e+1)` does not exceed `m * 2^q`, at most `fuel` times. -/
def raiseExponent (m : Nat) (q : Int) : Nat → Int → Int
  | 0, e => e
  | fuel + 1, e =>
    if compareScaled m q 1 (e + 1) != .lt then raiseExponent m q fuel (e + 1) else e

/-- The largest `e` with `10^e ≤ m * 2^q`, for `m > 0`. The first guess from the binary length
(`log10 2 ≈ 78913 / 2^18`) is off by at most one; the adjustments are bounded by their fuel. -/
def decimalExponent (m : Nat) (q : Int) : Int :=
  let l : Int := (bitLength m : Int) - 1 + q
  let guess : Int := Int.fdiv (l * 78913) 262144
  raiseExponent m q 4 (lowerExponent m q 4 guess)

/-- Removes trailing zero digits, raising the exponent for each. -/
def trim (digits : Nat) (exponent : Int) : Nat × Int :=
  let rec go : Nat → Nat → Int → Nat × Int
    | 0, d, e => (d, e)
    | fuel + 1, d, e => if d ≠ 0 ∧ d % 10 = 0 then go fuel (d / 10) (e + 1) else (d, e)
  go 400 digits exponent

/-- The shortest, nearest decimal in the rounding interval of `m * 2^q`, searched with `k`
significant digits first and more on failure; when the fuel is spent the grid's lower
neighbour is taken (with seventeen digits that never happens). `lowGap` is 1 when the gap
below is half the gap above (the significand is the smallest of its binade), else 2: the
interval is
`[(4m - lowGap) * 2^(q-2), (4m + 2) * 2^(q-2)]`, its ends included when `m` is even. -/
def search (m : Nat) (q : Int) (lowGap : Nat) (e10 : Int) : Nat → Nat → Nat × Int
  | fuel, k =>
    let j : Int := e10 - (k : Int) + 1
    let a2 : Int := q - 2
    -- All quantities are multiplied by 2^(-a2) * 10^(-j) and cleared of denominators.
    let num (x : Nat) : Nat := x * Nat.pow 10 (-j).toNat * Nat.pow 2 a2.toNat
    let den : Nat := Nat.pow 10 j.toNat * Nat.pow 2 (-a2).toNat
    let v := num (4 * m)
    let lo := num (4 * m - lowGap)
    let hi := num (4 * m + 2)
    let inside (d : Nat) : Bool :=
      if m % 2 = 0 then lo ≤ d * den && d * den ≤ hi else lo < d * den && d * den < hi
    let dLo := v / den
    let dHi := dLo + 1
    match inside dLo, inside dHi with
    | true, true =>
      let below := v - dLo * den
      let above := dHi * den - v
      if below < above then (dLo, j)
      else if above < below then (dHi, j)
      else if dLo % 2 = 0 then (dLo, j) else (dHi, j)
    | true, false => (dLo, j)
    | false, true => (dHi, j)
    | false, false =>
      match fuel with
      | 0 => (dLo, j)
      | fuel + 1 => search m q lowGap e10 fuel (k + 1)

end Decimal

/-- The class of a double, with the shortest decimal of a finite one. -/
def classify (x : Float) : FloatClass :=
  let bits : Nat := x.toBits.toNat
  let negative : Bool := bits / Nat.pow 2 63 % 2 == 1
  let biased : Nat := bits / Nat.pow 2 52 % 2048
  let fraction : Nat := bits % Nat.pow 2 52
  if biased = 2047 then
    if fraction = 0 then .infinite negative else .nan
  else
    let m := if biased = 0 then fraction else fraction + Nat.pow 2 52
    let q : Int := if biased = 0 then -1074 else (biased : Int) - 1075
    if m = 0 then .finite ⟨negative, 0, 0⟩
    else
      let lowGap := if fraction = 0 ∧ biased > 1 then 1 else 2
      let e10 := Decimal.decimalExponent m q
      let (d, j) := Decimal.search m q lowGap e10 16 1
      let (d, j) := Decimal.trim d j
      .finite ⟨negative, d, j⟩

end Theming.Number
