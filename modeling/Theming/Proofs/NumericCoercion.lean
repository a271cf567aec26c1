import Mathlib
import Theming.Proofs.CoercionTable

/-!
# Numbers given to integer and enumerated destinations

A finite double is `±m · 2^q` for a whole significand `m` and an exponent `q`, read from its bits
(`exactValue?`). Cutting it toward zero (`towardZero`) is what an integer destination asks for,
and what the engine computes is that integer when it fits in a signed 64-bit word and the
smallest such word otherwise (`toWord`), as the processor's conversion instruction answers.

The main statement is `coerceTraced_number_exact`: for a written number with a finite value `n`,
an integer destination always receives `toWord (towardZero n)`, and an enumerated destination
receives a constant `k` exactly when `n` is whole, `k = toWord n` and `k` is a value of its
enumeration. So both are exact for `|n| < 2^63` and not beyond: `coerce_huge_number_wraps`
shows `1e19` becoming `-2^63`.

The steps: `truncate?_eq` (the engine's integer part is `towardZero` of the exact value),
`isWhole_iff` (the engine's test for a whole number is integrality of the exact value), and
`coerceTraced_follows` from the coercion table.
-/

set_option autoImplicit false

namespace Theming.Number

/-! ## The exact value of a double -/

/-- The biased exponent of a double: bits 52 to 62. -/
def biasedExponent (x : Float) : Nat := x.toBits.toNat / Nat.pow 2 52 % 2048

/-- The stored fraction of a double: its low 52 bits. -/
def fractionField (x : Float) : Nat := x.toBits.toNat % Nat.pow 2 52

/-- Whether the sign bit of a double is set. -/
def signBit (x : Float) : Bool := x.toBits.toNat / Nat.pow 2 63 % 2 == 1

/-- The significand of a finite double, with its hidden bit unless it is subnormal. -/
def significand (x : Float) : Nat :=
  if biasedExponent x = 0 then fractionField x else fractionField x + Nat.pow 2 52

/-- The binary exponent of a finite double: its value is `± significand * 2 ^ binaryExponent`. -/
def binaryExponent (x : Float) : Int :=
  if biasedExponent x = 0 then -1074 else (biasedExponent x : Int) - 1075

/-- The exact value of a finite double; `none` for the infinities and not-a-number. -/
def exactValue? (x : Float) : Option ℚ :=
  if biasedExponent x = 2047 then none
  else some ((if signBit x then -1 else 1) * ((significand x : ℚ) * 2 ^ binaryExponent x))

/-- A rational cut toward zero. -/
def towardZero (q : ℚ) : ℤ := if 0 ≤ q then ⌊q⌋ else ⌈q⌉

/-- An integer as a signed 64-bit conversion gives it: itself when it fits, else the smallest
64-bit integer. -/
def toWord (n : ℤ) : ℤ := if int64Min ≤ n ∧ n < Int.pow 2 63 then n else int64Min

/-! ## Cutting toward zero -/

theorem towardZero_of_nonneg {q : ℚ} (h : 0 ≤ q) : towardZero q = ⌊q⌋ := if_pos h

theorem towardZero_neg (q : ℚ) : towardZero (-q) = -towardZero q := by
  unfold towardZero
  rcases lt_trichotomy q 0 with hq | rfl | hq
  · rw [if_pos (by linarith), if_neg (not_le.2 hq), Int.floor_neg]
  · simp
  · rw [if_neg (by linarith), if_pos hq.le, Int.ceil_neg]

@[simp] theorem towardZero_intCast (n : ℤ) : towardZero n = n := by
  unfold towardZero
  split <;> simp

/-- `m · 2^q` in whole numbers: a product for `q ≥ 0`, a quotient (rounded down) otherwise. -/
def scaledFloor (m : ℕ) (q : ℤ) : ℕ :=
  if q ≥ 0 then m * Nat.pow 2 q.toNat else m / Nat.pow 2 (-q).toNat

theorem floor_scaled (m : ℕ) (q : ℤ) : ⌊(m : ℚ) * 2 ^ q⌋ = scaledFloor m q := by
  unfold scaledFloor
  split
  case isTrue hq =>
    obtain ⟨k, rfl⟩ := Int.eq_ofNat_of_zero_le hq
    have hcast : (m : ℚ) * 2 ^ (k : ℤ) = ((m * Nat.pow 2 k : ℕ) : ℚ) := by
      simp [Nat.pow_eq]
    rw [hcast, Int.floor_natCast]
    simp
  case isFalse hq =>
    obtain ⟨k, hk⟩ := Int.exists_eq_neg_ofNat (le_of_lt (not_le.1 hq))
    subst hk
    have hcast : (m : ℚ) * 2 ^ (-(k : ℤ)) = ((m : ℕ) : ℚ) / ((Nat.pow 2 k : ℕ) : ℚ) := by
      simp [Nat.pow_eq, zpow_neg, div_eq_mul_inv]
    rw [hcast, Rat.floor_natCast_div_natCast]
    simp

/-- A signed `m · 2^q` cut toward zero is its whole magnitude with the sign. -/
theorem towardZero_signed (neg : Bool) (m : ℕ) (q : ℤ) :
    towardZero ((if neg then -1 else 1) * ((m : ℚ) * 2 ^ q)) =
      if neg then -((scaledFloor m q : ℕ) : ℤ) else (scaledFloor m q : ℤ) := by
  have hnonneg : (0 : ℚ) ≤ (m : ℚ) * 2 ^ q := by positivity
  cases neg
  · simp [towardZero_of_nonneg hnonneg, floor_scaled]
  · simp [towardZero_neg, towardZero_of_nonneg hnonneg, floor_scaled]

/-- The engine's integer part of a double, read through the fields of its bits. -/
theorem truncate?_eq_fields (x : Float) :
    truncate? x =
      if biasedExponent x = 2047 then none
      else some (if signBit x then -((scaledFloor (significand x) (binaryExponent x) : ℕ) : ℤ)
        else (scaledFloor (significand x) (binaryExponent x) : ℤ)) :=
  rfl

theorem truncate?_eq (x : Float) : truncate? x = (exactValue? x).map towardZero := by
  rw [truncate?_eq_fields, exactValue?]
  split
  · rfl
  · rw [Option.map_some, towardZero_signed]

/-- The engine's 64-bit integer of a finite double is its value cut toward zero, as a 64-bit
conversion gives it. -/
theorem truncateToInt64_eq {x : Float} {q : ℚ} (hx : exactValue? x = some q) :
    truncateToInt64 x = toWord (towardZero q) := by
  rw [truncateToInt64, truncate?_eq, hx, Option.map_some]
  rfl

/-! ## Whole numbers -/

/-- `m · 2^q` is whole exactly when `q ≥ 0` or `2^-q` divides `m`. -/
theorem isInt_scaled (m : ℕ) (q : ℤ) :
    (∃ n : ℤ, (n : ℚ) = m * 2 ^ q) ↔ 0 ≤ q ∨ Nat.pow 2 (-q).toNat ∣ m := by
  rcases le_or_gt 0 q with hq | hq
  · obtain ⟨k, rfl⟩ := Int.eq_ofNat_of_zero_le hq
    refine iff_of_true ⟨(m * 2 ^ k : ℕ), ?_⟩ (.inl hq)
    simp
  · obtain ⟨k, hk⟩ := Int.exists_eq_neg_ofNat hq.le
    subst hk
    have hpos : (0 : ℚ) < 2 ^ k := by positivity
    simp only [neg_neg, Int.toNat_natCast, zpow_neg, zpow_natCast, Nat.pow_eq]
    constructor
    · rintro ⟨n, hn⟩
      -- `m = n · 2^k` in the rationals, so in the naturals
      have hmul : (m : ℚ) = n * 2 ^ k := by
        rw [hn, mul_assoc, inv_mul_cancel₀ hpos.ne', mul_one]
      have hn0 : 0 ≤ n := by
        have : (0 : ℚ) ≤ n := by
          rw [hn]
          positivity
        exact_mod_cast this
      obtain ⟨c, rfl⟩ := Int.eq_ofNat_of_zero_le hn0
      refine .inr ⟨c, ?_⟩
      have : (m : ℚ) = ((2 ^ k * c : ℕ) : ℚ) := by
        rw [hmul]
        push_cast
        ring
      exact_mod_cast this
    · rintro (hle | ⟨c, rfl⟩)
      · omega
      · refine ⟨c, ?_⟩
        push_cast
        rw [mul_comm (2 ^ k : ℚ), mul_assoc, mul_inv_cancel₀ hpos.ne', mul_one]

/-- The engine's test for a whole number, read through the fields of its bits. -/
theorem isWhole_eq_fields (x : Float) :
    Value.Engine.isWhole x =
      if biasedExponent x = 2047 then fractionField x == 0
      else decide (1075 ≤ biasedExponent x) ||
        significand x % Nat.pow 2 (1075 - max (biasedExponent x) 1) == 0 :=
  rfl

theorem binaryExponent_nonneg_iff (x : Float) :
    0 ≤ binaryExponent x ↔ 1075 ≤ biasedExponent x := by
  unfold binaryExponent
  split <;> omega

theorem neg_binaryExponent_toNat (x : Float) :
    (-binaryExponent x).toNat = 1075 - max (biasedExponent x) 1 := by
  unfold binaryExponent
  split <;> omega

theorem isInt_neg_iff (q : ℚ) : (∃ n : ℤ, (n : ℚ) = -q) ↔ ∃ n : ℤ, (n : ℚ) = q := by
  constructor
  · rintro ⟨n, hn⟩
    exact ⟨-n, by rw [Int.cast_neg, hn, neg_neg]⟩
  · rintro ⟨n, hn⟩
    exact ⟨-n, by rw [Int.cast_neg, hn]⟩

/-- The engine's test for a whole number is that the exact value of a finite double is
whole. -/
theorem isWhole_iff {x : Float} {q : ℚ} (hx : exactValue? x = some q) :
    Value.Engine.isWhole x = true ↔ ∃ n : ℤ, (n : ℚ) = q := by
  unfold exactValue? at hx
  split at hx
  case isTrue => cases hx
  case isFalse hfin =>
    cases hx
    -- the sign does not change wholeness; then the two tests compare field by field
    have hsign : (∃ n : ℤ, (n : ℚ) = (if signBit x then -1 else 1) *
        ((significand x : ℚ) * 2 ^ binaryExponent x)) ↔
        ∃ n : ℤ, (n : ℚ) = (significand x : ℚ) * 2 ^ binaryExponent x := by
      cases signBit x
      · simp only [Bool.false_eq_true, if_false, one_mul]
      · simp only [if_true, neg_one_mul, isInt_neg_iff]
    rw [hsign, isInt_scaled, isWhole_eq_fields, if_neg hfin, binaryExponent_nonneg_iff,
      neg_binaryExponent_toNat]
    simp only [Bool.or_eq_true, decide_eq_true_eq, beq_iff_eq, Nat.dvd_iff_mod_eq_zero]

end Theming.Number

namespace Theming.Value.Engine

open Theming.Sheet Theming.Number

theorem coerceTraced_number_integer (e : Engine) (s : Trace) {raw : RawValue} {dst : ValueType}
    (hk : raw.kind = .number) (hint : dst.kind = .integer) :
    ((e.coerceTraced raw dst).run s).1 = .ok (.int (truncateToInt64 raw.number)) := by
  rw [(coerceTraced_follows e raw dst s).ok_iff]
  simp [Entry, hint, numberRead_iff, hk]

/-- A written number gives an integer destination its value cut toward zero, as a 64-bit
conversion gives it, and an enumerated destination a constant exactly when the value is whole,
cut the same way, and one of the enumeration's values. -/
theorem coerceTraced_number_exact (e : Engine) (s : Trace) (raw : RawValue) (dst : ValueType)
    (q : ℚ) (hk : raw.kind = .number) (hq : exactValue? raw.number = some q) :
    let r := ((e.coerceTraced raw dst).run s).1
    (dst.kind = .integer → r = .ok (.int (toWord (towardZero q)))) ∧
      (dst.kind = .enum → ∀ k, r = .ok (.enum k) ↔
        (∃ n : ℤ, (n : ℚ) = q) ∧ k = toWord (towardZero q) ∧
          ∃ en, dst.enumeration = some en ∧ en.contains k = true) := by
  intro r
  refine ⟨fun hint => ?_, fun henum k => ?_⟩
  · rw [show r = _ from coerceTraced_number_integer e s hk hint, truncateToInt64_eq hq]
  · rw [(coerceTraced_follows e raw dst s).ok_iff]
    simp only [Entry, henum, EnumRead, hk, isWhole_iff hq, truncateToInt64_eq hq, reduceCtorEq,
      if_false, false_and, false_or, true_and, Value.enum.injEq]
    constructor
    · rintro ⟨_, ⟨en, hen, hwhole, rfl, hmem⟩, rfl⟩
      exact ⟨hwhole, rfl, en, hen, hmem⟩
    · rintro ⟨hwhole, rfl, en, hen, hmem⟩
      exact ⟨_, ⟨en, hen, hwhole, rfl, hmem⟩, rfl⟩

/-- The written number `1e19`: a double holding exactly `10^19`. -/
def tenToNineteen : RawValue := { kind := .number, numbers := [Float.ofBits 0x43E158E460913D00] }

theorem exactValue?_tenToNineteen : exactValue? tenToNineteen.number = some (10 ^ 19) := by
  have hb : biasedExponent tenToNineteen.number = 1086 := by decide
  have hf : fractionField tenToNineteen.number = 0x158E460913D00 := by decide
  have hs : signBit tenToNineteen.number = false := by decide
  simp only [exactValue?, significand, binaryExponent, hb, hf, hs]
  norm_num

theorem coerceTraced_number_exact_tenToNineteen :
    tenToNineteen.kind = .number ∧ exactValue? tenToNineteen.number = some (10 ^ 19) ∧
      (((default : Engine).coerceTraced tenToNineteen { kind := .integer }).run default).1 =
        .ok (.int (toWord (towardZero (10 ^ 19)))) :=
  ⟨rfl, exactValue?_tenToNineteen,
    (coerceTraced_number_exact default default tenToNineteen { kind := .integer } (10 ^ 19) rfl
      exactValue?_tenToNineteen).1 rfl⟩

/-- `1e19` given to an integer destination becomes the smallest 64-bit integer, not `10^19`. -/
theorem coerce_huge_number_wraps :
    (((default : Engine).coerceTraced tenToNineteen { kind := .integer }).run default).1 =
      .ok (.int (-2 ^ 63)) := by
  rw [coerceTraced_number_integer default default rfl rfl,
    truncateToInt64_eq exactValue?_tenToNineteen]
  have hcast : (10 ^ 19 : ℚ) = ((10 ^ 19 : ℤ) : ℚ) := by norm_num
  have hwrap : toWord (10 ^ 19) = -2 ^ 63 := by decide
  rw [hcast, towardZero_intCast, hwrap]

end Theming.Value.Engine
