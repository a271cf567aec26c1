import Theming.Proofs.Doubles
import Theming.Proofs.NumericCoercion

/-!
# Doubles as exact rationals

A finite double is `±m · 2^e`, read off its bit pattern (`exactValue?`). Lean's float model reads
the same pattern as an `UnpackedFloat` and compares and computes on that. Here the two readings
are tied together, so that what the model does can be said of exact values.

* A pattern that is not an infinity or not-a-number is packed back as it was read (`pack_unpack`),
  so `Float.ofBits` keeps such a pattern (`toBits_ofBits`) and its value is read off the pattern
  (`exactValue?_ofBits`).
* The unpacked double of a finite pattern has the pattern's sign, significand and exponent
  (`unpack_of_finite`); its value is the exact value (`exactValue?_eq_unpack`).
* The significand and exponent of a pattern are in canonical form (`Canonical`): fewer than 53
  bits, and 53 bits unless the exponent is the smallest. So the model's order, which compares
  exponents first and significands second, is the order of the exact values (`le_iff_value`).
* `roundHalfAway` rounds the exact value to the nearest whole number, halves away from zero
  (`exactValue?_roundHalfAway`), and keeps the infinities and not-a-number.
-/

set_option autoImplicit false

namespace Theming.Number

section Model

open Float.Model Float.Model.UnpackedFloat

/-! ## Bit patterns and packing -/

theorem toNat_unpackMantissa (v : BitVec 64) :
    (@unpackMantissa Format.binary64 v).toNat = v.toNat % 2 ^ 52 := by
  simp [unpackMantissa, BitVec.extractLsb_toNat]

theorem toNat_unpackExponent (v : BitVec 64) :
    (@unpackExponent Format.binary64 v).toNat = v.toNat / 2 ^ 52 % 2 ^ 11 := by
  simp [unpackExponent, BitVec.extractLsb_toNat, Nat.shiftRight_eq_div_pow]

theorem toNat_unpackSign (v : BitVec 64) :
    (@unpackSign Format.binary64 v).toNat = v.toNat / 2 ^ 63 % 2 := by
  simp [unpackSign, BitVec.extractLsb_toNat, Nat.shiftRight_eq_div_pow]

theorem toBitVec_ofBitVec (v : BitVec 1) : (Sign.ofBitVec v).toBitVec = v := by
  revert v
  decide

theorem toNat_packComponents (s : Sign) (e : BitVec 11) (m : BitVec 52) :
    (packComponents Format.binary64 s e m).toNat =
      s.toBitVec.toNat * 2 ^ 63 + e.toNat * 2 ^ 52 + m.toNat := by
  have hs : (s.toBitVec ++ e).toNat = s.toBitVec.toNat * 2 ^ 11 + e.toNat := by
    rw [BitVec.toNat_append, ← Nat.shiftLeft_add_eq_or_of_lt e.isLt, Nat.shiftLeft_eq]
  show ((s.toBitVec ++ e) ++ m).toNat = _
  rw [BitVec.toNat_append, ← Nat.shiftLeft_add_eq_or_of_lt m.isLt, Nat.shiftLeft_eq, hs]
  ring

/-- A pattern whose exponent field is not all ones is packed back as it was read. -/
theorem pack_unpack {v : BitVec 64} (h : v.toNat / 2 ^ 52 % 2048 ≠ 2047) :
    UnpackedFloat.pack Format.binary64 (UnpackedFloat.unpack Format.binary64 v) = v := by
  apply BitVec.eq_of_toNat_eq
  have hv := v.isLt
  have hS := toNat_unpackSign v
  have hE := toNat_unpackExponent v
  have hM := toNat_unpackMantissa v
  have hsign := toBitVec_ofBitVec (@unpackSign Format.binary64 v)
  unfold UnpackedFloat.unpack
  dsimp only
  split
  case isTrue hinf =>
    have := congrArg BitVec.toNat hinf
    simp only [hE] at this
    exact absurd (by simpa using this) h
  case isFalse hinf =>
  split
  case isTrue hzero =>
    have hE0 : (@unpackExponent Format.binary64 v).toNat = 0 := by rw [hzero]; rfl
    split
    case isTrue hm0 =>
      -- a zero: sign bit alone
      have hM0 : v.toNat % 2 ^ 52 = 0 := by rw [← hM, hm0]; rfl
      simp only [UnpackedFloat.pack, packedZero, toNat_packComponents, hsign, hS]
      simp
      omega
    case isFalse hm0 =>
      -- a subnormal: exponent field zero, the fraction as the significand
      have hMpos : 0 < v.toNat % 2 ^ 52 := by
        rw [← hM]
        exact Nat.pos_of_ne_zero fun h0 => hm0 (BitVec.eq_of_toNat_eq (by simpa using h0))
      have hlog : (@unpackMantissa Format.binary64 v).toNat.log2 < 52 := by
        rw [hM]
        exact (Nat.log2_lt (by omega)).2 (Nat.mod_lt _ (by positivity))
      simp only [UnpackedFloat.pack, Format.exponentBias, Format.mantissaBits, hE0]
      rw [if_neg (by norm_num), if_neg (by omega), toNat_packComponents, hsign, hS]
      simp only [BitVec.toNat_ofNat, hM]
      simp
      omega
  case isFalse hzero =>
    -- a normal double: the hidden bit is put back and taken off again
    have hEne : v.toNat / 2 ^ 52 % 2 ^ 11 ≠ 0 := fun h0 =>
      hzero (BitVec.eq_of_toNat_eq (by simpa [hE] using h0))
    have hEtop : v.toNat / 2 ^ 52 % 2 ^ 11 ≠ 2047 := by simpa using h
    have hfull : (1#1 ++ @unpackMantissa Format.binary64 v).toNat = 2 ^ 52 + v.toNat % 2 ^ 52 := by
      rw [BitVec.toNat_append, ← Nat.shiftLeft_add_eq_or_of_lt (@unpackMantissa Format.binary64 v).isLt,
        hM]
      rfl
    have hlog : (2 ^ 52 + v.toNat % 2 ^ 52).log2 = 52 :=
      (Nat.log2_eq_iff (by positivity)).2 ⟨by omega, by omega⟩
    simp only [UnpackedFloat.pack, Format.exponentBias, Format.mantissaBits, hfull, hlog, hE]
    rw [if_neg (by omega), if_pos (by norm_num), toNat_packComponents, hsign, hS]
    simp only [BitVec.toNat_ofNat]
    omega

/-- `Float.ofBits` keeps every pattern but those of not-a-number. -/
theorem toBits_ofBits {b : UInt64} (h : b.toNat / 2 ^ 52 % 2048 ≠ 2047) :
    (Float.ofBits b).toBits = b := by
  show UInt64.ofBitVec (UnpackedFloat.pack Format.binary64
    (UnpackedFloat.unpack Format.binary64 b.toBitVec)) = b
  rw [pack_unpack (by simpa using h)]

/-! ## The value of a pattern -/

/-- The significand of a pattern of a finite double, with its hidden bit unless it is subnormal. -/
def patternSignificand (n : ℕ) : ℕ :=
  if n / 2 ^ 52 % 2048 = 0 then n % 2 ^ 52 else n % 2 ^ 52 + 2 ^ 52

/-- The binary exponent of a pattern of a finite double. -/
def patternExponent (n : ℕ) : ℤ :=
  if n / 2 ^ 52 % 2048 = 0 then -1074 else ((n / 2 ^ 52 % 2048 : ℕ) : ℤ) - 1075

/-- The sign of a pattern, as a factor. -/
def patternSign (n : ℕ) : ℚ := if n / 2 ^ 63 % 2 == 1 then -1 else 1

/-- The value of a pattern of a finite double. -/
def patternValue (n : ℕ) : ℚ :=
  patternSign n * ((patternSignificand n : ℚ) * 2 ^ patternExponent n)

theorem exactValue?_eq_pattern (x : Float) :
    exactValue? x = if x.toBits.toNat / 2 ^ 52 % 2048 = 2047 then none
      else some (patternValue x.toBits.toNat) :=
  rfl

/-- The value of the double of a pattern, read off the pattern. -/
theorem exactValue?_ofBits {n : ℕ} (hn : n < 2 ^ 64) (h : n / 2 ^ 52 % 2048 ≠ 2047) :
    exactValue? (Float.ofBits (UInt64.ofNat n)) = some (patternValue n) := by
  have hbits : (UInt64.ofNat n).toNat = n := UInt64.toNat_ofNat_of_lt hn
  rw [exactValue?_eq_pattern, toBits_ofBits (by rwa [hbits]), hbits, if_neg h]

/-! ## Unpacked doubles -/

/-- The sign of a double, as the float model writes it. -/
def signOf (x : Float) : Sign := if signBit x then .negative else .positive

/-- The float model reads a finite pattern as a zero when its significand is zero, and as the
pattern's sign, significand and exponent otherwise. -/
theorem unpack_of_finite {x : Float} (h : biasedExponent x ≠ 2047) :
    x.toModel.unpack = if hz : significand x = 0 then .zero (signOf x)
      else .finite (signOf x) (significand x) (binaryExponent x) (Nat.pos_of_ne_zero hz) := by
  -- the three fields the model extracts are the fields of the pattern
  have hE : (@unpackExponent Format.binary64 x.toModel.toBits.toBitVec).toNat = biasedExponent x :=
    toNat_unpackExponent _
  have hM : (@unpackMantissa Format.binary64 x.toModel.toBits.toBitVec).toNat = fractionField x :=
    toNat_unpackMantissa _
  have hS : (@unpackSign Format.binary64 x.toModel.toBits.toBitVec).toNat =
      x.toBits.toNat / 2 ^ 63 % 2 :=
    toNat_unpackSign _
  have hb : biasedExponent x < 2048 := Nat.mod_lt _ (by norm_num)
  have hsign : Sign.ofBitVec (@unpackSign Format.binary64 x.toModel.toBits.toBitVec) = signOf x := by
    unfold Sign.ofBitVec signOf signBit
    by_cases hbit : x.toBits.toNat / 2 ^ 63 % 2 = 1
    · have hne : @unpackSign Format.binary64 x.toModel.toBits.toBitVec ≠ 0#1 := fun h0 => by
        have := congrArg BitVec.toNat h0
        simp only [hS, hbit, BitVec.toNat_ofNat] at this
        omega
      simp only [hne, if_false, Nat.pow_eq, hbit, beq_self_eq_true, if_true]
    · have heq : @unpackSign Format.binary64 x.toModel.toBits.toBitVec = 0#1 :=
        BitVec.eq_of_toNat_eq (by simp only [hS, BitVec.toNat_ofNat]; omega)
      have hbit' : (x.toBits.toNat / Nat.pow 2 63 % 2 == 1) = false := by
        simp only [Nat.pow_eq, beq_eq_false_iff_ne]
        exact hbit
      simp only [heq, if_true, hbit', Bool.false_eq_true, if_false]
  unfold Float.Model.unpack UnpackedFloat.unpack
  dsimp only
  rw [hsign]
  split
  case isTrue hinf =>
    have := congrArg BitVec.toNat hinf
    rw [hE] at this
    exact absurd this h
  case isFalse hinf =>
  split
  case isTrue hzero =>
    -- exponent field zero: a zero or a subnormal, at the smallest exponent
    have hB0 : biasedExponent x = 0 := by rw [← hE, hzero]; rfl
    have hsig : significand x = fractionField x := by rw [significand, if_pos hB0]
    have hexp : binaryExponent x = -1074 := by rw [binaryExponent, if_pos hB0]
    split
    case isTrue hm0 =>
      have hM0 : fractionField x = 0 := by rw [← hM, hm0]; rfl
      rw [dif_pos (by rw [hsig, hM0])]
    case isFalse hm0 =>
      have hMpos : fractionField x ≠ 0 := fun h0 =>
        hm0 (BitVec.eq_of_toNat_eq (by rw [hM, h0]; rfl))
      rw [dif_neg (by rw [hsig]; exact hMpos)]
      simp only [hM, hsig, hexp, hE, hB0]
      rfl
  case isFalse hzero =>
    -- a normal double: the hidden bit joins the fraction
    have hB0 : biasedExponent x ≠ 0 := fun h0 =>
      hzero (BitVec.eq_of_toNat_eq (by rw [hE, h0]; rfl))
    have hsig : significand x = fractionField x + 2 ^ 52 := by
      rw [significand, if_neg hB0]
      rfl
    have hexp : binaryExponent x = (biasedExponent x : ℤ) - 1075 := by
      rw [binaryExponent, if_neg hB0]
    have hfull : (1#1 ++ @unpackMantissa Format.binary64 x.toModel.toBits.toBitVec).toNat =
        fractionField x + 2 ^ 52 := by
      rw [BitVec.toNat_append, ← Nat.shiftLeft_add_eq_or_of_lt
        (@unpackMantissa Format.binary64 x.toModel.toBits.toBitVec).isLt, hM]
      simp only [BitVec.toNat_ofNat, Nat.shiftLeft_eq]
      omega
    rw [dif_neg (by rw [hsig]; omega)]
    simp only [hfull, hsig, hexp, hE]
    rfl

/-- A significand and an exponent in the form a double stores them: fewer than 53 bits, exactly 53
unless the exponent is the smallest, and an exponent a pattern can hold. -/
structure Canonical (m : ℕ) (e : ℤ) : Prop where
  lt : m < 2 ^ 53
  bottom : -1074 ≤ e
  top : e ≤ 971
  normal : 2 ^ 52 ≤ m ∨ e = -1074

theorem canonical_fields {x : Float} (h : biasedExponent x ≠ 2047) :
    Canonical (significand x) (binaryExponent x) := by
  have hb : biasedExponent x < 2048 := Nat.mod_lt _ (by norm_num)
  have hf : fractionField x < 2 ^ 52 := Nat.mod_lt _ (by decide)
  unfold significand binaryExponent
  split
  case isTrue hz => exact ⟨by omega, le_refl _, by norm_num, .inr rfl⟩
  case isFalse hz =>
    simp only [Nat.pow_eq]
    exact ⟨by omega, by omega, by omega, .inl (by omega)⟩

/-- The exact value of an unpacked double; `none` for the infinities and not-a-number. -/
def unpackedValue? : UnpackedFloat → Option ℚ
  | .finite s m e _ => some ((s.apply m : ℚ) * 2 ^ e)
  | .zero _ => some 0
  | _ => none

theorem apply_signOf (x : Float) (m : ℕ) :
    ((signOf x).apply m : ℚ) = (if signBit x then -1 else 1) * m := by
  unfold signOf
  cases signBit x <;> simp [Sign.apply]

/-- The exact value of a double is the value of its unpacked double. -/
theorem exactValue?_eq_unpack (x : Float) : exactValue? x = unpackedValue? x.toModel.unpack := by
  by_cases h : biasedExponent x = 2047
  · -- an infinity or not-a-number: the model reads neither as finite
    have hE := toNat_unpackExponent x.toModel.toBits.toBitVec
    have hinf : @unpackExponent Format.binary64 x.toModel.toBits.toBitVec = -1#11 :=
      BitVec.eq_of_toNat_eq (by rw [hE]; exact h)
    rw [exactValue?, if_pos h, Float.Model.unpack, UnpackedFloat.unpack]
    simp only [hinf, if_true]
    split <;> rfl
  · rw [exactValue?, if_neg h, unpack_of_finite h]
    by_cases hz : significand x = 0
    · rw [dif_pos hz]
      simp [unpackedValue?, hz]
    · rw [dif_neg hz]
      simp only [unpackedValue?, apply_signOf, mul_assoc]

theorem biasedExponent_ne_of_exactValue {x : Float} {q : ℚ} (hx : exactValue? x = some q) :
    biasedExponent x ≠ 2047 := by
  intro h
  rw [exactValue?, if_pos h] at hx
  cases hx

/-! ## Order -/

/-- Between canonical forms, the smaller exponent has the smaller value: the other significand
has all 53 bits. -/
theorem value_lt_of_exponent_lt {m₁ m₂ : ℕ} {e₁ e₂ : ℤ} (h₁ : Canonical m₁ e₁)
    (h₂ : Canonical m₂ e₂) (he : e₁ < e₂) : (m₁ : ℚ) * 2 ^ e₁ < m₂ * 2 ^ e₂ := by
  have hm₂ : (2 : ℚ) ^ 52 ≤ m₂ := by
    rcases h₂.normal with h | h
    · exact_mod_cast h
    · exact absurd h (by have := h₁.bottom; omega)
  have hm₁ : (m₁ : ℚ) < 2 ^ 53 := by exact_mod_cast h₁.lt
  calc (m₁ : ℚ) * 2 ^ e₁ < 2 ^ 53 * 2 ^ e₁ := by gcongr
    _ = 2 ^ 52 * 2 ^ (e₁ + 1) := by rw [zpow_add₀ two_ne_zero]; ring
    _ ≤ 2 ^ 52 * 2 ^ e₂ := by gcongr <;> [norm_num; omega]
    _ ≤ m₂ * 2 ^ e₂ := by gcongr

/-- The model compares canonical forms by exponent first and significand second; that is the
order of their values. -/
theorem isLE_compare_canonical {m₁ m₂ : ℕ} {e₁ e₂ : ℤ} (h₁ : Canonical m₁ e₁)
    (h₂ : Canonical m₂ e₂) :
    ((compare e₁ e₂).then (compare m₁ m₂)).isLE = true ↔ (m₁ : ℚ) * 2 ^ e₁ ≤ m₂ * 2 ^ e₂ := by
  rcases lt_trichotomy e₁ e₂ with he | rfl | he
  · rw [(compare_lt_iff_lt).2 he]
    exact iff_of_true rfl (value_lt_of_exponent_lt h₁ h₂ he).le
  · have hpos : (0 : ℚ) < 2 ^ e₁ := zpow_pos two_pos _
    rw [compare_eq_iff_eq.2 rfl, Ordering.eq_then, Ordering.isLE_iff_ne_gt, compare_gt_iff_gt,
      mul_le_mul_iff_left₀ hpos, Nat.cast_le, not_lt]
  · rw [(compare_gt_iff_gt).2 he]
    exact iff_of_false Bool.false_ne_true (not_le.2 (value_lt_of_exponent_lt h₂ h₁ he))

/-- An unpacked double in the form the model keeps: a finite one is canonical. -/
def UnpackedCanonical : UnpackedFloat → Prop
  | .finite _ m e _ => Canonical m e
  | _ => True

theorem unpackedCanonical_of_finite {x : Float} (h : biasedExponent x ≠ 2047) :
    UnpackedCanonical x.toModel.unpack := by
  rw [unpack_of_finite h]
  split
  · trivial
  · exact canonical_fields h

/-- The model's order on canonical finite unpacked doubles is the order of their values. -/
theorem unpacked_le_iff {a b : UnpackedFloat} {p q : ℚ} (ha : UnpackedCanonical a)
    (hb : UnpackedCanonical b) (hp : unpackedValue? a = some p) (hq : unpackedValue? b = some q) :
    a.le b = true ↔ p ≤ q := by
  have hpos : ∀ (m : ℕ) (e : ℤ), 0 < m → (0 : ℚ) < m * 2 ^ e := fun m e hm => by positivity
  cases a with
  | infinity s => cases hp
  | notANumber => cases hp
  | zero s =>
    obtain rfl : (0 : ℚ) = p := Option.some.inj hp
    cases b with
    | infinity t => cases hq
    | notANumber => cases hq
    | zero t =>
      obtain rfl : (0 : ℚ) = q := Option.some.inj hq
      exact iff_of_true rfl le_rfl
    | finite t m e hm =>
      cases hq
      cases t
      · exact iff_of_false Bool.false_ne_true (by simpa [Sign.apply] using hpos m e hm)
      · exact iff_of_true rfl (by simpa [Sign.apply] using (hpos m e hm).le)
  | finite s m₁ e₁ hm₁ =>
    cases hp
    cases b with
    | infinity t => cases hq
    | notANumber => cases hq
    | zero t =>
      obtain rfl : (0 : ℚ) = q := Option.some.inj hq
      cases s
      · exact iff_of_true rfl (by simpa [Sign.apply] using (hpos m₁ e₁ hm₁).le)
      · exact iff_of_false Bool.false_ne_true (by simpa [Sign.apply] using hpos m₁ e₁ hm₁)
    | finite t m₂ e₂ hm₂ =>
      cases hq
      -- opposite signs are ordered by sign; equal signs by the canonical comparison
      cases s <;> cases t
      · simp only [UnpackedFloat.le, UnpackedFloat.compare, Option.any_some, Ordering.isLE_swap,
          Sign.apply, Int.cast_neg, Int.cast_natCast, neg_mul, neg_le_neg_iff]
        rw [← Ordering.isLE_swap, Ordering.swap_then, Int.compare_swap, Nat.compare_swap]
        exact isLE_compare_canonical hb ha
      · exact iff_of_true rfl (by
          simp only [Sign.apply, Int.cast_neg, Int.cast_natCast, neg_mul]
          linarith [hpos m₁ e₁ hm₁, hpos m₂ e₂ hm₂])
      · exact iff_of_false Bool.false_ne_true (by
          simp only [Sign.apply, Int.cast_neg, Int.cast_natCast, neg_mul, not_le]
          linarith [hpos m₁ e₁ hm₁, hpos m₂ e₂ hm₂])
      · simp only [UnpackedFloat.le, UnpackedFloat.compare, Option.any_some, Sign.apply,
          Int.cast_natCast]
        exact isLE_compare_canonical ha hb

/-- Finite doubles compare as their exact values. -/
theorem le_iff_value {x y : Float} {p q : ℚ} (hx : exactValue? x = some p)
    (hy : exactValue? y = some q) : x ≤ y ↔ p ≤ q := by
  rw [le_iff_unpack]
  rw [exactValue?_eq_unpack] at hx hy
  exact unpacked_le_iff (unpackedCanonical_of_finite (biasedExponent_ne_of_exactValue
    (by rwa [exactValue?_eq_unpack]))) (unpackedCanonical_of_finite
    (biasedExponent_ne_of_exactValue (by rwa [exactValue?_eq_unpack]))) hx hy

end Model

/-! ## Rounding to whole numbers -/

/-- A rational rounded to the nearest integer, halves away from zero. -/
def halfAway (q : ℚ) : ℤ := if 0 ≤ q then round q else -round (-q)

/-- The sign of a pattern as a factor: `-1` when the sign bit `S` is set. -/
def signFactor (S : ℕ) : ℚ := if S = 1 then -1 else 1

theorem halfAway_signed {S : ℕ} {v : ℚ} (hv : 0 ≤ v) :
    (halfAway (signFactor S * v) : ℚ) = signFactor S * (round v : ℤ) := by
  unfold halfAway signFactor
  split
  case isTrue hS =>
    rcases hv.lt_or_eq with hpos | rfl
    · rw [if_neg (by linarith)]
      push_cast
      simp only [neg_mul, one_mul, neg_neg]
    · simp
  case isFalse hS => simp [hv]

/-- The value of a pattern splits into its sign bit and the pattern of its magnitude. -/
theorem patternValue_signed {S k : ℕ} (hS : S < 2) (hk : k < 2 ^ 63) :
    patternValue (S * 2 ^ 63 + k) = signFactor S * patternValue k := by
  have hB : (S * 2 ^ 63 + k) / 2 ^ 52 % 2048 = k / 2 ^ 52 % 2048 := by omega
  have hF : (S * 2 ^ 63 + k) % 2 ^ 52 = k % 2 ^ 52 := by omega
  have hsign : (S * 2 ^ 63 + k) / 2 ^ 63 % 2 = S := by omega
  have hk0 : k / 2 ^ 63 % 2 = 0 := by omega
  simp only [patternValue, patternSign, patternSignificand, patternExponent, hB, hF, hsign, hk0,
    signFactor, beq_iff_eq]
  simp

/-- The value of a magnitude pattern with a nonzero exponent field. -/
theorem patternValue_normal {k : ℕ} (hk : k < 2 ^ 63) (hB : k / 2 ^ 52 ≠ 0) :
    patternValue k = ((k % 2 ^ 52 + 2 ^ 52 : ℕ) : ℚ) * 2 ^ (((k / 2 ^ 52 : ℕ) : ℤ) - 1075) := by
  have hmod : k / 2 ^ 52 % 2048 = k / 2 ^ 52 := Nat.mod_eq_of_lt (by omega)
  have hsign : k / 2 ^ 63 % 2 = 0 := by omega
  simp only [patternValue, patternSign, patternSignificand, patternExponent, hmod, hsign, hB,
    beq_iff_eq, if_false]
  simp

theorem patternValue_nonneg {k : ℕ} (hk : k < 2 ^ 63) : 0 ≤ patternValue k := by
  have hsign : k / 2 ^ 63 % 2 = 0 := by omega
  simp only [patternValue, patternSign, hsign, beq_iff_eq]
  simp only [zero_ne_one, if_false, one_mul]
  positivity

/-- A magnitude below the exponent of one half is below one half. -/
theorem patternValue_lt_half {k : ℕ} (hk : k < 2 ^ 63) (hB : k / 2 ^ 52 < 1022) :
    patternValue k < 1 / 2 := by
  have hmod : k / 2 ^ 52 % 2048 = k / 2 ^ 52 := Nat.mod_eq_of_lt (by omega)
  have hsign : k / 2 ^ 63 % 2 = 0 := by omega
  have hsig : patternSignificand k < 2 ^ 53 := by
    unfold patternSignificand
    split <;> omega
  have hexp : patternExponent k ≤ -54 := by
    unfold patternExponent
    split <;> omega
  have hsigq : (patternSignificand k : ℚ) < 2 ^ 53 := by exact_mod_cast hsig
  simp only [patternValue, patternSign, hsign, beq_iff_eq, zero_ne_one, if_false, one_mul]
  calc (patternSignificand k : ℚ) * 2 ^ patternExponent k ≤ patternSignificand k * 2 ^ (-54 : ℤ) := by
        gcongr
        norm_num
    _ < 2 ^ 53 * 2 ^ (-54 : ℤ) := by gcongr
    _ = 1 / 2 := by norm_num

/-- A magnitude with the exponent of one half lies in `[1/2, 1)`. -/
theorem patternValue_half {k : ℕ} (hk : k < 2 ^ 63) (hB : k / 2 ^ 52 = 1022) :
    1 / 2 ≤ patternValue k ∧ patternValue k < 1 := by
  have hF : ((k % 2 ^ 52 : ℕ) : ℚ) < 2 ^ 52 := by exact_mod_cast Nat.mod_lt k (by positivity)
  have hF0 : (0 : ℚ) ≤ (k % 2 ^ 52 : ℕ) := by positivity
  have h53 : (2 : ℚ) ^ (((1022 : ℕ) : ℤ) - 1075) = 1 / 2 ^ 53 := by norm_num
  rw [patternValue_normal hk (by omega), hB, h53, Nat.cast_add]
  generalize ((k % 2 ^ 52 : ℕ) : ℚ) = F at hF hF0 ⊢
  constructor <;> linarith

/-- A magnitude with an exponent of at least `2^52` units is a whole number. -/
theorem patternValue_whole {k : ℕ} (hk : k < 2 ^ 63) (hB : 1075 ≤ k / 2 ^ 52) :
    patternValue k = ((k % 2 ^ 52 + 2 ^ 52) * 2 ^ (k / 2 ^ 52 - 1075) : ℕ) := by
  rw [patternValue_normal hk (by omega)]
  have he : ((k / 2 ^ 52 : ℕ) : ℤ) - 1075 = ((k / 2 ^ 52 - 1075 : ℕ) : ℤ) := by omega
  rw [he, zpow_natCast]
  push_cast
  ring

/-- The value of a magnitude pattern given by its exponent field `B` and fraction `G`. -/
theorem patternValue_fields {B G : ℕ} (hB0 : B ≠ 0) (hB : B < 2048) (hG : G < 2 ^ 52) :
    patternValue (B * 2 ^ 52 + G) = ((G + 2 ^ 52 : ℕ) : ℚ) * 2 ^ ((B : ℤ) - 1075) := by
  have hdiv : (B * 2 ^ 52 + G) / 2 ^ 52 = B := by omega
  have hmod : (B * 2 ^ 52 + G) % 2 ^ 52 = G := by omega
  rw [patternValue_normal (by omega) (by omega), hdiv, hmod]

/-- A magnitude with a fraction, rounded the way the bits do it: half the weight `u` of its
lowest whole bit is added and the bits below `u` are cleared. What is left is the pattern of the
magnitude rounded, halves up, and it still has a clear sign bit. -/
theorem patternValue_roundUp {k : ℕ} (hk : k < 2 ^ 63) (hlo : 1023 ≤ k / 2 ^ 52)
    (hhi : k / 2 ^ 52 < 1075) :
    let u := 2 ^ (1075 - k / 2 ^ 52)
    (k + u / 2) - (k + u / 2) % u < 1076 * 2 ^ 52 ∧
      patternValue ((k + u / 2) - (k + u / 2) % u) = (round (patternValue k) : ℚ) := by
  intro u
  obtain ⟨B, hB⟩ : ∃ B, B = k / 2 ^ 52 := ⟨_, rfl⟩
  obtain ⟨F, hF⟩ : ∃ F, F = k % 2 ^ 52 := ⟨_, rfl⟩
  obtain ⟨j, hj⟩ : ∃ j, j = 1075 - B := ⟨_, rfl⟩
  have hu : u = 2 ^ j := by rw [hj, hB]
  clear_value u
  have hkBF : k = B * 2 ^ 52 + F := by omega
  have hvalue : patternValue k = ((F + 2 ^ 52 : ℕ) : ℚ) * 2 ^ ((B : ℤ) - 1075) := by
    rw [hkBF]
    exact patternValue_fields (by omega) (by omega) (by omega)
  have hlo' : 1023 ≤ B := by omega
  have hhi' : B < 1075 := by omega
  have hFlt : F < 2 ^ 52 := by omega
  subst hkBF
  clear hB hF hk hlo hhi
  -- `u = 2^j` with `1 ≤ j ≤ 52` divides `2^52 = a · u`; `R` is the fraction rounded, in units of `u`
  have hupos : 0 < u := by rw [hu]; positivity
  have hhalf : u = 2 * (u / 2) := by
    rw [hu, show j = (j - 1) + 1 by omega, pow_succ]
    omega
  obtain ⟨a, ha⟩ : ∃ a, a = 2 ^ (52 - j) := ⟨_, rfl⟩
  have hau : 2 ^ 52 = a * u := by rw [ha, hu, ← pow_add]; congr 1; omega
  obtain ⟨R, hR⟩ : ∃ R, R = (F + u / 2) / u := ⟨_, rfl⟩
  have hdiv : (F + u / 2) % u + u * R = F + u / 2 := by rw [hR]; exact Nat.mod_add_div _ _
  have hmod : (B * 2 ^ 52 + F + u / 2) % u = (F + u / 2) % u := by
    rw [hau, show B * (a * u) + F + u / 2 = (F + u / 2) + (B * a) * u by ring,
      Nat.add_mul_mod_self_right]
  have hres : (B * 2 ^ 52 + F + u / 2) - (B * 2 ^ 52 + F + u / 2) % u = B * 2 ^ 52 + R * u := by
    rw [hmod, Nat.mul_comm R u]
    omega
  have hRle : R ≤ a := by
    have hlt : u * R < u * (a + 1) := by
      have : u * R ≤ F + u / 2 := by omega
      have : u * (a + 1) = a * u + u := by ring
      omega
    exact Nat.le_of_lt_succ (Nat.lt_of_mul_lt_mul_left hlt)
  have huq : (u : ℚ) ≠ 0 := by exact_mod_cast hupos.ne'
  have hexp : (2 : ℚ) ^ ((B : ℤ) - 1075) = 1 / (u : ℚ) := by
    rw [show (B : ℤ) - 1075 = -(j : ℤ) by omega, zpow_neg, zpow_natCast, hu]
    push_cast
    ring
  -- the magnitude rounded is `a + R` whole units
  have hround : round (patternValue (B * 2 ^ 52 + F)) = ((a + R : ℕ) : ℤ) := by
    have hu2 : ((u / 2 : ℕ) : ℚ) = (u : ℚ) / 2 := by
      rw [hhalf, Nat.mul_div_cancel_left _ two_pos]
      push_cast
      ring
    have hsum : ((F + 2 ^ 52 : ℕ) : ℚ) * (1 / (u : ℚ)) + 1 / 2 =
        ((F + u / 2 + a * u : ℕ) : ℚ) / (u : ℚ) := by
      rw [hau]
      push_cast
      rw [hu2]
      field_simp
      ring
    rw [hvalue, round_eq, hexp, hsum, Rat.floor_natCast_div_natCast, ← Int.natCast_div,
      Nat.add_mul_div_right _ _ hupos, ← hR, Nat.add_comm]
  rw [show B * 2 ^ 52 + F + u / 2 = B * 2 ^ 52 + F + u / 2 from rfl, hres, hround]
  rcases hRle.lt_or_eq with hlt | rfl
  · -- no carry: the exponent field stays `B`
    have hG : R * u < 2 ^ 52 := by rw [hau]; exact Nat.mul_lt_mul_of_pos_right hlt hupos
    refine ⟨by omega, ?_⟩
    rw [patternValue_fields (by omega) (by omega) hG, hexp, hau]
    push_cast
    field_simp
    ring
  · -- a carry: the fraction is cleared and the exponent field becomes `B + 1`
    have hcarry : B * 2 ^ 52 + R * u = (B + 1) * 2 ^ 52 + 0 := by rw [hau]; ring
    refine ⟨by omega, ?_⟩
    have hexp' : (2 : ℚ) ^ (((B + 1 : ℕ) : ℤ) - 1075) = 2 / (u : ℚ) := by
      rw [show ((B + 1 : ℕ) : ℤ) - 1075 = ((B : ℤ) - 1075) + 1 by push_cast; ring,
        zpow_add₀ two_ne_zero, hexp]
      ring
    rw [hcarry, patternValue_fields (by omega) (by omega) (by norm_num), hexp', hau]
    push_cast
    field_simp
    ring

theorem patternValue_zero : patternValue 0 = 0 := by
  simp [patternValue, patternSignificand]

/-- Rounding a finite double gives a finite double whose value is the exact value rounded to
the nearest whole number, halves away from zero. -/
theorem exactValue?_roundHalfAway {x : Float} {q : ℚ} (hx : exactValue? x = some q) :
    exactValue? (roundHalfAway x) = some ((halfAway q : ℤ) : ℚ) := by
  have hfin : ¬x.toBits.toNat / 2 ^ 52 % 2048 = 2047 := biasedExponent_ne_of_exactValue hx
  rw [exactValue?_eq_pattern, if_neg hfin] at hx
  obtain rfl := Option.some.inj hx
  -- the pattern is a sign bit `S` over a magnitude pattern `k`
  obtain ⟨n, hn⟩ : ∃ n, n = x.toBits.toNat := ⟨_, rfl⟩
  have hlt : n < 2 ^ 64 := hn ▸ x.toBits.toNat_lt
  obtain ⟨S, hS⟩ : ∃ S, S = n / 2 ^ 63 := ⟨_, rfl⟩
  obtain ⟨k, hk⟩ : ∃ k, k = n % 2 ^ 63 := ⟨_, rfl⟩
  have hS2 : S < 2 := by omega
  have hk63 : k < 2 ^ 63 := by omega
  have hnk : n = S * 2 ^ 63 + k := by omega
  have hbiased : n / 2 ^ 52 % 2048 = k / 2 ^ 52 := by omega
  have hsignpart : n / 2 ^ 63 * 2 ^ 63 = S * 2 ^ 63 := by rw [hS]
  have hv := patternValue_nonneg hk63
  unfold roundHalfAway
  simp only [Nat.pow_eq, ← hn, hbiased, hsignpart]
  rw [hnk, patternValue_signed hS2 hk63, halfAway_signed hv]
  by_cases hsmall : k / 2 ^ 52 < 1022
  · -- below one half: a zero with the sign
    have hzero : patternValue (S * 2 ^ 63) = 0 := by
      have := @patternValue_signed S 0 hS2 (by norm_num)
      rwa [Nat.add_zero, patternValue_zero, mul_zero] at this
    rw [if_pos hsmall, exactValue?_ofBits (by omega) (by omega), hzero,
      round_eq_zero_iff.2 ⟨by linarith, patternValue_lt_half hk63 hsmall⟩]
    simp
  rw [if_neg hsmall]
  by_cases hhalf : k / 2 ^ 52 = 1022
  · -- in `[1/2, 1)`: a one with the sign
    have hone : round (patternValue k) = 1 := by
      obtain ⟨h₁, h₂⟩ := patternValue_half hk63 hhalf
      rw [round_eq, Int.floor_eq_iff]
      constructor <;> push_cast <;> linarith
    have hpat : patternValue (1023 * 2 ^ 52) = 1 := by
      have := @patternValue_fields 1023 0 (by norm_num) (by norm_num) (by norm_num)
      rw [Nat.add_zero] at this
      rw [this]
      norm_num
    rw [if_pos hhalf, exactValue?_ofBits (by omega) (by omega),
      patternValue_signed hS2 (by norm_num), hpat, hone]
    simp
  rw [if_neg hhalf]
  by_cases hmid : k / 2 ^ 52 < 1075
  · -- a fraction: half a unit added, the fraction cleared
    rw [if_pos hmid]
    obtain ⟨hlt', hval⟩ := patternValue_roundUp hk63 (by omega) hmid
    obtain ⟨j, hj⟩ : ∃ j, j = 1075 - k / 2 ^ 52 := ⟨_, rfl⟩
    rw [← hj] at hlt' hval ⊢
    -- the sign part is a multiple of the unit, so clearing below the unit leaves it
    obtain ⟨c, hc⟩ : ∃ c, S * 2 ^ 63 = c * 2 ^ j :=
      ⟨S * 2 ^ (63 - j), by rw [mul_assoc, ← pow_add]; congr 2; omega⟩
    have hmod : (S * 2 ^ 63 + k + 2 ^ j / 2) % 2 ^ j = (k + 2 ^ j / 2) % 2 ^ j := by
      rw [hc, show c * 2 ^ j + k + 2 ^ j / 2 = (k + 2 ^ j / 2) + c * 2 ^ j by ring,
        Nat.add_mul_mod_self_right]
    have hsplit : S * 2 ^ 63 + k + 2 ^ j / 2 - (S * 2 ^ 63 + k + 2 ^ j / 2) % 2 ^ j =
        S * 2 ^ 63 + ((k + 2 ^ j / 2) - (k + 2 ^ j / 2) % 2 ^ j) := by
      rw [hmod]
      have := Nat.mod_le (k + 2 ^ j / 2) (2 ^ j)
      omega
    rw [hsplit, exactValue?_ofBits (by omega) (by omega), patternValue_signed hS2 (by omega), hval]
  · -- a whole number, an infinity or not-a-number: left as it is
    rw [if_neg hmid, exactValue?_eq_pattern, if_neg hfin, ← hn, hnk, patternValue_signed hS2 hk63,
      patternValue_whole hk63 (by omega), round_natCast, Int.cast_natCast]

/-- The infinities and not-a-number are left as they are. -/
theorem roundHalfAway_of_not_finite {x : Float} (h : biasedExponent x = 2047) :
    roundHalfAway x = x := by
  have hb : x.toBits.toNat / Nat.pow 2 52 % 2048 = 2047 := h
  unfold roundHalfAway
  simp only [hb]
  rfl

theorem halfAway_of_nonneg {q : ℚ} (h : 0 ≤ q) : halfAway q = round q := if_pos h

/-- The integer part of a double holding a whole number that fits is that number. -/
theorem truncateToInt64_of_whole {x : Float} {z : ℤ} (hx : exactValue? x = some (z : ℚ))
    (h0 : 0 ≤ z) (hz : z ≤ 4096) : truncateToInt64 x = z := by
  rw [truncateToInt64_eq hx, towardZero_intCast, toWord, if_pos]
  constructor
  · exact le_trans (by decide) h0
  · exact lt_of_le_of_lt hz (by decide)

end Theming.Number
