import Mathlib
import Theming.Number.Read

/-!
# Doubles: order against zero and finite results

Lean's `Float` is given meaning by its model: a bit pattern read as an `UnpackedFloat`, which is
not-a-number, a signed infinity, a signed zero, or a finite double `± m · 2^e`. Comparisons look
at the unpacked values, and every operation unpacks its operands, works on the unpacked values and
packs the result.

Two groups of facts are read off that model here.

* Order against zero: a double that is not at most zero is not a number or is positive
  (`not_le_zero_iff`). A check `x ≤ 0` therefore lets not-a-number through.
* Finite results: rounding never gives not-a-number, so neither does a decimal `m · 10^e`
  (`isNaN_ofScientific`); negation keeps a double finite (`isFinite_neg`); and a decimal that the
  number reader accepts is finite (`scaleDecimal_isFinite`), since the reader refuses an infinite
  one as out of range. A text written with signs, digits, points and exponent letters only is
  therefore read as a finite double (`readFloat_isFinite`): the special words and hexadecimal
  mantissas need letters it does not have.
-/

set_option autoImplicit false

namespace Theming.Number

open Float.Model Float.Model.UnpackedFloat

/-! ## Reading doubles through their unpacked values -/

theorem zero_unpack : (0 : Float).toModel.unpack = .zero .positive := by rfl

theorem le_iff_unpack (x y : Float) : x ≤ y ↔ x.toModel.unpack.le y.toModel.unpack = true := by
  show decide _ = true ↔ _
  rw [decide_eq_true_eq]
  rfl

theorem lt_iff_unpack (x y : Float) : x < y ↔ x.toModel.unpack.lt y.toModel.unpack = true := by
  show decide _ = true ↔ _
  rw [decide_eq_true_eq]
  rfl

theorem isNaN_eq_unpack (x : Float) : x.isNaN = x.toModel.unpack.isNaN := rfl

theorem isFinite_eq_unpack (x : Float) : x.isFinite = x.toModel.unpack.isFinite := rfl

theorem unpack_pack (u : UnpackedFloat) :
    (Float.Model.pack u).unpack =
      UnpackedFloat.unpack Format.binary64 (UnpackedFloat.pack Format.binary64 u) := by
  simp only [Float.Model.unpack, Float.Model.pack, UInt64.toBitVec_ofBitVec]

/-- A bit pattern whose exponent field is not all ones is a number. -/
theorem unpack_isNaN_of_exponent {b : BitVec Format.binary64.numBits}
    (h : unpackExponent b ≠ -1#_) : (UnpackedFloat.unpack Format.binary64 b).isNaN = false := by
  unfold UnpackedFloat.unpack
  simp only [h, if_false]
  split
  · split <;> rfl
  · rfl

/-- A bit pattern whose exponent field is not all ones is a finite double. -/
theorem unpack_isFinite_of_exponent {b : BitVec Format.binary64.numBits}
    (h : unpackExponent b ≠ -1#_) : (UnpackedFloat.unpack Format.binary64 b).isFinite = true := by
  unfold UnpackedFloat.unpack
  simp only [h, if_false]
  split
  · split <;> rfl
  · rfl

/-- Packing turns nothing but not-a-number into not-a-number: a finite double is packed with an
exponent field below all ones, or overflows to an infinity. -/
theorem isNaN_pack (u : UnpackedFloat) : (Float.Model.pack u).unpack.isNaN = u.isNaN := by
  rw [unpack_pack]
  cases u with
  | notANumber => rfl
  | infinity s => cases s <;> rfl
  | zero s => cases s <;> rfl
  | finite s m e hm =>
    unfold UnpackedFloat.pack
    dsimp only
    split
    case isTrue => cases s <;> rfl
    case isFalse hbig =>
      split
      · apply unpack_isNaN_of_exponent
        rw [unpackExponent_packComponents]
        intro h
        have := congrArg BitVec.toNat h
        simp [Format.exponentBias] at this hbig
        omega
      · apply unpack_isNaN_of_exponent
        rw [unpackExponent_packComponents]
        decide

/-- The exponent of a finite double read from bits is at most `971`: the largest biased exponent
field, `2046`, less the bias and the width of the mantissa. -/
theorem unpack_finite_exponent_le {b : BitVec Format.binary64.numBits} {s : UnpackedFloat.Sign}
    {m : Nat} {e : Int} {hm : 0 < m}
    (h : UnpackedFloat.unpack Format.binary64 b = .finite s m e hm) : e ≤ 971 := by
  have hlt := (@unpackExponent Format.binary64 b).isLt
  unfold UnpackedFloat.unpack at h
  dsimp only at h
  split at h
  · split at h <;> cases h
  · rename_i hmax
    have hne : (@unpackExponent Format.binary64 b).toNat ≠ 2047 := fun heq =>
      hmax (BitVec.eq_of_toNat_eq (by simpa using heq))
    split at h
    · -- a subnormal double has the smallest exponent
      rename_i hzero
      split at h
      · cases h
      · cases h
        simp [hzero, Format.exponentBias]
    · cases h
      simp [Format.exponentBias] at hlt ⊢
      omega

/-- A finite double with an exponent that a bit pattern can hold packs to a finite double. -/
theorem isFinite_pack_finite {s : UnpackedFloat.Sign} {m : Nat} {e : Int} {hm : 0 < m}
    (he : e ≤ 971) : (Float.Model.pack (.finite s m e hm)).unpack.isFinite = true := by
  rw [unpack_pack]
  unfold UnpackedFloat.pack
  dsimp only
  split
  case isTrue hbig =>
    simp [Format.exponentBias] at hbig
    omega
  case isFalse hbig =>
    split
    · apply unpack_isFinite_of_exponent
      rw [unpackExponent_packComponents]
      intro h
      have := congrArg BitVec.toNat h
      simp [Format.exponentBias] at this hbig
      omega
    · apply unpack_isFinite_of_exponent
      rw [unpackExponent_packComponents]
      decide

/-! ## Rounding never gives not-a-number -/

theorem roundWithAccuracy_isNaN (spec : Format) (s : UnpackedFloat.Sign) (m : Nat) (e : Int)
    (acc : Accuracy) : (roundWithAccuracy spec s m e acc).isNaN = false := by
  simp only [roundWithAccuracy]
  split <;> rfl

theorem ofNat_isNaN (spec : Format) (n : Nat) : (UnpackedFloat.ofNat spec n).isNaN = false := by
  simp only [UnpackedFloat.ofNat, UnpackedFloat.ofInt, UnpackedFloat.normalize]
  split
  · exact roundWithAccuracy_isNaN _ _ _ _ _
  · rfl
  · exact roundWithAccuracy_isNaN _ _ _ _ _

/-- Whether an unpacked double is finite and not zero. -/
def finiteNonzero : UnpackedFloat → Bool
  | .finite .. => true
  | _ => false

/-- A product by a finite double that is not zero is a number whenever the other factor is:
only an infinity times a zero gives not-a-number. -/
theorem mul_isNaN {spec : Format} {a b : UnpackedFloat} (ha : a.isNaN = false)
    (hb : finiteNonzero b = true) : (UnpackedFloat.mul spec a b).isNaN = false := by
  cases b with
  | finite s m e hm =>
    cases a with
    | notANumber => cases ha
    | infinity => rfl
    | zero => rfl
    | finite => exact roundWithAccuracy_isNaN _ _ _ _ _
  | _ => cases hb

/-- A quotient by a finite double that is not zero is a number whenever the dividend is. -/
theorem div_isNaN {spec : Format} {a b : UnpackedFloat} (ha : a.isNaN = false)
    (hb : finiteNonzero b = true) : (UnpackedFloat.div spec a b).isNaN = false := by
  cases b with
  | finite s m e hm =>
    cases a with
    | notANumber => cases ha
    | infinity => rfl
    | zero => rfl
    | finite => exact roundWithAccuracy_isNaN _ _ _ _ _
  | _ => cases hb

theorem ofScientific_isNaN (spec : Format) (m : Nat) (e : Int) :
    (UnpackedFloat.ofScientific spec m e).isNaN = false := by
  unfold UnpackedFloat.ofScientific
  split_ifs
  · rfl
  · rfl
  · rfl
  · exact mul_isNaN rfl rfl
  · exact div_isNaN rfl rfl

/-- The powers of ten that the fast conversion divides or multiplies by are finite and not
zero. -/
theorem powersOfTen_finiteNonzero :
    Float.exactlyRepresentablePowersOfTen.all (fun x => finiteNonzero x.toModel.unpack) = true := by
  decide +kernel

/-- A decimal `m · 10^±e` is never not-a-number, by either the fast conversion (a whole number
times or over an exact power of ten) or the exact one. -/
theorem isNaN_ofScientific (m : Nat) (s : Bool) (e : Nat) :
    (Float.ofScientific m s e).isNaN = false := by
  unfold Float.ofScientific
  split
  case isTrue h =>
    have hp := Array.all_eq_true.1 powersOfTen_finiteNonzero e
      (by simp [Float.exactlyRepresentablePowersOfTen]; omega)
    have hm : (m.toUInt64.toFloat).toModel.unpack.isNaN = false := by
      show (Float.Model.pack _).unpack.isNaN = false
      rw [isNaN_pack]
      exact ofNat_isNaN _ _
    split
    · show (Float.Model.pack _).unpack.isNaN = false
      rw [isNaN_pack]
      exact div_isNaN hm hp
    · show (Float.Model.pack _).unpack.isNaN = false
      rw [isNaN_pack]
      exact mul_isNaN hm hp
  case isFalse =>
    show (Float.Model.pack _).unpack.isNaN = false
    rw [isNaN_pack]
    exact ofScientific_isNaN _ _ _

/-! ## Finite doubles -/

theorem isFinite_iff (x : Float) : x.isFinite = true ↔ x.isInf = false ∧ x.isNaN = false := by
  show x.toModel.unpack.isFinite = true ↔
    x.toModel.unpack.isInf = false ∧ x.toModel.unpack.isNaN = false
  cases x.toModel.unpack <;> simp [UnpackedFloat.isFinite, UnpackedFloat.isInf, UnpackedFloat.isNaN]

/-- Negation keeps a double finite: it flips the sign and packs the same magnitude again. -/
theorem isFinite_neg (x : Float) : (-x).isFinite = x.isFinite := by
  show (Float.Model.pack x.toModel.unpack.neg).unpack.isFinite = x.toModel.unpack.isFinite
  cases hu : x.toModel.unpack with
  | notANumber => rfl
  | infinity s => cases s <;> rfl
  | zero s => cases s <;> rfl
  | finite s m e hm => exact isFinite_pack_finite (unpack_finite_exponent_le hu)

theorem isFinite_signed (negative : Bool) (x : Float) :
    (if negative then -x else x).isFinite = x.isFinite := by
  split
  · exact isFinite_neg x
  · rfl

/-- What the number reader gives for a decimal is finite: zero, or a rounded `m · 10^e` that it
has checked is no infinity, with its sign. -/
theorem scaleDecimal_isFinite {negative : Bool} {m : Nat} {e : Int} {x : Float}
    (h : scaleDecimal negative m e = .ok x) : x.isFinite = true := by
  have hzero : (0 : Float).isFinite = true := rfl
  unfold scaleDecimal at h
  dsimp only at h
  split at h
  · cases h
    rw [isFinite_signed, hzero]
  · split at h
    · cases h
    · split at h
      · cases h
        rw [isFinite_signed, hzero]
      · -- a rounded decimal, refused when it is an infinity, else given its sign
        split at h <;> split at h <;> cases h
        all_goals
          rename_i hinf
          rw [isFinite_signed, isFinite_iff]
          exact ⟨by simpa using hinf, isNaN_ofScientific _ _ _⟩

/-! ## Decimal text is read as a finite double -/

/-- The characters of a decimal number: signs, the point, digits and the exponent letters. -/
def isDecimalChar (c : Char) : Bool :=
  c == '+' || c == '-' || c == '.' || c.isDigit || c == 'e' || c == 'E'

theorem isDecimalChar_not_x {c : Char} (h : isDecimalChar c = true) :
    (c == 'x' || c == 'X') = false := by
  rw [Bool.or_eq_false_iff]
  constructor <;> (rw [beq_eq_false_iff_ne]; rintro rfl; revert h; decide)

/-- A digit is its own lower case. -/
theorem toLower_of_isDigit {c : Char} (h : c.isDigit = true) : c.toLower = c := by
  simp only [Char.isDigit, Bool.and_eq_true, decide_eq_true_eq] at h
  unfold Char.toLower
  rw [dif_neg]
  rintro ⟨hA, -⟩
  simp only [UInt32.le_iff_toNat_le, ge_iff_le] at hA h
  have h9 : ('9' : Char).val.toNat = 57 := rfl
  have hA' : ('A' : Char).val.toNat = 65 := rfl
  omega

/-- No decimal character starts a special word (inf, infinity or nan), in any letter case. -/
theorem isDecimalChar_toLower {c : Char} (h : isDecimalChar c = true) :
    c.toLower ≠ 'i' ∧ c.toLower ≠ 'n' := by
  simp only [isDecimalChar, Bool.or_eq_true, beq_iff_eq] at h
  rcases h with ((((rfl | rfl) | rfl) | hd) | rfl) | rfl
  all_goals try decide
  rw [toLower_of_isDigit hd]
  constructor <;> (rintro rfl; revert hd; decide)

theorem commonPrefixLength_of_decimal {body word : List Char}
    (hb : ∀ c ∈ body, isDecimalChar c = true) (hw : word.head? = some 'i' ∨ word.head? = some 'n') :
    commonPrefixLength body word = 0 := by
  cases body with
  | nil => rfl
  | cons c r =>
    cases word with
    | nil => rfl
    | cons w ws =>
      have hc := isDecimalChar_toLower (hb c (by simp))
      rw [commonPrefixLength, if_neg]
      rcases hw with hw | hw <;> cases hw
      · exact hc.1
      · exact hc.2

theorem readSpecial_none {cs : List Char} (hs : ∀ c ∈ cs, isDecimalChar c = true) :
    readSpecial cs = none := by
  unfold readSpecial
  split
  rename_i _ _ body hsplit
  -- the body is what follows the sign, if any
  have hb : ∀ c ∈ body, isDecimalChar c = true := by
    split at hsplit <;> (cases hsplit; simp_all)
  rw [commonPrefixLength_of_decimal hb (.inl rfl), commonPrefixLength_of_decimal hb (.inr rfl)]
  simp

/-- A number written with decimal characters only is read as a finite double: the special words
and hexadecimal mantissas need letters it does not have. -/
theorem readFloat_isFinite {s : String} {x : Float} (hs : ∀ c ∈ s.toList, isDecimalChar c = true)
    (h : readFloat s = .ok x) : x.isFinite = true := by
  unfold readFloat at h
  dsimp only at h
  rw [readSpecial_none hs] at h
  dsimp only at h
  split at h
  on_goal 1 =>
    rename_i c r hbody
    -- a leading zero is followed by no hexadecimal mark
    have hc : c ∈ s.toList := by
      have hmem : c ∈ '0' :: c :: r := by simp
      rw [← hbody] at hmem
      -- only how the sign is split off the text matters here
      clear h hbody hs
      split at hmem <;> simp_all
    simp only [isDecimalChar_not_x (hs c hc), Bool.false_and] at h
  all_goals
    simp only [Bool.false_eq_true, if_false] at h
    repeat' split at h
    -- every branch but the decimal scaling refuses the text
    all_goals try simp only [reduceCtorEq] at h
    all_goals exact scaleDecimal_isFinite h

end Theming.Number
