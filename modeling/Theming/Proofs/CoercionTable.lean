import Theming.Proofs.CoercionResults
import Theming.Proofs.SheetParse

/-!
# The coercion table

A coercion reads a written value for a destination by a fixed table (`Engine.Entry`): `nil`
gives `nil` to a destination that accepts it, and otherwise each kind of destination takes some
kinds of written value, each giving one value.

| destination      | written as                                   | gives                       |
|------------------|----------------------------------------------|-----------------------------|
| text             | string, name                                 | the text                    |
| real, integer    | number, name of a constant of its enumeration | the number, cut for integers |
| truth value      | truth literal                                | the truth value             |
| enumeration      | name of a constant, whole number among them  | the constant                |
| color (both)     | color name, `#hex`, `rgb` with 3 or 4, string | the color, or an image's    |
| rectangle, size  | `CGRect` with 4 numbers, `CGSize` with 2     | the numbers                 |
| image, view      | string, image with cap insets                | the named image             |
| font             | string `family size`, font                   | the font the book resolves  |
| object           | nothing                                      |                             |

The main statement is `coerceTraced_follows_table`. From any trace, a coercion succeeds exactly
with the value the table gives, so `nil` comes out exactly for `nil` written for a destination
that accepts it and an object takes nothing else. It fails only with a coercion failure that
names the destination type and the written kind (`Refusal.mismatch`), or with a name or number
that is no constant of a real, integer or enumerated destination (`Refusal.unknownEnum`). And it
fails because a resource is missing exactly when it reads an image (for an image, a view, or a
color written as a string) whose name the engine's resources do not know: the missing resource
stays in the chain of the failure.

Each helper of the engine has one lemma for its successes and one for its failures
(`image_eq_ok_iff`, `color_eq_error`, ...), and `coerceStep` is taken one destination kind at a
time (`follows_number`, `follows_enum`, `follows_color`, ...) through `Follows`, which gathers the
three facts for one result.
-/

set_option autoImplicit false

namespace Theming.Value

open Theming.Sheet Theming.Resource Theming.Number

instance : LawfulBEq ValueKind where
  eq_of_beq {a b} h := by cases a <;> cases b <;> first | rfl | cases h
  rfl {a} := by cases a <;> rfl

namespace Engine

/-! ## Traced runs -/

@[simp] theorem fst_pure {β : Type} (b : β) (s : Trace) : (pure (b, s) : Id (β × Trace)).1 = b :=
  rfl

theorem run_pure_fst {β : Type} (b : β) (s : Trace) : ((pure b : Traced β).run s).1 = b :=
  rfl

/-- Noting a log entry leaves the result alone. -/
theorem run_note_ite {β : Type} (c : Prop) [Decidable c] (entry : Theming.Log.Entry) (x : β)
    (s : Trace) :
    (((if c then (Trace.note entry >>= fun _ => pure x) else pure x) : Traced β).run s).1 = x := by
  split <;> rfl

/-! ## The table -/

/-- An image with the cap insets of a written value, when it gives four. -/
def withWrittenInsets (img : Image) : List Float → Image
  | [t, l, b, r] => img.withInsets ⟨t, l, b, r⟩
  | _ => img

/-- The image an answer for a written value's name holds: its bytes read as an image of that
name, with the written cap insets. -/
def ImageRead (raw : RawValue) (answer : Fetched) (i : Image) : Prop :=
  ∃ data img, answer = .found data ∧ Image.ofBytes raw.text data = .ok img ∧
    i = withWrittenInsets img raw.insets

/-- The number a written value gives a real or integer destination: a number, or the value of
the constant its name names in the destination's enumeration. -/
def NumberRead (raw : RawValue) (dst : ValueType) (x : Float) : Prop :=
  raw.kind = .number ∧ x = raw.number ∨
    raw.kind = .ident ∧ ∃ en k, dst.enumeration = some en ∧ en.lookup? raw.text = some k ∧
      x = Float.ofInt k

/-- The constant a written value gives an enumerated destination: the constant its name names,
or a whole number that is the value of one of the constants. -/
def EnumRead (raw : RawValue) (dst : ValueType) (k : Int) : Prop :=
  ∃ en, dst.enumeration = some en ∧
    (raw.kind = .ident ∧ en.lookup? raw.text = some k ∨
      raw.kind = .number ∧ isWhole raw.number = true ∧ k = truncateToInt64 raw.number ∧
        en.contains k = true)

/-- The color a written value gives: a color name, a `#hex` literal, `rgb` with three channels
(opaque) or four, or the pattern of the image a string names. -/
def ColorRead (raw : RawValue) (answer : Fetched) (c : Color) : Prop :=
  raw.kind = .ident ∧ Color.ofName? raw.text = some c ∨
    raw.kind = .color ∧ raw.isHex = true ∧ Color.ofHex raw.text = .ok c ∨
    raw.kind = .color ∧ raw.isHex = false ∧
      ((∃ r g b, raw.numbers = [r, g, b] ∧ c = Color.ofBytes r g b 255) ∨
        ∃ r g b a, raw.numbers = [r, g, b, a] ∧ c = Color.ofBytes r g b a) ∨
    raw.kind = .string ∧ ∃ i, ImageRead raw answer i ∧ Color.ofPattern i = .ok c

/-- The family and size a written font gives: a string `family size`, or a font of positive
size. -/
def FontWritten (raw : RawValue) (family : String) (size : Float) : Prop :=
  raw.kind = .string ∧ parseFontSpec raw.text = .ok (family, size) ∨
    raw.kind = .font ∧ ¬raw.number ≤ 0 ∧ family = raw.text ∧ size = raw.number

/-- The entry of the coercion table for a written value and a destination, from the trace `s`:
the value `v` it gives. -/
def Entry (e : Engine) (s : Trace) (raw : RawValue) (dst : ValueType) (v : Value) : Prop :=
  if raw.kind = .nil then dst.nullable = true ∧ v = .null
  else
    match dst.kind with
    | .text => (raw.kind = .string ∨ raw.kind = .ident) ∧ v = .text raw.text
    | .real => ∃ x, NumberRead raw dst x ∧ v = .real x
    | .integer => ∃ x, NumberRead raw dst x ∧ v = .int (truncateToInt64 x)
    | .boolean => raw.kind = .boolean ∧ v = .bool raw.bool
    | .enum => ∃ k, EnumRead raw dst k ∧ v = .enum k
    | .color | .graphicsColor => ∃ c, ColorRead raw ((e.fetch raw.text).run s).1 c ∧ v = .color c
    | .rect => raw.kind = .rect ∧ ∃ x y w h, raw.numbers = [x, y, w, h] ∧ v = .rect x y w h
    | .size => raw.kind = .size ∧ ∃ w h, raw.numbers = [w, h] ∧ v = .size w h
    | .image => (raw.kind = .string ∨ raw.kind = .image) ∧
        ∃ i, ImageRead raw ((e.fetch raw.text).run s).1 i ∧ v = .image i
    | .view => (raw.kind = .string ∨ raw.kind = .image) ∧
        ∃ i, ImageRead raw ((e.fetch raw.text).run s).1 i ∧ v = .view i
    | .font => ∃ family size f, FontWritten raw family size ∧
        ((e.fonts.resolveWith family size (some e.fetch)).run s).1 = .ok f ∧ v = .font f
    | .object => False

/-- Whether a coercion reads an image: for an image or a view written as a string or an image,
or for a color written as a string. -/
def ReadsImage (raw : RawValue) (dst : ValueType) : Prop :=
  (dst.kind = .image ∨ dst.kind = .view) ∧ (raw.kind = .string ∨ raw.kind = .image) ∨
    (dst.kind = .color ∨ dst.kind = .graphicsColor) ∧ raw.kind = .string

/-- The ways a coercion refuses a written value: it does not fit the destination (a coercion
failure naming the destination type and the written kind, whose cause holds no unknown
constant), or it names no constant of a real, integer or enumerated destination. -/
inductive Refusal (raw : RawValue) (dst : ValueType) : Fault → Prop
  | mismatch {cause : Option Fault} (h : ∀ c ∈ cause, NoUnknownEnum c) :
      Refusal raw dst (.coercion dst raw.kind "" cause)
  | unknownEnum (enumeration name : String)
      (hk : dst.kind = .real ∨ dst.kind = .integer ∨ dst.kind = .enum) :
      Refusal raw dst (.unknownEnum enumeration name "")

/-! ## Failures and missing resources -/

@[simp] theorem isNotFound_notFound (name : String) : (Fault.notFound name).isNotFound = true := by
  simp [Fault.isNotFound, Fault.chain]

@[simp] theorem isNotFound_plain (m : String) : (Fault.plain m).isNotFound = false := by
  simp [Fault.isNotFound, Fault.chain]

@[simp] theorem isNotFound_context (text : String) (cause : Fault) :
    (Fault.context text cause).isNotFound = cause.isNotFound := by
  simp [Fault.isNotFound, Fault.chain]

/-- A coercion failure holds a missing resource only in its cause. -/
@[simp] theorem isNotFound_coercion (t : ValueType) (k : ValueKind) (p : String)
    (cause : Option Fault) :
    (Fault.coercion t k p cause).isNotFound = (cause.map Fault.isNotFound).getD false := by
  cases cause <;> simp [Fault.isNotFound, Fault.chain]

@[simp] theorem isNotFound_mismatch (raw : RawValue) (dst : ValueType) (cause : Option Fault) :
    (mismatch raw dst cause).isNotFound = (cause.map Fault.isNotFound).getD false :=
  isNotFound_coercion _ _ _ _

theorem refusal_mismatch_none (raw : RawValue) (dst : ValueType) :
    Refusal raw dst (mismatch raw dst none) :=
  .mismatch fun _ h => by cases h

theorem refusal_mismatch_some {raw : RawValue} {dst : ValueType} {cause : Fault}
    (h : NoUnknownEnum cause) : Refusal raw dst (mismatch raw dst (some cause)) :=
  .mismatch fun c hc => by cases hc; exact h

variable (e : Engine) (raw : RawValue) (dst : ValueType) (s : Trace)

/-! ## Images -/

/-- The image a coercion reads depends only on the answer for its name. -/
theorem image_result :
    ((e.image raw).run s).1 = (do
      let data ← fetchedData ((e.fetch raw.text).run s).1
      let img ← (Image.ofBytes raw.text data).mapError Fault.plain
      pure (withWrittenInsets img raw.insets)) := by
  simp only [image, Traced.run_bind]
  rw [run_note_ite]
  congr 1
  funext data
  congr 1
  funext img
  generalize raw.insets = l
  rcases l with _ | ⟨t, _ | ⟨l, _ | ⟨b, _ | ⟨r, _ | ⟨x, rest⟩⟩⟩⟩⟩ <;> rfl

theorem image_eq_ok_iff (i : Image) :
    ((e.image raw).run s).1 = .ok i ↔ ImageRead raw ((e.fetch raw.text).run s).1 i := by
  rw [image_result, ImageRead]
  cases ((e.fetch raw.text).run s).1 with
  | found data =>
    cases h : Image.ofBytes raw.text data <;>
      simp [fetchedData, h, Except.mapError, eq_comm]
  | missing n => simp [fetchedData]
  | failed m => simp [fetchedData]

/-- Reading an image fails with a missing resource exactly when the answer says it is missing. -/
theorem image_eq_error {err : Fault} (h : ((e.image raw).run s).1 = .error err) :
    NoUnknownEnum err ∧
      (err.isNotFound = true ↔ ∃ name, ((e.fetch raw.text).run s).1 = .missing name) := by
  rw [image_result] at h
  cases hanswer : ((e.fetch raw.text).run s).1 with
  | found data =>
    rw [hanswer] at h
    -- found bytes that are no image: the failure is the reader's message
    cases himg : Image.ofBytes raw.text data with
    | error m =>
      simp only [fetchedData, himg, Except.mapError, ok_bind] at h
      cases h
      simp
    | ok img => simp [fetchedData, himg, Except.mapError] at h
  | missing n =>
    rw [hanswer] at h
    cases h
    simp [NoUnknownEnum, Fault.unknownEnum?, Fault.chain]
  | failed m =>
    rw [hanswer] at h
    cases h
    simp

/-! ## Colors -/

theorem color_eq_ok_iff (v : Value) :
    ((e.color raw dst).run s).1 = .ok v ↔
      ∃ c, ColorRead raw ((e.fetch raw.text).run s).1 c ∧ v = .color c := by
  unfold color
  split
  case h_1 hk =>
    cases hc : Color.ofName? raw.text <;> simp [ColorRead, hk, hc, @eq_comm _ v]
  case h_2 hk =>
    simp only [run_pure_fst]
    split
    case isTrue hhex =>
      cases hc : Color.ofHex raw.text <;> simp [ColorRead, hk, hhex, hc, @eq_comm _ v]
    case isFalse hhex =>
      simp only [Bool.not_eq_true] at hhex
      split <;> simp_all [ColorRead, @eq_comm _ v]
  case h_3 hk =>
    simp only [Traced.run_bind]
    cases himg : ((e.image raw).run s).1 with
    | error err =>
      have hread : ∀ i, ¬ImageRead raw ((e.fetch raw.text).run s).1 i := fun i hi => by
        have hok := himg.symm.trans ((image_eq_ok_iff e raw s i).2 hi)
        cases hok
      simp [ColorRead, hk, hread]
    | ok img =>
      have hread : ∀ i, ImageRead raw ((e.fetch raw.text).run s).1 i ↔ i = img := fun i => by
        rw [← image_eq_ok_iff, himg, Except.ok.injEq, eq_comm]
      cases hc : Color.ofPattern img <;> simp [ColorRead, hk, hread, hc, @eq_comm _ v]
  case h_4 hi hc hs =>
    simp_all [ColorRead]

/-- A color fails as a value that does not fit, and for a missing resource exactly when it is
written as a string naming an image the resources do not know. -/
theorem color_eq_error {err : Fault} (h : ((e.color raw dst).run s).1 = .error err) :
    Refusal raw dst err ∧
      (err.isNotFound = true ↔
        raw.kind = .string ∧ ∃ name, ((e.fetch raw.text).run s).1 = .missing name) := by
  unfold color at h
  split at h
  case h_1 hk =>
    cases hc : Color.ofName? raw.text <;> simp only [hc, run_pure_fst, reduceCtorEq] at h
    cases h
    exact ⟨refusal_mismatch_some (noUnknownEnum_plain _), by simp [hk]⟩
  case h_2 hk =>
    simp only [run_pure_fst] at h
    split at h
    · cases hc : Color.ofHex raw.text <;> simp only [hc, reduceCtorEq] at h
      cases h
      exact ⟨refusal_mismatch_some (noUnknownEnum_plain _), by simp [hk]⟩
    · split at h <;> cases h
      exact ⟨refusal_mismatch_some (noUnknownEnum_plain _), by simp [hk]⟩
  case h_3 hk =>
    simp only [Traced.run_bind] at h
    cases himg : ((e.image raw).run s).1 with
    | error cause =>
      rw [himg] at h
      cases h
      obtain ⟨hno, hnf⟩ := image_eq_error e raw s himg
      exact ⟨refusal_mismatch_some hno, by simp [hk, hnf]⟩
    | ok img =>
      rw [himg] at h
      cases hc : Color.ofPattern img <;> simp only [hc, run_pure_fst, reduceCtorEq] at h
      cases h
      have hpresent : ∀ name, ((e.fetch raw.text).run s).1 ≠ .missing name := fun name hm => by
        obtain ⟨data, -, hfound, -⟩ := (image_eq_ok_iff e raw s img).1 himg
        rw [hm] at hfound
        cases hfound
      exact ⟨refusal_mismatch_some (noUnknownEnum_plain _), by simp [hpresent]⟩
  case h_4 hi hc hs =>
    cases h
    exact ⟨refusal_mismatch_none raw dst, by simpa using fun h => absurd h hs⟩

/-! ## Fonts -/

/-- A font family the book cannot resolve is told by its name only. -/
theorem resolveWith_eq_error {family : String} {size : Float} {err : Fault}
    (h : ((e.fonts.resolveWith family size (some e.fetch)).run s).1 = .error err) :
    err = .context ("font family " ++ Text.Quoted.quote family) (.plain "unknown font family") := by
  unfold FontBook.resolveWith at h
  simp only [Traced.run_bind] at h
  split at h
  · cases h
  · split at h
    · cases h
      rfl
    · cases h

theorem font_eq_ok_iff (v : Value) :
    ((e.font raw dst).run s).1 = .ok v ↔
      ∃ family size f, FontWritten raw family size ∧
        ((e.fonts.resolveWith family size (some e.fetch)).run s).1 = .ok f ∧ v = .font f := by
  unfold font
  dsimp only
  split
  case h_1 err hspec =>
    -- the written font is refused before the book is asked
    have hnone : ∀ family size, ¬FontWritten raw family size := by
      intro family size hw
      split at hspec
      case h_1 hk =>
        split at hspec
        · cases hspec
        · next hp => simp [FontWritten, hk, hp] at hw
      case h_2 hk =>
        split at hspec
        · next hle => simp [FontWritten, hk, hle] at hw
        · cases hspec
      case h_3 hs hf => simp_all [FontWritten]
    simp [hnone]
  case h_2 family size hspec =>
    have hwritten : ∀ family' size', FontWritten raw family' size' ↔
        family' = family ∧ size' = size := by
      intro family' size'
      split at hspec
      case h_1 hk =>
        split at hspec
        · next hp =>
          cases hspec
          simp [FontWritten, hk, hp, @eq_comm _ family', @eq_comm _ size']
        · cases hspec
      case h_2 hk =>
        split at hspec
        · cases hspec
        · next hle =>
          cases hspec
          simp [FontWritten, hk, hle]
      case h_3 => cases hspec
    simp only [Traced.run_bind, hwritten]
    cases hf : ((e.fonts.resolveWith family size (some e.fetch)).run s).1 with
    | error err => simp [hf]
    | ok f =>
      rw [run_note_ite]
      simp [hf, @eq_comm _ v]

/-- A font fails as a value that does not fit, and never for a missing resource: the book's
fonts are looked for, and an unknown family falls back or is refused by name. -/
theorem font_eq_error {err : Fault} (h : ((e.font raw dst).run s).1 = .error err) :
    Refusal raw dst err ∧ err.isNotFound = false := by
  unfold font at h
  dsimp only at h
  split at h
  case h_1 err' hspec =>
    cases h
    split at hspec
    case h_1 =>
      split at hspec
      · cases hspec
      · cases hspec
        exact ⟨refusal_mismatch_some (noUnknownEnum_plain _), by simp⟩
    case h_2 =>
      split at hspec
      · cases hspec
        exact ⟨refusal_mismatch_some (noUnknownEnum_plain _), by simp⟩
      · cases hspec
    case h_3 =>
      cases hspec
      exact ⟨refusal_mismatch_none raw dst, by simp⟩
  case h_2 family size hspec =>
    simp only [Traced.run_bind] at h
    cases hf : ((e.fonts.resolveWith family size (some e.fetch)).run s).1 with
    | error cause =>
      rw [hf] at h
      cases h
      rw [resolveWith_eq_error e s hf]
      exact ⟨refusal_mismatch_some (noUnknownEnum_context _ _), by simp⟩
    | ok f =>
      rw [hf] at h
      simp only [run_note_ite, reduceCtorEq] at h

/-! ## Constants -/

theorem constant_eq_ok_iff (k : Int) :
    constant raw dst = .ok k ↔ ∃ en, dst.enumeration = some en ∧ en.lookup? raw.text = some k := by
  unfold constant
  split
  case h_1 hnone => simp [hnone]
  case h_2 en hsome =>
    cases hl : en.lookup? raw.text <;> simp [hsome, hl]

/-- A name that is no constant fails as an unknown constant, or as a value that does not fit
when the destination has no enumeration. -/
theorem constant_eq_error {err : Fault} (h : constant raw dst = .error err) :
    err = mismatch raw dst none ∨ ∃ en, dst.enumeration = some en ∧ err = .unknownEnum en.name raw.text "" := by
  unfold constant at h
  split at h
  case h_1 => exact .inl (Except.error.inj h).symm
  case h_2 en hsome =>
    cases hl : en.lookup? raw.text <;> simp only [hl, reduceCtorEq] at h
    exact .inr ⟨en, hsome, (Except.error.inj h).symm⟩

/-- A number is read as itself, a name as the value of its constant. -/
theorem numberRead_iff (x : Float) :
    NumberRead raw dst x ↔
      raw.kind = .number ∧ x = raw.number ∨
        raw.kind = .ident ∧ ∃ k, constant raw dst = .ok k ∧ x = Float.ofInt k := by
  simp only [NumberRead, constant_eq_ok_iff]
  constructor
  · rintro (h | ⟨hk, en, k, hen, hl, rfl⟩)
    · exact .inl h
    · exact .inr ⟨hk, k, ⟨en, hen, hl⟩, rfl⟩
  · rintro (h | ⟨hk, k, ⟨en, hen, hl⟩, rfl⟩)
    · exact .inl h
    · exact .inr ⟨hk, en, k, hen, hl, rfl⟩

/-! ## One destination kind at a time -/

/-- What the table says of a result `r` of coercing `raw` to `dst` from the trace `s`: it is a
value exactly when that value is the table's entry, a failure only as a refusal, and a failure
for a missing resource exactly when the coercion reads an image whose name is missing. -/
structure Follows (r : Except Fault Value) : Prop where
  ok_iff : ∀ v, r = .ok v ↔ Entry e s raw dst v
  refusal : ∀ err, r = .error err → Refusal raw dst err
  notFound_iff : (∃ err, r = .error err ∧ err.isNotFound = true) ↔
    ReadsImage raw dst ∧ ∃ name, ((e.fetch raw.text).run s).1 = .missing name

variable {e raw dst s}

namespace Follows

/-- A value that is the only entry, from a coercion that reads no missing image. -/
theorem of_ok {v₀ : Value} (hentry : ∀ v, Entry e s raw dst v ↔ v = v₀)
    (hreads : ¬(ReadsImage raw dst ∧ ∃ name, ((e.fetch raw.text).run s).1 = .missing name)) :
    Follows e raw dst s (.ok v₀) where
  ok_iff v := by rw [hentry, Except.ok.injEq, eq_comm]
  refusal _ h := by cases h
  notFound_iff := by simpa using hreads

/-- A refusal where the table has no entry and no image is read. -/
theorem of_refusal {err : Fault} (hentry : ∀ v, ¬Entry e s raw dst v) (hr : Refusal raw dst err)
    (hnf : err.isNotFound = false) (hreads : ¬ReadsImage raw dst) :
    Follows e raw dst s (.error err) where
  ok_iff v := by simp [hentry v]
  refusal _ h := by cases h; exact hr
  notFound_iff := by simp [hnf, hreads]

/-- A value that does not fit, where the table has no entry and no image is read. -/
theorem of_mismatch (hentry : ∀ v, ¬Entry e s raw dst v) (hreads : ¬ReadsImage raw dst) :
    Follows e raw dst s (.error (mismatch raw dst none)) :=
  of_refusal hentry (refusal_mismatch_none raw dst) (by simp) hreads

/-- The entry under a condition, and a value that does not fit otherwise. -/
theorem ite_ok {c : Prop} [Decidable c] {v₀ : Value} (hentry : ∀ v, Entry e s raw dst v ↔ c ∧ v = v₀)
    (hreads : ¬ReadsImage raw dst) :
    Follows e raw dst s (if c then .ok v₀ else .error (mismatch raw dst none)) := by
  split
  case isTrue hc => exact of_ok (fun v => by simp [hentry, hc]) (fun h => hreads h.1)
  case isFalse hc => exact of_mismatch (fun v => by simp [hentry, hc]) hreads

end Follows

/-- A coercion fails for a missing resource exactly when it fails and the failure says so, given
when that is. -/
theorem notFound_iff_of {r : Except Fault Value} {P : Prop} (hok : ∀ v, r = .ok v → ¬P)
    (herr : ∀ err, r = .error err → (err.isNotFound = true ↔ P)) :
    (∃ err, r = .error err ∧ err.isNotFound = true) ↔ P := by
  cases r with
  | ok v => simpa using hok v rfl
  | error err => simpa using herr err rfl

/-- An image is read only from bytes that were found. -/
theorem ImageRead.not_missing {raw : RawValue} {answer : Fetched} {i : Image}
    (h : ImageRead raw answer i) (name : String) : answer ≠ .missing name := by
  obtain ⟨data, -, hfound, -⟩ := h
  rw [hfound]
  intro h
  cases h

/-! ## One lemma per destination kind

Each lemma fixes the kind of the destination (and that the written value is not `nil`), so the
coercion step reduces to the one branch of its table that the kind selects. -/

/-- `nil` is refused unless the destination accepts it. -/
theorem follows_nil (hnil : raw.kind = .nil) :
    Follows e raw dst s ((e.coerceStep raw dst).run s).1 := by
  simp only [coerceStep, hnil, beq_self_eq_true, if_true, run_pure_fst]
  exact Follows.ite_ok (fun v => by simp [Entry, hnil]) (by simp [ReadsImage, hnil])

theorem follows_text (hnil : raw.kind ≠ .nil) (hk : dst.kind = .text) :
    Follows e raw dst s ((e.coerceStep raw dst).run s).1 := by
  simp only [coerceStep, beq_iff_eq, hnil, if_false, hk, run_pure_fst]
  exact Follows.ite_ok (fun v => by simp [Entry, hnil, hk]) (by simp [ReadsImage, hk])

/-- Reals and integers: a number, or the value of a named constant. -/
theorem follows_number (hnil : raw.kind ≠ .nil) (hk : dst.kind = .real ∨ dst.kind = .integer) :
    Follows e raw dst s ((e.coerceStep raw dst).run s).1 := by
  have hreads : ¬ReadsImage raw dst := by rcases hk with hk | hk <;> simp [ReadsImage, hk]
  rcases hk with hk | hk <;>
  · simp only [coerceStep, beq_iff_eq, hnil, if_false, hk, run_pure_fst]
    split
    case h_1 hnum =>
      simp only [pure_eq_ok, ok_bind]
      split <;>
      · refine Follows.of_ok (fun v => ?_) (fun h => hreads h.1)
        simp_all [Entry, numberRead_iff]
    case h_2 hid =>
      cases hc : constant raw dst with
      | ok k =>
        simp only [pure_eq_ok, ok_bind]
        split <;>
        · refine Follows.of_ok (fun v => ?_) (fun h => hreads h.1)
          simp_all [Entry, numberRead_iff]
      | error err =>
        simp only [error_bind]
        have hentry : ∀ v, ¬Entry e s raw dst v := fun v => by
          simp [Entry, hk, numberRead_iff, hid, hc]
        rcases constant_eq_error raw dst hc with rfl | ⟨en, -, rfl⟩
        · exact Follows.of_mismatch hentry hreads
        · exact Follows.of_refusal hentry (.unknownEnum _ _ (by simp [hk]))
            (by simp [Fault.isNotFound, Fault.chain]) hreads
    case h_3 hnum hid =>
      have hnum : raw.kind ≠ .number := hnum
      have hid : raw.kind ≠ .ident := hid
      refine Follows.of_mismatch (fun v => ?_) hreads
      simp [Entry, hnil, hk, numberRead_iff, hnum, hid]

/-- Enumerations: a constant's name, or a whole number among the constants' values. -/
theorem follows_enum (hnil : raw.kind ≠ .nil) (hk : dst.kind = .enum) :
    Follows e raw dst s ((e.coerceStep raw dst).run s).1 := by
  have hreads : ¬ReadsImage raw dst := by simp [ReadsImage, hk]
  simp only [coerceStep, beq_iff_eq, hnil, if_false, hk, run_pure_fst]
  split
  case h_1 hid =>
    cases hc : constant raw dst with
    | ok k =>
      rw [constant_eq_ok_iff] at hc
      refine Follows.of_ok (fun v => ?_) (fun h => hreads h.1)
      obtain ⟨en, hen, hl⟩ := hc
      simp [Entry, EnumRead, hk, hid, hen, hl, @eq_comm _ v]
    | error err =>
      have hentry : ∀ v, ¬Entry e s raw dst v := fun v hv => by
        simp only [Entry, hk, EnumRead, hid] at hv
        obtain ⟨k, ⟨en, hen, hl⟩, -⟩ := hv
        have := (constant_eq_ok_iff raw dst k).2 ⟨en, hen, by simpa using hl⟩
        rw [hc] at this
        cases this
      rcases constant_eq_error raw dst hc with rfl | ⟨en, -, rfl⟩
      · exact Follows.of_mismatch hentry hreads
      · exact Follows.of_refusal hentry (.unknownEnum _ _ (by simp [hk]))
          (by simp [Fault.isNotFound, Fault.chain]) hreads
  case h_2 hnum =>
    split_ifs with hbad
    · -- a number that is not whole, or no constant's value
      refine Follows.of_refusal (fun v hv => ?_) (.unknownEnum _ _ (by simp [hk]))
        (by simp [Fault.isNotFound, Fault.chain]) hreads
      simp only [Entry, hk, EnumRead, hnum] at hv
      obtain ⟨k, ⟨en, hen, (⟨⟨⟩, -⟩ | ⟨-, hwhole, rfl, hknown⟩)⟩, -⟩ := hv
      simp [hen, hwhole, hknown] at hbad
    · cases hen : dst.enumeration with
      | none => simp [hen] at hbad
      | some en =>
        simp only [hen, Bool.or_eq_true, Bool.not_eq_true', not_or, Bool.not_eq_false] at hbad
        refine Follows.of_ok (fun v => ?_) (fun h => hreads h.1)
        simp [Entry, EnumRead, hk, hen, hnum, hbad, @eq_comm _ v]
  case h_3 hid hnum =>
    have hid : raw.kind ≠ .ident := hid
    have hnum : raw.kind ≠ .number := hnum
    refine Follows.of_mismatch (fun v => ?_) hreads
    simp [Entry, EnumRead, hnil, hk, hid, hnum]

theorem follows_boolean (hnil : raw.kind ≠ .nil) (hk : dst.kind = .boolean) :
    Follows e raw dst s ((e.coerceStep raw dst).run s).1 := by
  simp only [coerceStep, beq_iff_eq, hnil, if_false, hk, run_pure_fst]
  exact Follows.ite_ok (fun v => by simp [Entry, hnil, hk]) (by simp [ReadsImage, hk])

/-- Both kinds of color: the color helper decides, and it reads an image only for a string. -/
theorem follows_color (hnil : raw.kind ≠ .nil) (hk : dst.kind = .color ∨ dst.kind = .graphicsColor) :
    Follows e raw dst s ((e.coerceStep raw dst).run s).1 := by
  have hbranch : ((e.coerceStep raw dst).run s).1 = ((e.color raw dst).run s).1 := by
    rcases hk with hk | hk <;> simp only [coerceStep, beq_iff_eq, hnil, if_false, hk]
  have hreads : ReadsImage raw dst ↔ raw.kind = .string := by
    rcases hk with hk | hk <;> simp [ReadsImage, hk]
  rw [hbranch]
  refine ⟨fun v => ?_, fun err h => (color_eq_error e raw dst s h).1, ?_⟩
  · rw [color_eq_ok_iff]
    rcases hk with hk | hk <;> simp [Entry, hnil, hk]
  · refine notFound_iff_of (fun v h => ?_) (fun err h => ?_)
    · obtain ⟨c, hc, -⟩ := (color_eq_ok_iff e raw dst s v).1 h
      rintro ⟨hstring, name, hm⟩
      rw [hreads] at hstring
      rcases hc with ⟨hi, -⟩ | ⟨hi, -⟩ | ⟨hi, -⟩ | ⟨-, i, hi, -⟩
      · simp [hstring] at hi
      · simp [hstring] at hi
      · simp [hstring] at hi
      · exact hi.not_missing name hm
    · rw [(color_eq_error e raw dst s h).2, hreads]

/-- Rectangles and sizes: their constructor with the right count of numbers. -/
theorem follows_geometry (hnil : raw.kind ≠ .nil) (hk : dst.kind = .rect ∨ dst.kind = .size) :
    Follows e raw dst s ((e.coerceStep raw dst).run s).1 := by
  rcases hk with hk | hk <;>
  · simp only [coerceStep, beq_iff_eq, hnil, if_false, hk, run_pure_fst]
    split
    case h_1 hkind hnums =>
      refine Follows.of_ok (fun v => ?_) (by simp [ReadsImage, hk])
      simp [Entry, hk, hkind, hnums, @eq_comm _ v]
    case h_2 hother =>
      refine Follows.of_mismatch (fun v => ?_) (by simp [ReadsImage, hk])
      simp only [Entry, hnil, hk, if_false]
      rintro ⟨hkind, hv⟩
      simp_all

/-- Images and views: the named image, or the reason it was not read. -/
theorem follows_picture (hnil : raw.kind ≠ .nil) (hk : dst.kind = .image ∨ dst.kind = .view) :
    Follows e raw dst s ((e.coerceStep raw dst).run s).1 := by
  rcases hk with hk | hk <;>
  · simp only [coerceStep, beq_iff_eq, hnil, if_false, hk]
    split
    case isTrue hkind =>
      simp only [Bool.or_eq_true, beq_iff_eq] at hkind
      simp only [Traced.run_bind]
      cases himg : ((e.image raw).run s).1 with
      | ok i =>
        have hread : ∀ i', ImageRead raw ((e.fetch raw.text).run s).1 i' ↔ i' = i := fun i' => by
          rw [← image_eq_ok_iff, himg, Except.ok.injEq, eq_comm]
        refine Follows.of_ok (fun v => ?_) ?_
        · simp [Entry, hnil, hk, hkind, hread, @eq_comm _ v]
        · rintro ⟨-, name, hm⟩
          exact ((hread i).2 rfl).not_missing name hm
      | error err =>
        obtain ⟨hno, hnf⟩ := image_eq_error e raw s himg
        have hread : ∀ i', ¬ImageRead raw ((e.fetch raw.text).run s).1 i' := fun i' h' => by
          have hok := himg.symm.trans ((image_eq_ok_iff e raw s i').2 h')
          cases hok
        refine ⟨fun v => ?_, fun err' h => ?_, ?_⟩
        · simp [Entry, hnil, hk, hread, Except.map, Except.mapError]
        · cases h
          exact refusal_mismatch_some hno
        · simp [Except.map, Except.mapError, hnf, ReadsImage, hk, hkind]
    case isFalse hkind =>
      simp only [Bool.or_eq_true, beq_iff_eq, not_or] at hkind
      refine Follows.of_mismatch (fun v => ?_) (by simp [ReadsImage, hk, hkind])
      simp [Entry, hnil, hk, hkind]

/-- Fonts: the font helper decides, and never reports a missing resource. -/
theorem follows_font (hnil : raw.kind ≠ .nil) (hk : dst.kind = .font) :
    Follows e raw dst s ((e.coerceStep raw dst).run s).1 := by
  simp only [coerceStep, beq_iff_eq, hnil, if_false, hk]
  refine ⟨fun v => ?_, fun err h => (font_eq_error e raw dst s h).1, ?_⟩
  · rw [font_eq_ok_iff]
    simp [Entry, hnil, hk]
  · refine notFound_iff_of (fun v h => by simp [ReadsImage, hk]) (fun err h => ?_)
    simp [(font_eq_error e raw dst s h).2, ReadsImage, hk]

theorem follows_object (hnil : raw.kind ≠ .nil) (hk : dst.kind = .object) :
    Follows e raw dst s ((e.coerceStep raw dst).run s).1 := by
  simp only [coerceStep, beq_iff_eq, hnil, if_false, hk, run_pure_fst]
  refine Follows.of_mismatch (fun v => ?_) (by simp [ReadsImage, hk])
  simp [Entry, hnil, hk]

/-! ## The whole table -/

/-- One coercion step follows the table, whatever the destination's kind. -/
theorem coerceStep_follows : Follows e raw dst s ((e.coerceStep raw dst).run s).1 := by
  by_cases hnil : raw.kind = .nil
  · exact follows_nil hnil
  cases hk : dst.kind with
  | text => exact follows_text hnil hk
  | real => exact follows_number hnil (.inl hk)
  | integer => exact follows_number hnil (.inr hk)
  | boolean => exact follows_boolean hnil hk
  | color => exact follows_color hnil (.inl hk)
  | graphicsColor => exact follows_color hnil (.inr hk)
  | rect => exact follows_geometry hnil (.inl hk)
  | size => exact follows_geometry hnil (.inr hk)
  | image => exact follows_picture hnil (.inl hk)
  | font => exact follows_font hnil hk
  | view => exact follows_picture hnil (.inr hk)
  | enum => exact follows_enum hnil hk
  | object => exact follows_object hnil hk

/-- Noting a failure leaves the result alone. -/
theorem coerceTraced_result :
    ((e.coerceTraced raw dst).run s).1 = ((e.coerceStep raw dst).run s).1 := by
  unfold coerceTraced
  simp only [Traced.run_bind]
  split
  · split <;> rfl
  · rfl

/-- A coercion follows the table, from any trace. -/
theorem coerceTraced_follows (e : Engine) (raw : RawValue) (dst : ValueType) (s : Trace) :
    Follows e raw dst s ((e.coerceTraced raw dst).run s).1 := by
  rw [coerceTraced_result]
  exact coerceStep_follows

/-- `nil` is an entry only for `nil` written for a destination that accepts it. -/
theorem entry_null_iff : Entry e s raw dst .null ↔ raw.kind = .nil ∧ dst.nullable = true := by
  unfold Entry
  split
  case isTrue hnil => simp [hnil]
  case isFalse hnil =>
    simp only [hnil, false_and, iff_false]
    split <;> simp

/-- An object takes nothing but `nil`. -/
theorem eq_null_of_entry_object (hk : dst.kind = .object) {v : Value} (h : Entry e s raw dst v) :
    v = .null := by
  unfold Entry at h
  split at h
  case isTrue => exact h.2
  case isFalse => simp [hk] at h

/-- A coercion follows the table, from any trace: it succeeds exactly with the table's entry
(`nil` exactly for `nil` written for a destination that accepts it, and nothing else for an
object); it fails only as a value that does not fit (naming the destination type and the written
kind) or as an unknown constant of a real, integer or enumerated destination; and it fails for a
missing resource exactly when it reads an image whose name the resources do not know. -/
theorem coerceTraced_follows_table (e : Engine) (raw : RawValue) (dst : ValueType) (s : Trace) :
    let r := ((e.coerceTraced raw dst).run s).1
    (∀ v, r = .ok v ↔ Entry e s raw dst v) ∧
      (r = .ok .null ↔ raw.kind = .nil ∧ dst.nullable = true) ∧
      (dst.kind = .object → ∀ v, r = .ok v → v = .null) ∧
      (∀ err, r = .error err → Refusal raw dst err) ∧
      ((∃ err, r = .error err ∧ err.isNotFound = true) ↔
        ReadsImage raw dst ∧ ∃ name, ((e.fetch raw.text).run s).1 = .missing name) := by
  intro r
  have h : Follows e raw dst s r := by
    rw [show r = ((e.coerceStep raw dst).run s).1 from coerceTraced_result]
    exact coerceStep_follows
  refine ⟨h.ok_iff, ?_, fun hk v hv => eq_null_of_entry_object hk ((h.ok_iff v).1 hv),
    h.refusal, h.notFound_iff⟩
  rw [h.ok_iff, entry_null_iff]


/-! ## What a coercion gives -/

/-- The value an entry of the table gives has the destination's representation. -/
theorem Entry.fits {v : Value} (h : Entry e s raw dst v) : v.fits dst = true := by
  unfold Entry at h
  split at h
  case isTrue =>
    obtain ⟨hnull, rfl⟩ := h
    exact hnull
  case isFalse =>
    -- one line per row of the table, in the order of the destination kinds
    split at h
    case h_1 _ hk => obtain ⟨-, rfl⟩ := h; simp [Value.fits, hk]
    case h_2 _ hk => obtain ⟨x, -, rfl⟩ := h; simp [Value.fits, hk]
    case h_3 _ hk => obtain ⟨x, -, rfl⟩ := h; simp [Value.fits, hk]
    case h_4 _ hk => obtain ⟨-, rfl⟩ := h; simp [Value.fits, hk]
    case h_5 _ hk => obtain ⟨k, -, rfl⟩ := h; simp [Value.fits, hk]
    case h_6 _ hk => obtain ⟨c, -, rfl⟩ := h; simp [Value.fits, hk]
    case h_7 _ hk => obtain ⟨c, -, rfl⟩ := h; simp [Value.fits, hk]
    case h_8 _ hk => obtain ⟨-, x, y, w, h, -, rfl⟩ := h; simp [Value.fits, hk]
    case h_9 _ hk => obtain ⟨-, w, h, -, rfl⟩ := h; simp [Value.fits, hk]
    case h_10 _ hk => obtain ⟨-, i, -, rfl⟩ := h; simp [Value.fits, hk]
    case h_11 _ hk => obtain ⟨-, i, -, rfl⟩ := h; simp [Value.fits, hk]
    case h_12 _ hk => obtain ⟨family, size, f, -, -, rfl⟩ := h; simp [Value.fits, hk]
    case h_13 => exact h.elim

/-- The table's refusals are among the faults a coercion reports. -/
theorem Refusal.coercionFault {err : Fault} (h : Refusal raw dst err) :
    CoercionFault raw dst err := by
  cases h with
  | mismatch hc => exact .mismatch hc
  | unknownEnum en n _ => exact .unknownEnum en n

/-- A coercion gives a value of the destination's representation, or fails with a
`CoercionFault`, from any trace. -/
theorem coerceTraced_answers (e : Engine) (raw : RawValue) (dst : ValueType) :
    (e.coerceTraced raw dst).Always (Answers (·.fits dst) (CoercionFault raw dst)) := by
  intro s
  have h := coerceTraced_follows e raw dst s
  cases hr : ((e.coerceTraced raw dst).run s).1 with
  | ok v => exact ((h.ok_iff v).1 hr).fits
  | error err => exact (h.refusal err hr).coercionFault

/-- A value a coercion gives fits its destination. -/
theorem fits_of_coerceTraced (e : Engine) (raw : RawValue) (dst : ValueType) {s : Trace}
    {v : Value} (h : ((e.coerceTraced raw dst).run s).1 = .ok v) : v.fits dst = true := by
  have hanswer := e.coerceTraced_answers raw dst s
  rw [h] at hanswer
  exact hanswer

end Engine

end Theming.Value
