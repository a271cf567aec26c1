import Mathlib
import Theming.Value.Coerce

/-!
# What a coercion answers

Coercions run traced, and what they answer can depend on the trace (a cache remembers the
resources it found). The facts here hold whatever the trace: `Traced.Always m P` says that every
result `m` gives, from any trace, satisfies `P`, and it is built up along the code by
`Always.pure`, `Always.bind` and `Always.ite`. A result that may fail is described by
`Answers P Q`: a value satisfying `P`, or a failure satisfying `Q`.

The two sides of what a coercion answers are set out here. A coercion that succeeds gives a
value of the representation its destination holds (`Value.fits`): a text for a text, a color for
either kind of color, `nil` only where the destination accepts it, and never anything for an
object. A coercion that fails fails with a `CoercionFault`: a value that does not fit its
destination, whose cause is no unknown constant, or an unknown constant. Neither records a path
yet; `CoercionFault.withPath` shows how the path is put in and that the two kinds stay told apart
by `Fault.unknownEnum?`. That every coercion answers so, `Engine.coerceTraced_answers`, is read
off the coercion table (`Theming.Proofs.CoercionTable`).
-/

set_option autoImplicit false

namespace Theming.Value

open Theming.Sheet

/-! ## Results of traced computations -/

/-- Every result a traced computation gives, from any trace, satisfies `P`. -/
def Traced.Always {β : Type} (m : Traced β) (P : β → Prop) : Prop := ∀ s, P (m.run s).1

namespace Traced

variable {β γ : Type}

theorem run_bind (x : Traced β) (f : β → Traced γ) (s : Trace) :
    (x >>= f).run s = (f (x.run s).1).run (x.run s).2 :=
  rfl

theorem run_map (f : β → γ) (x : Traced β) (s : Trace) :
    (f <$> x).run s = (f (x.run s).1, (x.run s).2) :=
  rfl

namespace Always

theorem trivial (m : Traced β) : m.Always fun _ => True := fun _ => True.intro

theorem pure {P : β → Prop} {b : β} (h : P b) : (Pure.pure b : Traced β).Always P := fun _ => h

theorem bind {x : Traced β} {f : β → Traced γ} {Q : β → Prop} {P : γ → Prop}
    (hx : x.Always Q) (hf : ∀ b, Q b → (f b).Always P) : (x >>= f).Always P :=
  fun s => hf _ (hx s) (x.run s).2

theorem ite {P : β → Prop} {c : Prop} [Decidable c] {m₁ m₂ : Traced β} (h₁ : m₁.Always P)
    (h₂ : m₂.Always P) : (if c then m₁ else m₂).Always P := by
  split
  · exact h₁
  · exact h₂

theorem imp {m : Traced β} {P Q : β → Prop} (h : m.Always P) (hPQ : ∀ b, P b → Q b) :
    m.Always Q :=
  fun s => hPQ _ (h s)

end Always

end Traced

/-- A result that is a value satisfying `P`, or a failure satisfying `Q`. -/
def Answers {β : Type} (P : β → Prop) (Q : Fault → Prop) : Except Fault β → Prop
  | .ok b => P b
  | .error err => Q err

namespace Answers

variable {β : Type} {P : β → Prop} {Q : Fault → Prop}

@[simp] theorem of_ok (b : β) : Answers P Q (.ok b) ↔ P b := Iff.rfl

@[simp] theorem of_error (err : Fault) : Answers P Q (.error err : Except Fault β) ↔ Q err := Iff.rfl

end Answers

/-! ## The values a coercion gives -/

instance : LawfulBEq TypeKind where
  eq_of_beq {a b} h := by cases a <;> cases b <;> first | rfl | cases h
  rfl {a} := by cases a <;> rfl

/-- Whether a value has the representation a destination type holds: `nil` where the type
accepts it, and nothing for an object. -/
def Value.fits (dst : ValueType) : Value → Bool
  | .null => dst.nullable
  | .text _ => dst.kind == .text
  | .real _ => dst.kind == .real
  | .int _ => dst.kind == .integer
  | .bool _ => dst.kind == .boolean
  | .enum _ => dst.kind == .enum
  | .rect .. => dst.kind == .rect
  | .size .. => dst.kind == .size
  | .color _ => dst.kind == .color || dst.kind == .graphicsColor
  | .image _ => dst.kind == .image
  | .font _ => dst.kind == .font
  | .view _ => dst.kind == .view

/-- Only `nil` fits an object, and only when the object accepts it. -/
theorem Value.fits_object {dst : ValueType} (hk : dst.kind = .object) {v : Value}
    (h : v.fits dst = true) : v = .null ∧ dst.nullable = true := by
  cases v <;> simp_all [Value.fits]

/-! ## The faults of a coercion -/

/-- A coercion failure holds an unknown constant only in its cause. -/
theorem unknownEnum?_coercion (expected : ValueType) (actual : ValueKind) (path : String)
    (cause : Option Fault) :
    (Fault.coercion expected actual path cause).unknownEnum? = cause.bind Fault.unknownEnum? := by
  cases cause <;> simp [Fault.unknownEnum?, Fault.chain]

/-- Faults that hold no unknown constant anywhere down their chain. -/
def NoUnknownEnum (f : Fault) : Prop := f.unknownEnum? = none

@[simp] theorem noUnknownEnum_plain (m : String) : NoUnknownEnum (.plain m) := by
  simp [NoUnknownEnum, Fault.unknownEnum?, Fault.chain]

@[simp] theorem noUnknownEnum_context (text m : String) :
    NoUnknownEnum (.context text (.plain m)) := by
  simp [NoUnknownEnum, Fault.unknownEnum?, Fault.chain]

/-- The faults a coercion fails with, none of them at a path yet: the written value does not fit
the destination, for a cause that is no unknown constant, or it names no constant. -/
inductive CoercionFault (raw : RawValue) (dst : ValueType) : Fault → Prop
  | mismatch {cause : Option Fault} (h : ∀ c ∈ cause, NoUnknownEnum c) :
      CoercionFault raw dst (.coercion dst raw.kind "" cause)
  | unknownEnum (enumeration name : String) :
      CoercionFault raw dst (.unknownEnum enumeration name "")

namespace CoercionFault

variable {raw : RawValue} {dst : ValueType}

/-- With the path put in, a fault that does not fit is a coercion failure at that path and an
unknown constant is one at that path; only the second is found by `Fault.unknownEnum?`. -/
theorem withPath {err : Fault} (h : CoercionFault raw dst err) (path : String) :
    (err.unknownEnum? = none ∧ ∃ cause, err.withPath path = .coercion dst raw.kind path cause) ∨
      (err.unknownEnum?.isSome ∧ ∃ e n, err.withPath path = .unknownEnum e n path) := by
  cases h with
  | @mismatch cause hc =>
    refine .inl ⟨?_, cause, rfl⟩
    rw [unknownEnum?_coercion]
    cases cause with
    | none => rfl
    | some c => exact hc c rfl
  | unknownEnum e n =>
    refine .inr ⟨?_, e, n, rfl⟩
    simp [Fault.unknownEnum?, Fault.chain]

end CoercionFault

end Theming.Value
