import Theming.Proofs.PathWrites

/-!
# Applying a style again, and two styles in either order

A style applied to two whole objects of one type goes the same way on both. The walks find the
same properties and take the same branches. The coercions run on the same trace and give the same
values, and each store succeeds on both objects. So the outcomes are the same
(`applyStyle_outcomes_eq`). This is a simulation between two runs. `Traced.Same` states it, and
`Same.pure`, `Same.bind`, `Same.ite` and `Same.foldlM` build it up along the code, as
`Traced.Always` does for one run.

The target after a style is the first one with the style's outcomes written into it in order
(`applyStyle_writes`), and each outcome lands on every whole object of the type. With the write
laws of `PathWrites` this gives:

* applying a style to what it left changes nothing and reports the same (`applyStyle_twice`),
  since the second run has the outcomes of the first and writes them once more;
* two styles whose outcomes write no path in common can be applied in either order
  (`applyStyle_comm`).

An outcome writes its path exactly when it has a value, and only applied outcomes have one
(`applyStyle_value_succeeded`). The widget registry has what these laws need: lawful properties
(`registry_lawful`), stores that take every value that fits (`registry_storesOn`), and nested
objects put back unchanged (`registry_getPut`). A new widget of every kind is whole, and
`applyStyle_idempotent_commuting` states both laws for it.
-/

set_option autoImplicit false

namespace Theming.Value

/-- Two traced computations started on the same trace leave the same trace, and results related
by `R`. -/
def Traced.Same {β : Type} (m m' : Traced β) (R : β → β → Prop) : Prop :=
  ∀ s, R (m.run s).1 (m'.run s).1 ∧ (m.run s).2 = (m'.run s).2

namespace Traced.Same

variable {β γ : Type}

theorem pure {R : β → β → Prop} {b b' : β} (h : R b b') : Same (Pure.pure b) (Pure.pure b') R :=
  fun _ => ⟨h, rfl⟩

/-- A computation run twice gives one result, which satisfies whatever it always satisfies. -/
theorem of_always {m : Traced β} {P : β → Prop} (h : m.Always P) :
    Same m m fun b b' => b = b' ∧ P b :=
  fun s => ⟨⟨rfl, h s⟩, rfl⟩

theorem bind {x x' : Traced β} {f f' : β → Traced γ} {Q : β → β → Prop} {R : γ → γ → Prop}
    (hx : Same x x' Q) (hf : ∀ b b', Q b b' → Same (f b) (f' b') R) :
    Same (x >>= f) (x' >>= f') R := by
  intro s
  rw [Traced.run_bind, Traced.run_bind, ← (hx s).2]
  exact hf _ _ (hx s).1 _

theorem ite {R : β → β → Prop} {c : Prop} [Decidable c] {m₁ m₁' m₂ m₂' : Traced β}
    (h₁ : c → Same m₁ m₁' R) (h₂ : ¬c → Same m₂ m₂' R) :
    Same (if c then m₁ else m₂) (if c then m₁' else m₂') R := by
  split
  · next h => exact h₁ h
  · next h => exact h₂ h

/-- A step whose result is dropped (a note), then related results. -/
theorem then_pure {m : Traced Unit} {R : β → β → Prop} {b b' : β} (h : R b b') :
    Same (m >>= fun _ => Pure.pure b) (m >>= fun _ => Pure.pure b') R :=
  bind (of_always (Traced.Always.trivial m)) fun _ _ _ => pure h

/-- Facts of each computation alone hold beside the relation. -/
theorem and_always {m m' : Traced β} {R : β → β → Prop} {P P' : β → Prop} (h : Same m m' R)
    (hP : m.Always P) (hP' : m'.Always P') : Same m m' fun b b' => R b b' ∧ P b ∧ P' b' :=
  fun s => ⟨⟨(h s).1, hP s, hP' s⟩, (h s).2⟩

/-- The simulation rule for folds: steps that keep `R` between two states keep it to the end. -/
theorem foldlM {σ ι : Type} (R : σ → σ → Prop) {f : σ → ι → Traced σ} (l : List ι)
    (hf : ∀ u u', R u u' → ∀ x ∈ l, Same (f u x) (f u' x) R) {u u' : σ} (h : R u u') :
    Same (l.foldlM f u) (l.foldlM f u') R := by
  induction l generalizing u u' with
  | nil => exact pure h
  | cons x l ih =>
    simp only [List.foldlM_cons]
    exact bind (hf u u' h x (List.mem_cons_self ..)) fun v v' hv =>
      ih (fun w w' hw y hy => hf w w' hw y (List.mem_cons_of_mem _ hy)) hv

end Traced.Same

theorem Traced.Always.then_pure {β : Type} {m : Traced Unit} {P : β → Prop} {b : β} (h : P b) :
    (m >>= fun _ => Pure.pure b).Always P :=
  Traced.Always.bind (Traced.Always.trivial m) fun _ _ => Traced.Always.pure h

/-- The invariant rule for folds: an invariant every step keeps holds at the end. -/
theorem Traced.Always.foldlM_inv {σ ι : Type} (P : σ → Prop) {f : σ → ι → Traced σ} (l : List ι)
    (hf : ∀ u, P u → ∀ x ∈ l, (f u x).Always P) {u : σ} (h : P u) : (l.foldlM f u).Always P := by
  induction l generalizing u with
  | nil => exact Traced.Always.pure h
  | cons x l ih =>
    simp only [List.foldlM_cons]
    exact Traced.Always.bind (hf u h x (List.mem_cons_self ..)) fun v hv =>
      ih (fun w hw y hy => hf w hw y (List.mem_cons_of_mem _ hy)) hv

end Theming.Value

namespace Theming.Style

open Theming.Value Theming.Sheet Theming.Widget

section Runs

variable {reg : Registry Styled} (hreg : reg.Registered Lawful) (hst : reg.StoresOn Styled.OwnType)
variable (eng : Engine) (path : String) (raw : RawValue)

include hreg hst in
/-- Walks along one path from two whole objects of one type report the same and leave the same
trace. -/
theorem assignAlong_same (segs : List String) {T : String} {a b : Styled} (ha : a.WholeOf T)
    (hb : b.WholeOf T) :
    Traced.Same (assignAlong reg eng path raw a segs) (assignAlong reg eng path raw b segs)
      fun r r' => r.2 = r'.2 := by
  induction segs generalizing T a b with
  | nil => exact Traced.Same.pure rfl
  | cons seg rest ih =>
    have htype : Styleable.typeName b = Styleable.typeName a := hb.typeName.trans ha.typeName.symm
    have hcat : reg.catalog? b = reg.catalog? a := by simp only [Registry.catalog?, htype]
    rw [assignAlong, assignAlong]
    simp only [Styled.isNil_of_whole ha.whole, Styled.isNil_of_whole hb.whole, hcat, htype,
      Bool.false_eq_true, if_false]
    -- both walks find the same property and take the same branches
    cases hc : reg.catalog? a with
    | none => exact Traced.Same.pure rfl
    | some cat =>
      dsimp only
      cases hp : cat.property? seg with
      | none => exact Traced.Same.pure rfl
      | some prop =>
        dsimp only
        have hprop : reg.propertyAt a seg = some prop :=
          (Registry.propertyAt_of_catalog (Styled.isNil_of_whole ha.whole) hc).trans hp
        cases rest with
        | nil =>
          simp only [List.isEmpty_nil, Bool.not_true, Bool.false_eq_true, if_false]
          refine Traced.Same.bind (Traced.Same.of_always (eng.coerceTraced_answers raw prop.type))
            fun r r' h => ?_
          obtain ⟨hr, hfits⟩ := h
          subst hr
          cases r with
          | error err => exact Traced.Same.pure rfl
          | ok v =>
            -- a coerced value fits, and a value that fits is stored in every whole object
            have hstores := Registry.registered_of_propertyAt hst hprop
            obtain ⟨store, a', hs, ha'⟩ := (hstores a (Styled.ownType_of_whole ha.whole) rfl
              (Styled.isNil_of_whole ha.whole)).1 v hfits
            obtain ⟨store', b', hs', hb'⟩ := (hstores b (Styled.ownType_of_whole hb.whole) htype
              (Styled.isNil_of_whole hb.whole)).1 v hfits
            rw [hs, Option.some.injEq] at hs'
            subst hs'
            simp only [hs, ha', hb']
            exact Traced.Same.pure rfl
        | cons s r =>
          simp only [List.isEmpty_cons, Bool.not_false, if_true]
          by_cases hk : (prop.type.kind != .object) = true
          · simp only [hk, if_true]
            exact Traced.Same.pure rfl
          · simp only [hk, Bool.false_eq_true, if_false]
            cases hn : prop.nested with
            | none => exact Traced.Same.pure rfl
            | some n =>
              have hnAt : reg.nestedAt a seg = some n := by
                rw [Registry.nestedAt_of_propertyAt hprop, if_neg hk, hn]
              obtain ⟨-, T', hl⟩ := nested_changes hreg ha hnAt
              obtain ⟨c, hc, hcw, -⟩ := hl.get a ha
              obtain ⟨d, hd, hdw, -⟩ := hl.get b hb
              simp only [hc, hd]
              exact Traced.Same.bind (ih hcw hdw) fun _ _ h => Traced.Same.pure h

variable (hgp : reg.GetPut)

include hreg hgp in
/-- A walk from a whole object leaves it with its reported value written along the path, and a
value it reports can be written there in every whole object of its type. -/
theorem assignAlong_writes (segs : List String) {T : String} {a : Styled} (ha : a.WholeOf T) :
    (assignAlong reg eng path raw a segs).Always fun r =>
      r.1 = (r.2.2.1.bind (reg.writeAt a segs)).getD a ∧
        ∀ v ∈ r.2.2.1, ∀ b : Styled, b.WholeOf T → (reg.writeAt b segs v).isSome := by
  cases segs with
  | nil => exact Traced.Always.pure ⟨rfl, fun v hv => by cases hv⟩
  | cons seg rest =>
    refine Traced.Always.imp (assignAlong_ends reg eng path raw a _ (List.cons_ne_nil _ _))
      fun ⟨a', st, value, fault⟩ h => ?_
    cases st with
    | applied =>
      obtain ⟨-, v, rfl, hw⟩ := h
      refine ⟨by simp [hw], fun v' hv' b hb => ?_⟩
      obtain rfl : v' = v := Option.some.inj hv'.symm
      obtain ⟨b', hb'⟩ := writeAt_transfer hreg _ ha hb hw
      simp [hb']
    | unresolvedPath | unknownEnumValue | coercionFailed =>
      -- a walk that fails reports no value and leaves the object as it was
      obtain ⟨rfl, hsame, -⟩ := h
      exact ⟨by simp [hsame hgp], fun v hv => by cases hv⟩

include hreg hst in
/-- One assignment applied to two whole objects of one type reports the same and leaves the same
trace. -/
theorem assign_same (x : Assignment) {T : String} {t t' : Styled} (ht : t.WholeOf T)
    (ht' : t'.WholeOf T) :
    Traced.Same (assign reg eng t x) (assign reg eng t' x) fun r r' => r.2 = r'.2 := by
  unfold assign
  refine Traced.Same.bind (assignAlong_same hreg hst eng _ _ _ ht ht')
    fun ⟨u, st, v, f⟩ ⟨u', st', v', f'⟩ h => ?_
  obtain ⟨rfl, rfl, rfl⟩ : st = st' ∧ v = v' ∧ f = f' := by simpa using h
  dsimp only
  -- the failure is noted on both sides alike
  exact Traced.Same.ite (fun _ => Traced.Same.then_pure rfl) (fun _ => Traced.Same.pure rfl)

include hreg hgp in
/-- One assignment applied to a whole object leaves it with the outcome written into it, and the
outcome lands on every whole object of its type. -/
theorem assign_writes (x : Assignment) {T : String} {t : Styled} (ht : t.WholeOf T) :
    (assign reg eng t x).Always fun r => r.1 = r.2.writeInto reg t ∧ r.2.Lands reg T := by
  unfold assign
  refine Traced.Always.bind (assignAlong_writes hreg eng _ _ hgp _ ht) fun ⟨u, st, v, f⟩ h => ?_
  dsimp only
  exact Traced.Always.ite (Traced.Always.then_pure h) (Traced.Always.pure h)

variable (sheet : Option StyleSheet) (name : String) (only : Option (List String))

include hreg hst hgp in
/-- A style applied to two whole objects of one type reports the same. -/
theorem applyStyleTraced_same {T : String} {t t' : Styled} (ht : t.WholeOf T)
    (ht' : t'.WholeOf T) :
    Traced.Same (applyStyleTraced reg eng sheet t name only)
      (applyStyleTraced reg eng sheet t' name only) fun r r' => r.2 = r'.2 := by
  unfold applyStyleTraced
  split
  · exact Traced.Same.then_pure rfl
  · -- the fold keeps the outcomes equal and both targets whole
    refine Traced.Same.bind (Traced.Same.foldlM
      (fun u u' => u.2 = u'.2 ∧ u.1.WholeOf T ∧ u'.1.WholeOf T) _ ?_ ⟨rfl, ht, ht'⟩)
      fun ⟨u, os⟩ ⟨u', os'⟩ ⟨h, _, _⟩ => ?_
    · rintro ⟨u, acc⟩ ⟨u', acc'⟩ ⟨hacc, hu, hu'⟩ x -
      refine Traced.Same.bind ((assign_same hreg hst eng x hu hu').and_always
        (assign_writes hreg eng hgp x hu) (assign_writes hreg eng hgp x hu'))
        fun ⟨u₁, o⟩ ⟨u₁', o'⟩ ⟨ho, ⟨hu₁, _⟩, ⟨hu₁', _⟩⟩ => Traced.Same.pure ⟨?_, ?_, ?_⟩
      · simp_all
      · exact hu₁ ▸ Outcome.writeInto_wholeOf hreg o hu
      · exact hu₁' ▸ Outcome.writeInto_wholeOf hreg o' hu'
    · dsimp only at h
      subst h
      exact Traced.Same.then_pure rfl

include hreg hgp in
/-- A style applied to a whole object leaves it with its outcomes written into it in order, and
every outcome lands on every whole object of its type. -/
theorem applyStyleTraced_writes {T : String} {t : Styled} (ht : t.WholeOf T) :
    (applyStyleTraced reg eng sheet t name only).Always fun r =>
      r.1 = (r.2.getD []).foldl (fun u o => o.writeInto reg u) t ∧
        ∀ o ∈ r.2.getD [], o.Lands reg T := by
  unfold applyStyleTraced
  split
  · exact Traced.Always.then_pure ⟨rfl, fun _ h => by cases h⟩
  · -- the outcomes gathered so far, newest first, were written in order and all land
    refine Traced.Always.bind (Traced.Always.foldlM_inv
      (fun u => u.1 = u.2.reverse.foldl (fun u o => o.writeInto reg u) t ∧
        (∀ o ∈ u.2, o.Lands reg T) ∧ u.1.WholeOf T) _ ?_ ⟨rfl, fun _ h => (by cases h), ht⟩)
      fun ⟨u, os⟩ ⟨hu, hlands, _⟩ => ?_
    · rintro ⟨u, acc⟩ ⟨hu, hlands, hwhole⟩ x -
      refine Traced.Always.bind (assign_writes hreg eng hgp x hwhole)
        fun ⟨u₁, o⟩ ⟨hu₁, ho⟩ => Traced.Always.pure ⟨?_, ?_, ?_⟩
      · simp only [List.reverse_cons, List.foldl_append, List.foldl_cons, List.foldl_nil]
        rw [← hu]
        exact hu₁
      · rintro o' (_ | ⟨_, ho'⟩)
        · exact ho
        · exact hlands o' ho'
      · exact hu₁ ▸ Outcome.writeInto_wholeOf hreg o hwhole
    · exact Traced.Always.then_pure ⟨hu, fun o ho => hlands o (List.mem_reverse.1 ho)⟩

include hreg hst hgp in
/-- A style applied to whole objects of one type gives the same outcomes. -/
theorem applyStyle_outcomes_eq {T : String} {t t' : Styled} (ht : t.WholeOf T)
    (ht' : t'.WholeOf T) :
    (applyStyle reg eng sheet t name only).2 = (applyStyle reg eng sheet t' name only).2 :=
  (applyStyleTraced_same hreg hst eng hgp sheet name only ht ht' {}).1

include hreg hgp in
/-- A style applied to a whole object writes its outcomes into it, in order. -/
theorem applyStyle_writes {T : String} {t : Styled} (ht : t.WholeOf T) :
    (applyStyle reg eng sheet t name only).1 =
        ((applyStyle reg eng sheet t name only).2.getD []).foldl (fun u o => o.writeInto reg u) t ∧
      ∀ o ∈ (applyStyle reg eng sheet t name only).2.getD [], o.Lands reg T :=
  applyStyleTraced_writes hreg eng hgp sheet name only ht {}

include hreg hst hgp in
/-- Applying a style to what it left changes nothing and reports the same. -/
theorem applyStyle_twice {T : String} {t : Styled} (ht : t.WholeOf T) :
    applyStyle reg eng sheet (applyStyle reg eng sheet t name only).1 name only =
      applyStyle reg eng sheet t name only := by
  obtain ⟨hfirst, hlands⟩ := applyStyle_writes hreg eng hgp sheet name only ht
  have ht₁ : (applyStyle reg eng sheet t name only).1.WholeOf T :=
    hfirst ▸ Outcome.foldl_writeInto_wholeOf hreg _ ht
  have hsame := applyStyle_outcomes_eq hreg hst eng hgp sheet name only ht₁ ht
  obtain ⟨hsecond, -⟩ := applyStyle_writes hreg eng hgp sheet name only ht₁
  refine Prod.ext ?_ hsame
  rw [hsecond, hsame]
  -- the second run writes the outcomes of the first once more
  calc ((applyStyle reg eng sheet t name only).2.getD []).foldl (fun u o => o.writeInto reg u)
          (applyStyle reg eng sheet t name only).1
      = ((applyStyle reg eng sheet t name only).2.getD []).foldl (fun u o => o.writeInto reg u)
          (((applyStyle reg eng sheet t name only).2.getD []).foldl
            (fun u o => o.writeInto reg u) t) := by rw [hfirst]
    _ = ((applyStyle reg eng sheet t name only).2.getD []).foldl
          (fun u o => o.writeInto reg u) t := Outcome.foldl_writeInto_twice hreg hlands ht
    _ = (applyStyle reg eng sheet t name only).1 := hfirst.symm

end Runs

/-- Outcomes of which at most one has a value, or whose paths differ, are apart. -/
theorem Outcome.apart_of {o o' : Outcome} (h : o.value.isSome → o'.value.isSome → o.path ≠ o'.path) :
    o.Apart o' := by
  cases hv : o.value with
  | none => exact .inl hv
  | some v =>
    cases hw : o'.value with
    | none => exact .inr (.inl hw)
    | some w => exact .inr (.inr (h (by simp [hv]) (by simp [hw])))

section Commuting

variable {reg : Registry Styled} (hreg : reg.Registered Lawful) (hst : reg.StoresOn Styled.OwnType)
variable (eng : Engine) (hgp : reg.GetPut) (sheet : Option StyleSheet)

include hreg hst hgp in
/-- Two styles whose outcomes with values write no path in common can be applied in either order. -/
theorem applyStyle_comm {T : String} {t : Styled} (ht : t.WholeOf T) (A B : String)
    (onlyA onlyB : Option (List String))
    (hapart : ∀ oa ∈ (applyStyle reg eng sheet t A onlyA).2.getD [],
      ∀ ob ∈ (applyStyle reg eng sheet t B onlyB).2.getD [],
        oa.value.isSome → ob.value.isSome → oa.path ≠ ob.path) :
    (applyStyle reg eng sheet (applyStyle reg eng sheet t A onlyA).1 B onlyB).1 =
      (applyStyle reg eng sheet (applyStyle reg eng sheet t B onlyB).1 A onlyA).1 := by
  obtain ⟨hA, hlA⟩ := applyStyle_writes hreg eng hgp sheet A onlyA ht
  obtain ⟨hB, hlB⟩ := applyStyle_writes hreg eng hgp sheet B onlyB ht
  have htA : (applyStyle reg eng sheet t A onlyA).1.WholeOf T :=
    hA ▸ Outcome.foldl_writeInto_wholeOf hreg _ ht
  have htB : (applyStyle reg eng sheet t B onlyB).1.WholeOf T :=
    hB ▸ Outcome.foldl_writeInto_wholeOf hreg _ ht
  -- each style, applied after the other, reports as it does alone and writes that in
  rw [(applyStyle_writes hreg eng hgp sheet B onlyB htA).1,
    (applyStyle_writes hreg eng hgp sheet A onlyA htB).1,
    applyStyle_outcomes_eq hreg hst eng hgp sheet B onlyB htA ht,
    applyStyle_outcomes_eq hreg hst eng hgp sheet A onlyA htB ht, hA, hB]
  exact Outcome.foldl_writeInto_comm hreg hlB hlA
    (fun m hm l hl => Outcome.apart_of (hapart m hm l hl)) ht

end Commuting

/-! ## Outcomes with values -/

section Values

variable {α : Type} [Styleable α] (reg : Registry α) (eng : Engine)

/-- A walk reports a value only when it applied it. -/
theorem assignAlong_value_applied (path : String) (raw : RawValue) (t : α) (segs : List String) :
    (assignAlong reg eng path raw t segs).Always fun r => r.2.2.1.isSome → r.2.1 = .applied := by
  cases segs with
  | nil => exact Traced.Always.pure fun h => by cases h
  | cons seg rest =>
    refine Traced.Always.imp (assignAlong_ends reg eng path raw t _ (List.cons_ne_nil _ _))
      fun ⟨_, st, value, _⟩ h hv => ?_
    -- every other way out of the walk reports no value
    cases st with
    | applied => rfl
    | unresolvedPath | unknownEnumValue | coercionFailed =>
      obtain ⟨rfl, -⟩ := h
      cases hv

theorem assign_value_succeeded (t : α) (x : Assignment) :
    (assign reg eng t x).Always fun r => r.2.value.isSome → r.2.succeeded := by
  unfold assign
  refine Traced.Always.bind (assignAlong_value_applied reg eng _ _ t _) fun ⟨u, st, v, f⟩ h => ?_
  have hsucc : v.isSome → st == .applied := fun hv => by
    obtain rfl : st = .applied := h hv
    rfl
  dsimp only
  exact Traced.Always.ite (Traced.Always.then_pure hsucc) (Traced.Always.pure hsucc)

/-- Every outcome of a style that has a value was applied: the outcomes that write a property are
the applied outcomes with a value. -/
theorem applyStyle_value_succeeded (sheet : Option StyleSheet) (t : α) (name : String)
    (only : Option (List String)) :
    ∀ o ∈ (applyStyle reg eng sheet t name only).2.getD [], o.value.isSome → o.succeeded := by
  have hrun : (applyStyleTraced reg eng sheet t name only).Always fun r =>
      ∀ o ∈ r.2.getD [], o.value.isSome → o.succeeded := by
    unfold applyStyleTraced
    split
    · exact Traced.Always.then_pure fun _ h => by cases h
    · refine Traced.Always.bind (Traced.Always.foldlM_inv
        (fun u => ∀ o ∈ u.2, o.value.isSome → o.succeeded) _ ?_ fun _ h => (by cases h))
        fun ⟨u, os⟩ hos => ?_
      · rintro ⟨u, acc⟩ hacc x -
        refine Traced.Always.bind (assign_value_succeeded reg eng u x) fun ⟨u₁, o⟩ ho =>
          Traced.Always.pure ?_
        rintro o' (_ | ⟨_, ho'⟩)
        · exact ho
        · exact hacc o' ho'
      · exact Traced.Always.then_pure fun o ho => hos o (List.mem_reverse.1 ho)
  exact hrun {}

end Values

end Theming.Style

namespace Theming.Widget

open Theming.Value Theming.Sheet Theming.Style

/-- A new widget of every kind has its layer, and a new table cell its labels with theirs. -/
theorem whole_create (k : WidgetKind) : (Styled.widget (Widget.create k)).whole = true := by
  cases k <;> rfl

/-- Styling a new widget of any kind through the widget registry, for any sheet and any engine:
applying a style once more to what it left changes nothing and reports the same outcomes, and two
styles can be applied in either order when no path is written by outcomes of both (an outcome
writes its path exactly when it has a value, which only applied outcomes have,
`applyStyle_value_succeeded`). -/
theorem applyStyle_idempotent_commuting (k : WidgetKind) (eng : Engine) (sheet : Option StyleSheet)
    (A B : String) (onlyA onlyB : Option (List String)) :
    let t : Styled := .widget (Widget.create k)
    let runA := applyStyle registry eng sheet t A onlyA
    let runB := applyStyle registry eng sheet t B onlyB
    applyStyle registry eng sheet runA.1 A onlyA = runA ∧
      ((∀ oa ∈ runA.2.getD [], ∀ ob ∈ runB.2.getD [],
          oa.value.isSome → ob.value.isSome → oa.path ≠ ob.path) →
        (applyStyle registry eng sheet runA.1 B onlyB).1 =
          (applyStyle registry eng sheet runB.1 A onlyA).1) := by
  intro t runA runB
  have ht : t.WholeOf (Styleable.typeName t) := ⟨whole_create k, rfl⟩
  exact ⟨applyStyle_twice registry_lawful registry_storesOn eng registry_getPut sheet A onlyA ht,
    applyStyle_comm registry_lawful registry_storesOn eng registry_getPut sheet ht A B onlyA onlyB⟩

end Theming.Widget
