import Theming.Style.Apply
import Theming.Proofs.PropertyPaths
import Theming.Proofs.CoercionTable
import Theming.Proofs.SheetReading

/-!
# Applying a style, assignment by assignment

Applying a style is best effort and atomic per assignment. For each assignment the filter lets
through, in the style's order, there is one outcome with the assignment's path and line, and the
outcome says how the walk along the path ended (`Ends`):

* applied: a value and no fault, and the target is the one before with that value written to the
  leaf property (`Registry.writeAt`);
* a path that leads nowhere: no value, and a fault naming the dotted path, the segment where the
  walk stopped and the type of the object it stood on;
* an unknown constant, or a value that does not fit the leaf property: no value, and a fault of
  that kind at the dotted path.

A failure leaves the target as it was, provided the registry puts back unchanged what it got
(`Registry.GetPut`, which the widget registry has). The step lemma is `assignAlong_ends`, proved
by induction on the path; `Traced.Always.foldlM` carries it over the assignments of a style, and
`applyStyle_reports` puts the pieces together.
-/

set_option autoImplicit false

namespace Theming.Style

open Theming.Value Theming.Sheet

/-! ## Runs of traced folds -/

/-- Stepping through `l` from `s` by `R` can end in `s'`. -/
def Chain {σ ι : Type} (R : σ → ι → σ → Prop) : σ → List ι → σ → Prop
  | s, [], s' => s' = s
  | s, x :: l, s' => ∃ s₁, R s x s₁ ∧ Chain R s₁ l s'

/-- The fold rule: a traced fold whose every step is related by `R` to its state and element
ends in a state that a chain of `R` reaches. -/
theorem Traced.Always.foldlM {σ ι : Type} {f : σ → ι → Traced σ} (R : σ → ι → σ → Prop)
    (l : List ι) (hf : ∀ s, ∀ x ∈ l, (f s x).Always (R s x)) (s : σ) :
    (l.foldlM f s).Always (Chain R s l) := by
  induction l generalizing s with
  | nil => exact Traced.Always.pure rfl
  | cons x l ih =>
    refine Traced.Always.bind (hf s x (List.mem_cons_self ..)) fun s₁ h₁ => ?_
    exact (ih (fun s y hy => hf s y (List.mem_cons_of_mem _ hy)) s₁).imp fun _ h => ⟨s₁, h₁, h⟩

/-! ## How one assignment ends -/

variable {α : Type} [Styleable α]

/-- How a walk along `segs` from `t`, writing a value of kind `kind` at the dotted path `path`,
may end: with the target left, the status, the value applied and the fault. -/
def Ends (reg : Registry α) (path : String) (kind : ValueKind) (t : α) (segs : List String) :
    α × Status × Option Value × Option Fault → Prop
  | (t', .applied, value, fault) =>
    fault = none ∧ ∃ v, value = some v ∧ reg.writeAt t segs v = some t'
  | (t', .unresolvedPath, value, fault) =>
    value = none ∧ (reg.GetPut → t' = t) ∧
      ∃ seg obj reason, reg.StopsAt t segs seg obj ∧
        fault = some (.unresolved path seg (Styleable.typeName obj) reason)
  | (t', .unknownEnumValue, value, fault) =>
    value = none ∧ (reg.GetPut → t' = t) ∧
      ∃ obj p e n, reg.LeafAt t segs obj p ∧ fault = some (.unknownEnum e n path)
  | (t', .coercionFailed, value, fault) =>
    value = none ∧ (reg.GetPut → t' = t) ∧
      ∃ obj p cause, reg.LeafAt t segs obj p ∧ fault = some (.coercion p.type kind path cause)

section Ends

variable {reg : Registry α} {path : String} {kind : ValueKind} {t child : α} {seg : String}
  {rest : List String}

theorem ends_unresolved {segs : List String} (h : reg.StopsAt t segs seg t) (reason : String) :
    Ends reg path kind t segs
      (t, .unresolvedPath, none, some (.unresolved path seg (Styleable.typeName t) reason)) :=
  ⟨rfl, fun _ => rfl, seg, t, reason, h, rfl⟩

/-- A walk that ends below a nested object ends the same way from the outer object, which takes
the changed nested object back. -/
theorem Ends.cons {n : Nested α} (hrest : rest ≠ []) (hn : reg.nestedAt t seg = some n)
    (hchild : n.get t = some child) {child' : α} {st : Status} {value : Option Value}
    {fault : Option Fault} (h : Ends reg path kind child rest (child', st, value, fault)) :
    Ends reg path kind t (seg :: rest) (n.put t child', st, value, fault) := by
  -- a failure below leaves the nested object, and so the outer one, as it was
  have back : (reg.GetPut → child' = child) → reg.GetPut → n.put t child' = t := fun h hreg => by
    rw [h hreg]
    exact Registry.getPut_of_nestedAt hreg hn t child hchild
  cases st with
  | applied =>
    obtain ⟨hf, v, hv, hw⟩ := h
    exact ⟨hf, v, hv, by rw [Registry.writeAt_cons hrest hn hchild, hw]; rfl⟩
  | unresolvedPath =>
    obtain ⟨hv, hput, s, obj, reason, hs, hf⟩ := h
    exact ⟨hv, back hput, s, obj, reason, hs.cons hn hchild, hf⟩
  | unknownEnumValue =>
    obtain ⟨hv, hput, obj, p, e, name, hl, hf⟩ := h
    exact ⟨hv, back hput, obj, p, e, name, hl.cons hn hchild, hf⟩
  | coercionFailed =>
    obtain ⟨hv, hput, obj, p, cause, hl, hf⟩ := h
    exact ⟨hv, back hput, obj, p, cause, hl.cons hn hchild, hf⟩

end Ends

/-- The step lemma: every walk of a non-empty path ends as `Ends` says. The induction is on the
path; each way out of the walk is one case of `assignAlong`. -/
theorem assignAlong_ends (reg : Registry α) (eng : Engine) (path : String) (raw : RawValue)
    (t : α) (segs : List String) (hsegs : segs ≠ []) :
    (assignAlong reg eng path raw t segs).Always (Ends reg path raw.kind t segs) := by
  induction segs generalizing t with
  | nil => exact absurd rfl hsegs
  | cons seg rest ih =>
    rw [assignAlong]
    dsimp only
    split
    · next hnil =>
      exact Traced.Always.pure
        (ends_unresolved (.here (Registry.stops_of_propertyAt (Registry.propertyAt_of_isNil hnil) rest)) _)
    · next hnil =>
      have hnil' : Styleable.isNil t = false := by simpa using hnil
      split
      · next hcat =>
        have hprop : reg.propertyAt t seg = none := by
          simp [Registry.propertyAt, hnil', hcat]
        exact Traced.Always.pure (ends_unresolved (.here (Registry.stops_of_propertyAt hprop rest)) _)
      · next cat hcat =>
        have hprop : reg.propertyAt t seg = cat.property? seg :=
          Registry.propertyAt_of_catalog hnil' hcat
        split
        · next hp =>
          exact Traced.Always.pure
            (ends_unresolved (.here (Registry.stops_of_propertyAt (hprop.trans hp) rest)) _)
        · next prop hp =>
          have hnested := Registry.nestedAt_of_propertyAt (hprop.trans hp)
          split
          · -- an object property on the way: it must lead to a present object
            next hrest =>
            have hrest' : rest ≠ [] := by simpa using hrest
            split
            · next hk =>
              exact Traced.Always.pure (ends_unresolved
                (.here (Registry.stops_of_nestedAt hrest' (by rw [hnested, if_pos hk]))) _)
            · next hk =>
              split
              · next hn =>
                exact Traced.Always.pure (ends_unresolved
                  (.here (Registry.stops_of_nestedAt hrest' (by rw [hnested, if_neg hk, hn]))) _)
              · next n hn =>
                have hnAt : reg.nestedAt t seg = some n := by rw [hnested, if_neg hk, hn]
                split
                · next hget =>
                  exact Traced.Always.pure
                    (ends_unresolved (.here (Registry.stops_of_get hrest' hnAt hget)) _)
                · next child hget =>
                  exact Traced.Always.bind (ih child hrest') fun _ h =>
                    Traced.Always.pure (Ends.cons hrest' hnAt hget h)
          · -- the last segment: coerce, then store
            next hrest =>
            obtain rfl : rest = [] := by simpa using hrest
            have hleaf : reg.LeafAt t [seg] t prop := .here (hprop.trans hp)
            refine Traced.Always.bind (eng.coerceTraced_answers raw prop.type) fun r hr => ?_
            cases r with
            | error err =>
              refine Traced.Always.pure ?_
              rcases CoercionFault.withPath hr path with ⟨hnone, cause, hw⟩ | ⟨hsome, e, n, hw⟩
              · simp only [hnone, Option.isSome_none, Bool.false_eq_true, if_false, hw]
                exact ⟨rfl, fun _ => rfl, t, prop, cause, hleaf, rfl⟩
              · simp only [hsome, if_true, hw]
                exact ⟨rfl, fun _ => rfl, t, prop, e, n, hleaf, rfl⟩
            | ok v =>
              refine Traced.Always.pure ?_
              split
              · exact ⟨rfl, fun _ => rfl, t, prop, none, hleaf, rfl⟩
              · next store hstore =>
                split
                · exact ⟨rfl, fun _ => rfl, t, prop, _, hleaf, rfl⟩
                · next t' hs =>
                  refine ⟨rfl, v, rfl, ?_⟩
                  rw [Registry.writeAt_single, hprop.trans hp]
                  simp [hstore, hs, Except.toOption]

/-! ## How a style is applied -/

/-- What an outcome reports of an assignment applied to the target `t`, which it leaves as `t'`:
the assignment's path and line, and how the walk along the path ended. -/
def Reports (reg : Registry α) (t : α) (a : Assignment) (o : Outcome) (t' : α) : Prop :=
  o.path = a.path ∧ o.line = a.line ∧
    Ends reg a.path.render a.value.kind t a.path (t', o.status, o.value, o.fault)

theorem assign_reports (reg : Registry α) (eng : Engine) (t : α) (a : Assignment)
    (hpath : a.path ≠ []) : (assign reg eng t a).Always fun r => Reports reg t a r.2 r.1 := by
  unfold assign
  refine Traced.Always.bind (assignAlong_ends reg eng _ _ t a.path hpath)
    fun ⟨t', st, v, f⟩ h => ?_
  dsimp only
  exact Traced.Always.ite
    (Traced.Always.bind (Traced.Always.trivial _) fun _ _ => Traced.Always.pure ⟨rfl, rfl, h⟩)
    (Traced.Always.pure ⟨rfl, rfl, h⟩)

/-- Outcomes reporting assignments one after another from a target: each outcome reports its
assignment on the target the ones before it left, and `t'` is the target after all of them. -/
inductive Replays (reg : Registry α) : α → List Assignment → List Outcome → α → Prop
  | nil (t : α) : Replays reg t [] [] t
  | cons {t t₁ t' : α} {a : Assignment} {as : List Assignment} {o : Outcome} {os : List Outcome}
      (first : Reports reg t a o t₁) (rest : Replays reg t₁ as os t') :
      Replays reg t (a :: as) (o :: os) t'

/-- One step of applying a style: the outcome of the next assignment goes in front of the
outcomes so far. -/
def ReportStep (reg : Registry α) (s : α × List Outcome) (a : Assignment)
    (s' : α × List Outcome) : Prop :=
  ∃ o, s'.2 = o :: s.2 ∧ Reports reg s.1 a o s'.1

theorem replays_of_chain {reg : Registry α} (as : List Assignment) (t t' : α)
    (acc acc' : List Outcome) (h : Chain (ReportStep reg) (t, acc) as (t', acc')) :
    ∃ os, acc' = os.reverse ++ acc ∧ Replays reg t as os t' := by
  induction as generalizing t acc with
  | nil =>
    obtain ⟨rfl, rfl⟩ := Prod.mk.inj h
    exact ⟨[], rfl, .nil _⟩
  | cons a as ih =>
    obtain ⟨⟨t₁, acc₁⟩, ⟨o, hacc, hrep⟩, hrest⟩ := h
    obtain ⟨os, rfl, hos⟩ := ih t₁ acc₁ hrest
    refine ⟨o :: os, ?_, .cons hrep hos⟩
    simp only at hacc
    simp [hacc]

section Apply

variable (reg : Registry α) (eng : Engine) (sheet : Option StyleSheet) (target : α)
  (styleName : String) (only : Option (List String))

theorem applyStyleTraced_undefined (h : sheet.bind (·.style? styleName) = none) :
    (applyStyleTraced reg eng sheet target styleName only).Always (· = (target, none)) := by
  unfold applyStyleTraced
  split
  · exact Traced.Always.bind (Traced.Always.trivial _) fun _ _ => Traced.Always.pure rfl
  · next list hlist => exact absurd (h ▸ hlist) (by simp)

theorem applyStyleTraced_defined {list : List Assignment}
    (h : sheet.bind (·.style? styleName) = some list) (hpaths : ∀ a ∈ list, a.path ≠ []) :
    (applyStyleTraced reg eng sheet target styleName only).Always fun r =>
      ∃ os, r.2 = some os ∧
        Replays reg target (list.filter fun a => only.all (a.path.head ∈ ·)) os r.1 := by
  unfold applyStyleTraced
  split
  · next hnone => exact absurd (h ▸ hnone) (by simp)
  · next list' hlist =>
    obtain rfl : list' = list := Option.some.inj (hlist.symm.trans h)
    dsimp only
    refine Traced.Always.bind (Traced.Always.foldlM (ReportStep reg) _ ?_ (target, []))
      fun ⟨t', acc⟩ hchain => ?_
    · -- each step reports its assignment, which has a path
      intro ⟨t, acc⟩ a ha
      have hpath := hpaths a (List.mem_of_mem_filter ha)
      exact Traced.Always.bind (assign_reports reg eng t a hpath) fun ⟨t', o⟩ hrep =>
        Traced.Always.pure ⟨o, rfl, hrep⟩
    · obtain ⟨os, rfl, hos⟩ := replays_of_chain _ target t' [] acc hchain
      refine Traced.Always.bind (Traced.Always.trivial _) fun _ _ => Traced.Always.pure ⟨os, by simp, ?_⟩
      -- the filter keeps exactly the assignments whose first segment it lists
      convert hos using 2
      funext a
      cases only <;> simp [List.contains_eq_mem]

end Apply

/-- The target after an outcome: its value, if it has one, written at its path. -/
def Outcome.writeInto (reg : Registry α) (t : α) (o : Outcome) : α :=
  (o.value.bind fun v => reg.writeAt t o.path v).getD t

/-- The run lemma: when the registry puts back what it gets, the target after the outcomes is
the first one with the value of each applied outcome written at its path, in order. -/
theorem Replays.eq_foldl_writeInto {reg : Registry α} {t t' : α} {as : List Assignment}
    {os : List Outcome} (h : Replays reg t as os t') (hreg : reg.GetPut) :
    t' = (Outcomes.applied os).foldl (fun t o => o.writeInto reg t) t := by
  induction h with
  | nil => rfl
  | @cons t t₁ t' a as o os first _ ih =>
    obtain ⟨hpath, -, hends⟩ := first
    rcases o with ⟨opath, oline, status, value, fault⟩
    dsimp only at hpath
    subst hpath
    cases status with
    | applied =>
      -- the applied value is written, and the rest goes on from there
      obtain ⟨-, v, rfl, hw⟩ := hends
      have hinto : Outcome.writeInto reg t ⟨a.path, oline, .applied, some v, fault⟩ = t₁ := by
        simp [Outcome.writeInto, hw]
      rw [Outcomes.applied, List.filter_cons_of_pos rfl, List.foldl_cons, hinto]
      exact ih
    | unresolvedPath | unknownEnumValue | coercionFailed =>
      -- a failed assignment is left out, and the target is as it was
      obtain ⟨-, hsame, -⟩ := hends
      rw [Outcomes.applied, List.filter_cons_of_neg Bool.false_ne_true, ← hsame hreg]
      exact ih

/-- Applying a named style to a target, for a sheet whose assignments all have a path (as every
sheet read from text has, `parse_pathsNonempty`). An undefined style gives no outcomes and leaves
the target alone. Otherwise there is one outcome for each assignment the filter lets through, in
the style's order, reporting it on the target the assignments before it left (`Replays`); and
when the registry puts back unchanged what it gets, the target in the end is the first one with
the value of each applied outcome written at its path, in order. -/
theorem applyStyle_reports (reg : Registry α) (eng : Engine) (sheet : Option StyleSheet)
    (target : α) (styleName : String) (only : Option (List String))
    (hpaths : ∀ s ∈ sheet, s.PathsNonempty) :
    (sheet.bind (·.style? styleName) = none →
      applyStyle reg eng sheet target styleName only = (target, none)) ∧
    ∀ list, sheet.bind (·.style? styleName) = some list →
      ∃ outcomes, (applyStyle reg eng sheet target styleName only).2 = some outcomes ∧
        Replays reg target (list.filter fun a => only.all (a.path.head ∈ ·)) outcomes
          (applyStyle reg eng sheet target styleName only).1 ∧
        (reg.GetPut → (applyStyle reg eng sheet target styleName only).1 =
          (Outcomes.applied outcomes).foldl (fun t o => o.writeInto reg t) target) := by
  refine ⟨fun h => applyStyleTraced_undefined reg eng sheet target styleName only h {}, ?_⟩
  intro list h
  obtain ⟨s, hs, hstyle⟩ := Option.bind_eq_some_iff.1 h
  obtain ⟨os, hos, hrep⟩ :=
    applyStyleTraced_defined reg eng sheet target styleName only h ((hpaths s hs).style hstyle) {}
  exact ⟨os, hos, hrep, hrep.eq_foldl_writeInto⟩

open Theming.Widget in
theorem applyStyle_reports_label :
    (∀ s ∈ some ({ styles := [("title", [
        { path := ["layer", "cornerRadius"], value := { kind := .number, numbers := [4] }, line := 2 },
        { path := ["textAlignment"], value := { kind := .ident, text := "Sideways" }, line := 3 }])] } :
        StyleSheet), s.PathsNonempty) ∧
    let sheet : StyleSheet := { styles := [("title", [
      { path := ["layer", "cornerRadius"], value := { kind := .number, numbers := [4] }, line := 2 },
      { path := ["textAlignment"], value := { kind := .ident, text := "Sideways" }, line := 3 }])] }
    let target : Styled := .widget (.label {})
    ((some sheet).bind (·.style? "title") = none →
      applyStyle registry {} (some sheet) target "title" none = (target, none)) ∧
    ∀ list, (some sheet).bind (·.style? "title") = some list →
      ∃ outcomes, (applyStyle registry {} (some sheet) target "title" none).2 = some outcomes ∧
        Replays registry target (list.filter fun a => (none : Option (List String)).all
          (a.path.head ∈ ·)) outcomes (applyStyle registry {} (some sheet) target "title" none).1 ∧
        (registry.GetPut → (applyStyle registry {} (some sheet) target "title" none).1 =
          (Outcomes.applied outcomes).foldl (fun t o => o.writeInto registry t) target) :=
  have hpaths : ∀ s ∈ some ({ styles := [("title", [
      { path := ["layer", "cornerRadius"], value := { kind := .number, numbers := [4] }, line := 2 },
      { path := ["textAlignment"], value := { kind := .ident, text := "Sideways" }, line := 3 }])] } :
      StyleSheet), s.PathsNonempty := by
    intro s hs
    cases hs
    simp [StyleSheet.PathsNonempty]
  ⟨hpaths, applyStyle_reports registry {} _ (.widget (.label {})) "title" none hpaths⟩

end Theming.Style
