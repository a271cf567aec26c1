import Theming.Proofs.PropertyLaws

/-!
# Writes along property paths

What `Registry.writeAt` does in a registry whose properties are all lawful, on whole objects of a
type (`Styled.WholeOf`). A write keeps the object whole and of its type, and changes only what
shows under the path's first segment (`writeAt_changes`). Whether it succeeds depends on the type
alone (`writeAt_transfer`). A second write along a path overrides the first (`writeAt_writeAt`),
and writes along different paths commute (`writeAt_comm`), also when the paths share a nested
object.

The same laws hold for the outcomes of applying a style, whose values are written at their paths
(`Outcome.writeInto`): a list of outcomes written twice is written once
(`Outcome.foldl_writeInto_twice`), and lists that write no path in common commute
(`Outcome.foldl_writeInto_comm`).
-/

set_option autoImplicit false

namespace Theming.Style.Registry

open Theming.Value

variable {α : Type} [Styleable α] {reg : Registry α} {obj obj' : α} {seg : String}
  {p : Property α} {v : Value}

/-- A property found by name has that name. -/
theorem name_of_propertyAt (h : reg.propertyAt obj seg = some p) : p.name = seg := by
  obtain ⟨-, cat, -, hp⟩ := propertyAt_eq_some.1 h
  have hfound := List.find?_some (show cat.properties.find? (·.name == seg) = some p from hp)
  exact beq_iff_eq.1 hfound

/-- A write to a single segment is the store of the property it names. -/
theorem writeAt_single_eq_some :
    reg.writeAt obj [seg] v = some obj' ↔
      ∃ p store, reg.propertyAt obj seg = some p ∧ p.store = some store ∧ store obj v = .ok obj' := by
  rw [writeAt_single]
  constructor
  · intro h
    obtain ⟨p, hp, store, hs, h⟩ := by simpa only [Option.bind_eq_some_iff] using h
    refine ⟨p, store, hp, hs, ?_⟩
    cases hst : store obj v <;> simp_all [Except.toOption]
  · rintro ⟨p, store, hp, hs, h⟩
    simp [hp, hs, h, Except.toOption]

/-- A write below a segment writes into the nested object and puts it back. -/
theorem writeAt_cons_eq_some {rest : List String} (hrest : rest ≠ []) :
    reg.writeAt obj (seg :: rest) v = some obj' ↔
      ∃ n child child', reg.nestedAt obj seg = some n ∧ n.get obj = some child ∧
        reg.writeAt child rest v = some child' ∧ obj' = n.put obj child' := by
  cases rest with
  | nil => exact absurd rfl hrest
  | cons s r =>
    simp only [writeAt, List.isEmpty_cons, Bool.false_eq_true, if_false, Option.bind_eq_some_iff,
      Option.map_eq_some_iff]
    constructor
    · rintro ⟨n, hn, child, hc, child', hw, rfl⟩
      exact ⟨n, child, child', hn, hc, hw, rfl⟩
    · rintro ⟨n, child, child', hn, hc, hw, rfl⟩
      exact ⟨n, hn, child, hc, child', hw, rfl⟩

end Theming.Style.Registry

namespace Theming.Widget

open Theming.Value Theming.Style

/-- A whole object of the type named `T`. -/
structure Styled.WholeOf (T : String) (a : Styled) : Prop where
  whole : a.whole = true
  typeName : Styleable.typeName a = T

namespace Changes

variable {n : String} {x : Option Shown} {a a' : Styled} {T : String}

theorem wholeOf (h : Changes n x a a') (ha : a.WholeOf T) : a'.WholeOf T :=
  ⟨h.whole, h.typeName.trans ha.typeName⟩

/-- A change to what already shows is no change. -/
theorem eq_of_shown (h : Changes n x a a') (ha : a.whole = true) (hx : a.shown n = x) : a' = a :=
  h.unique ⟨rfl, ha, hx, fun _ _ => rfl⟩

end Changes

section Writes

variable {reg : Registry Styled} {T : String} {a b : Styled} {seg : String} {v w : Value}

/-- Whole objects of one type have the same properties. -/
theorem propertyAt_congr (ha : a.WholeOf T) (hb : b.WholeOf T) (seg : String) :
    reg.propertyAt a seg = reg.propertyAt b seg := by
  simp [Registry.propertyAt, Registry.catalog?, Styled.isNil_of_whole ha.whole,
    Styled.isNil_of_whole hb.whole, ha.typeName, hb.typeName]

theorem nestedAt_congr (ha : a.WholeOf T) (hb : b.WholeOf T) (seg : String) :
    reg.nestedAt a seg = reg.nestedAt b seg := by
  simp only [Registry.nestedAt, propertyAt_congr ha hb]

/-- On whole objects of type `T`, `store` changes what shows under `seg` to what `σ` makes of the
value, and takes a value into one object only if into every other. -/
structure StoresBy (seg T : String) (σ : Value → Option Shown)
    (store : Styled → Value → Except String Styled) : Prop where
  changes : ∀ b, b.WholeOf T → ∀ v b', store b v = .ok b' → Changes seg (σ v) b b'
  uniform : ∀ b c, b.WholeOf T → c.WholeOf T → ∀ v b', store b v = .ok b' →
    ∃ c', store c v = .ok c'

/-- On whole objects of type `T`, `n` leads to a whole object of type `T'`, shown under `seg`, and
putting back another one changes what shows under `seg` and nothing else. -/
structure Leads (seg T T' : String) (n : Nested Styled) : Prop where
  get : ∀ b, b.WholeOf T → ∃ c, n.get b = some c ∧ c.WholeOf T' ∧
    b.shown seg = some (.object (some c))
  put : ∀ b, b.WholeOf T → ∀ c, c.WholeOf T' → Changes seg (some (.object (some c))) b (n.put b c)

/-- A store after a change under its name gives what it gives on the object before: the second
write decides what shows. -/
theorem StoresBy.toOption_of_changes {σ : Value → Option Shown}
    {store : Styled → Value → Except String Styled} (hs : StoresBy seg T σ store) (ha : a.WholeOf T)
    {x : Option Shown} (hab : Changes seg x a b) (w : Value) :
    (store b w).toOption = (store a w).toOption := by
  have hb : b.WholeOf T := hab.wholeOf ha
  cases hA : store a w with
  | error e =>
    cases hB : store b w with
    | error e' => rfl
    | ok b' =>
      obtain ⟨a', ha'⟩ := hs.uniform b a hb ha w b' hB
      rw [hA] at ha'
      cases ha'
  | ok a' =>
    obtain ⟨b', hB⟩ := hs.uniform a b ha hb w a' hA
    have heq : b' = a' := (hab.trans (hs.changes b hb w b' hB)).unique (hs.changes a ha w a' hA)
    simp [hB, heq, Except.toOption]

namespace Leads

variable {T' : String} {n : Nested Styled} {c c' : Styled}

/-- The object found is whole, of the nested type, and shown under the name. -/
theorem of_get (hn : Leads seg T T' n) (hb : b.WholeOf T) (hc : n.get b = some c) :
    c.WholeOf T' ∧ b.shown seg = some (.object (some c)) := by
  obtain ⟨c', hget, hc', hshown⟩ := hn.get b hb
  rw [hc, Option.some.injEq] at hget
  subst hget
  exact ⟨hc', hshown⟩

theorem get_put (hn : Leads seg T T' n) (hb : b.WholeOf T) (hc : c.WholeOf T') :
    n.get (n.put b c) = some c := by
  have hbc := hn.put b hb c hc
  obtain ⟨c', hget, -, hshown⟩ := hn.get _ (hbc.wholeOf hb)
  rw [hbc.shown] at hshown
  simp only [Option.some.injEq, Shown.object.injEq] at hshown
  rw [hget, hshown]

theorem put_put (hn : Leads seg T T' n) (hb : b.WholeOf T) (hc : c.WholeOf T')
    (hc' : c'.WholeOf T') : n.put (n.put b c) c' = n.put b c' :=
  ((hn.put b hb c hc).trans (hn.put _ ((hn.put b hb c hc).wholeOf hb) c' hc')).unique
    (hn.put b hb c' hc')

end Leads

variable (hreg : reg.Registered Lawful)
include hreg

/-- A stored property found on a whole object stores, on every whole object of its type, by
what the value decides. -/
theorem store_changes {p : Property Styled} {store : Styled → Value → Except String Styled}
    (ha : a.WholeOf T) (hp : reg.propertyAt a seg = some p) (hs : p.store = some store) :
    ∃ σ, StoresBy seg T σ store := by
  have hl : Lawful T p := ha.typeName ▸ Registry.registered_of_propertyAt hreg hp
  obtain ⟨σ, hσ⟩ := hl.store store hs
  rw [Registry.name_of_propertyAt hp] at hσ
  refine ⟨σ, fun b hb v b' h => (hσ b hb.whole hb.typeName v b' h).1, fun b c hb hc v b' h => ?_⟩
  exact (hσ b hb.whole hb.typeName v b' h).2 c hc.whole hc.typeName

/-- A nested property found on a whole object stores nothing, and leads from its type to one
other. -/
theorem nested_changes {n : Nested Styled} (ha : a.WholeOf T) (hn : reg.nestedAt a seg = some n) :
    (∀ p, reg.propertyAt a seg = some p → p.store = none) ∧ ∃ T', Leads seg T T' n := by
  obtain ⟨p, hp, -, hpn⟩ := Registry.nestedAt_eq_some.1 hn
  have hl : Lawful T p := ha.typeName ▸ Registry.registered_of_propertyAt hreg hp
  obtain ⟨hstore, T', hT'⟩ := hl.nested n hpn
  rw [Registry.name_of_propertyAt hp] at hT'
  refine ⟨fun q hq => by rw [hp] at hq; cases hq; exact hstore, T', fun b hb => ?_,
    fun b hb c hc => ?_⟩
  · obtain ⟨c, hc, hcw, hct, hshown, -⟩ := hT' b hb.whole hb.typeName
    exact ⟨c, hc, ⟨hcw, hct⟩, hshown⟩
  · obtain ⟨-, -, -, -, -, hput⟩ := hT' b hb.whole hb.typeName
    exact hput c hc.whole hc.typeName

/-- A write of one segment into a whole object is the store of a lawful property. -/
theorem writeAt_single_inv {a' : Styled} (ha : a.WholeOf T)
    (h : reg.writeAt a [seg] v = some a') :
    ∃ p store σ, reg.propertyAt a seg = some p ∧ p.store = some store ∧
      StoresBy seg T σ store ∧ store a v = .ok a' := by
  obtain ⟨p, store, hp, hs, h⟩ := Registry.writeAt_single_eq_some.1 h
  obtain ⟨σ, hst⟩ := store_changes hreg ha hp hs
  exact ⟨p, store, σ, hp, hs, hst, h⟩

/-- A write below a segment of a whole object writes into a whole nested object and puts it
back. -/
theorem writeAt_cons_inv {s : String} {r : List String} {a' : Styled} (ha : a.WholeOf T)
    (h : reg.writeAt a (seg :: s :: r) v = some a') :
    ∃ n T' c c', reg.nestedAt a seg = some n ∧ Leads seg T T' n ∧ n.get a = some c ∧
      c.WholeOf T' ∧ reg.writeAt c (s :: r) v = some c' ∧ a' = n.put a c' := by
  obtain ⟨n, c, c', hn, hc, hw, rfl⟩ := (Registry.writeAt_cons_eq_some (List.cons_ne_nil s r)).1 h
  obtain ⟨-, T', hl⟩ := nested_changes hreg ha hn
  exact ⟨n, T', c, c', hn, hl, hc, (hl.of_get ha hc).1, hw, rfl⟩

/-- Writing along a path keeps an object whole and of its type. -/
theorem writeAt_wholeOf (segs : List String) {a' : Styled} (ha : a.WholeOf T)
    (h : reg.writeAt a segs v = some a') : a'.WholeOf T := by
  induction segs generalizing T a a' with
  | nil => cases h
  | cons seg rest ih =>
    cases rest with
    | nil =>
      obtain ⟨_, _, _, -, -, hst, h⟩ := writeAt_single_inv hreg ha h
      exact (hst.changes a ha v a' h).wholeOf ha
    | cons s r =>
      obtain ⟨_, _, _, c', -, hl, -, hcw, hw, rfl⟩ := writeAt_cons_inv hreg ha h
      exact (hl.put a ha c' (ih hcw hw)).wholeOf ha

/-- A write below a segment after a nested object was put back writes into that object and puts
the result back in its place. -/
theorem writeAt_put {T' : String} {n : Nested Styled} {c : Styled} {rest : List String}
    (hl : Leads seg T T' n) (hn : reg.nestedAt a seg = some n) (ha : a.WholeOf T)
    (hc : c.WholeOf T') (hrest : rest ≠ []) (w : Value) :
    reg.writeAt (n.put a c) (seg :: rest) w = (reg.writeAt c rest w).map (n.put a) := by
  have hac := (hl.put a ha c hc).wholeOf ha
  rw [Registry.writeAt_cons hrest (nestedAt_congr hac ha seg ▸ hn) (hl.get_put ha hc)]
  -- the nested object written last is put back, whatever was put back before
  cases hw : reg.writeAt c rest w with
  | none => rfl
  | some c' =>
    simp only [Option.map_some, Option.some.injEq]
    exact hl.put_put ha hc (writeAt_wholeOf hreg rest hc hw)

/-- What a write shows under the path's first segment depends only on what showed there before:
two whole objects of one type that show the same there show the same there after the write, and
nothing else changes in either. -/
theorem writeAt_changes {rest : List String} {a' b' : Styled} (ha : a.WholeOf T) (hb : b.WholeOf T)
    (hsame : a.shown seg = b.shown seg) (h : reg.writeAt a (seg :: rest) v = some a')
    (h' : reg.writeAt b (seg :: rest) v = some b') :
    ∃ x, Changes seg x a a' ∧ Changes seg x b b' := by
  cases rest with
  | nil =>
    obtain ⟨p, store, σ, hp, hs, hst, h⟩ := writeAt_single_inv hreg ha h
    obtain ⟨p', store', hp', hs', h'⟩ := Registry.writeAt_single_eq_some.1 h'
    rw [← propertyAt_congr ha hb, hp, Option.some.injEq] at hp'
    subst hp'
    rw [hs, Option.some.injEq] at hs'
    subst hs'
    exact ⟨σ v, hst.changes a ha v a' h, hst.changes b hb v b' h'⟩
  | cons s r =>
    obtain ⟨n, _, c, c₁, hn, hl, hc, hcw, hw, rfl⟩ := writeAt_cons_inv hreg ha h
    obtain ⟨n', _, d, d₁, hn', -, hd, -, hw', rfl⟩ := writeAt_cons_inv hreg hb h'
    rw [← nestedAt_congr ha hb, hn, Option.some.injEq] at hn'
    subst hn'
    -- both objects show the same nested object, so the write below gives the same result
    have hcd : c = d := by
      rw [(hl.of_get ha hc).2, (hl.of_get hb hd).2] at hsame
      simpa using hsame
    subst hcd
    rw [hw, Option.some.injEq] at hw'
    subst hw'
    have hc₁ := writeAt_wholeOf hreg (s :: r) hcw hw
    exact ⟨_, hl.put a ha c₁ hc₁, hl.put b hb c₁ hc₁⟩

/-- A path written in one whole object can be written in every whole object of its type. -/
theorem writeAt_transfer (segs : List String) {a' : Styled} (ha : a.WholeOf T) (hb : b.WholeOf T)
    (h : reg.writeAt a segs v = some a') : ∃ b', reg.writeAt b segs v = some b' := by
  induction segs generalizing T a b a' with
  | nil => cases h
  | cons seg rest ih =>
    cases rest with
    | nil =>
      obtain ⟨p, store, _, hp, hs, hst, h⟩ := writeAt_single_inv hreg ha h
      obtain ⟨b', hb'⟩ := hst.uniform a b ha hb v a' h
      exact ⟨b', Registry.writeAt_single_eq_some.2
        ⟨p, store, propertyAt_congr hb ha seg ▸ hp, hs, hb'⟩⟩
    | cons s r =>
      obtain ⟨n, _, _, _, hn, hl, -, hcw, hw, rfl⟩ := writeAt_cons_inv hreg ha h
      obtain ⟨d, hd, hdw, -⟩ := hl.get b hb
      obtain ⟨d', hd'⟩ := ih hcw hdw hw
      exact ⟨n.put b d', (Registry.writeAt_cons_eq_some (List.cons_ne_nil s r)).2
        ⟨n, d, d', nestedAt_congr hb ha seg ▸ hn, hd, hd', rfl⟩⟩

/-- A second write along a path decides alone what the path holds: writing after a write is
writing to the object before it. -/
theorem writeAt_writeAt (segs : List String) {a₁ : Styled} (ha : a.WholeOf T)
    (h : reg.writeAt a segs v = some a₁) (w : Value) :
    reg.writeAt a₁ segs w = reg.writeAt a segs w := by
  induction segs generalizing T a a₁ with
  | nil => cases h
  | cons seg rest ih =>
    cases rest with
    | nil =>
      obtain ⟨p, store, σ, hp, hs, hst, h⟩ := writeAt_single_inv hreg ha h
      have hchange := hst.changes a ha v a₁ h
      rw [Registry.writeAt_single, Registry.writeAt_single, propertyAt_congr (hchange.wholeOf ha) ha,
        hp]
      simp only [Option.bind_some, hs]
      rw [hst.toOption_of_changes ha hchange w]
    | cons s r =>
      obtain ⟨n, _, c, c₁, hn, hl, hc, hcw, hw, rfl⟩ := writeAt_cons_inv hreg ha h
      rw [writeAt_put hreg hl hn ha (writeAt_wholeOf hreg _ hcw hw) (List.cons_ne_nil s r),
        Registry.writeAt_cons (List.cons_ne_nil s r) hn hc, ih hcw hw]

/-- A path cannot both end at a stored property and go on through it. -/
theorem writeAt_leaf_nested {s : String} {r : List String} {a' a'' : Styled} (ha : a.WholeOf T)
    (h : reg.writeAt a [seg] v = some a') (h' : reg.writeAt a (seg :: s :: r) w = some a'') :
    False := by
  obtain ⟨p, _, _, hp, hs, -⟩ := writeAt_single_inv hreg ha h
  obtain ⟨n, _, _, _, hn, -⟩ := writeAt_cons_inv hreg ha h'
  rw [(nested_changes hreg ha hn).1 p hp] at hs
  cases hs

/-- Writes along two different paths commute. -/
theorem writeAt_comm (p q : List String) (hpq : p ≠ q) {a₁ a₂ : Styled} (ha : a.WholeOf T)
    (h₁ : reg.writeAt a p v = some a₁) (h₂ : reg.writeAt a q w = some a₂) :
    reg.writeAt a₁ q w = reg.writeAt a₂ p v := by
  induction p generalizing q T a a₁ a₂ with
  | nil => cases h₁
  | cons seg rest ih =>
    cases q with
    | nil => cases h₂
    | cons seg' rest' =>
      by_cases hs : seg = seg'
      · -- one first segment: both paths go on through one nested object
        subst hs
        have hrest : rest ≠ rest' := fun h => hpq (h ▸ rfl)
        cases rest with
        | nil =>
          cases rest' with
          | nil => exact absurd rfl hrest
          | cons s' r' => exact (writeAt_leaf_nested hreg ha h₁ h₂).elim
        | cons s r =>
          cases rest' with
          | nil => exact (writeAt_leaf_nested hreg ha h₂ h₁).elim
          | cons s' r' =>
            obtain ⟨n, _, c, c₁, hn, hl, hc, hcw, hw₁, rfl⟩ := writeAt_cons_inv hreg ha h₁
            obtain ⟨n', _, c', c₂, hn', -, hc', -, hw₂, rfl⟩ := writeAt_cons_inv hreg ha h₂
            rw [hn, Option.some.injEq] at hn'
            subst hn'
            rw [hc, Option.some.injEq] at hc'
            subst hc'
            rw [writeAt_put hreg hl hn ha (writeAt_wholeOf hreg _ hcw hw₁) (List.cons_ne_nil s' r'),
              writeAt_put hreg hl hn ha (writeAt_wholeOf hreg _ hcw hw₂) (List.cons_ne_nil s r),
              ih (s' :: r') hrest hcw hw₁ hw₂]
      · -- two first segments: each write changes what shows under its own
        have ha₁ := writeAt_wholeOf hreg _ ha h₁
        have ha₂ := writeAt_wholeOf hreg _ ha h₂
        obtain ⟨a₁₂, h₁₂⟩ := writeAt_transfer hreg _ ha ha₁ h₂
        obtain ⟨a₂₁, h₂₁⟩ := writeAt_transfer hreg _ ha ha₂ h₁
        obtain ⟨y, hy₂, -⟩ := writeAt_changes hreg ha ha rfl h₂ h₂
        obtain ⟨x, hx₁, hx₂₁⟩ := writeAt_changes hreg ha ha₂ (hy₂.others seg hs).symm h₁ h₂₁
        obtain ⟨y', hy₁₂, hy₂'⟩ :=
          writeAt_changes hreg ha₁ ha (hx₁.others seg' (Ne.symm hs)) h₁₂ h₂
        rw [h₁₂, h₂₁, Changes.comm hs hx₁ hy₁₂ hy₂' hx₂₁]

end Writes

end Theming.Widget

/-! ## Writing outcomes -/

namespace Theming.Style.Outcome

open Theming.Value Theming.Widget

/-- An outcome lands on the whole objects of type `T` when its value, if it has one, can be
written at its path in every one of them. -/
def Lands (reg : Registry Styled) (T : String) (o : Outcome) : Prop :=
  ∀ v ∈ o.value, ∀ a : Styled, a.WholeOf T → (reg.writeAt a o.path v).isSome

/-- Two outcomes are apart when one of them writes nothing or they write different paths. -/
def Apart (o o' : Outcome) : Prop :=
  o.value = none ∨ o'.value = none ∨ o.path ≠ o'.path

section Outcomes

variable {reg : Registry Styled} (hreg : reg.Registered Lawful)
include hreg

variable {T : String} {a : Styled} {o o' : Outcome}

theorem writeInto_wholeOf (o : Outcome) (ha : a.WholeOf T) : (o.writeInto reg a).WholeOf T := by
  unfold Outcome.writeInto
  cases hv : o.value with
  | none => exact ha
  | some v =>
    cases hw : reg.writeAt a o.path v with
    | none => simpa [hw] using ha
    | some a' => simpa [hw] using writeAt_wholeOf hreg _ ha hw

omit hreg in
theorem writeInto_of_value_none (h : o.value = none) : o.writeInto reg a = a := by
  simp [Outcome.writeInto, h]

omit hreg in
theorem Lands.writeInto_eq (hl : o.Lands reg T) (ha : a.WholeOf T) {v : Value}
    (hv : o.value = some v) : ∃ a', reg.writeAt a o.path v = some a' ∧ o.writeInto reg a = a' := by
  obtain ⟨a', h⟩ := Option.isSome_iff_exists.1 (hl v hv a ha)
  exact ⟨a', h, by simp [Outcome.writeInto, hv, h]⟩

/-- An outcome that writes a path overrides any earlier outcome at the same path. -/
theorem writeInto_writeInto_same (ho : o.Lands reg T) (ho' : o'.Lands reg T)
    (hpath : o.path = o'.path) (hv' : o'.value.isSome) (ha : a.WholeOf T) :
    o'.writeInto reg (o.writeInto reg a) = o'.writeInto reg a := by
  obtain ⟨w, hw⟩ := Option.isSome_iff_exists.1 hv'
  cases hv : o.value with
  | none => rw [writeInto_of_value_none hv]
  | some v =>
    obtain ⟨a₁, h₁, hinto⟩ := ho.writeInto_eq ha hv
    have ha₁ := writeAt_wholeOf hreg _ ha h₁
    obtain ⟨a₂, h₂, hinto₂⟩ := ho'.writeInto_eq ha₁ hw
    obtain ⟨a₃, h₃, hinto₃⟩ := ho'.writeInto_eq ha hw
    rw [hinto, hinto₂, hinto₃]
    rw [← hpath] at h₂ h₃
    rw [writeAt_writeAt hreg _ ha h₁ w, h₃, Option.some.injEq] at h₂
    exact h₂.symm

/-- Outcomes apart from each other can be written in either order. -/
theorem writeInto_comm (ho : o.Lands reg T) (ho' : o'.Lands reg T) (hapart : o.Apart o')
    (ha : a.WholeOf T) :
    o'.writeInto reg (o.writeInto reg a) = o.writeInto reg (o'.writeInto reg a) := by
  rcases hapart with hv | hv' | hpath
  · rw [writeInto_of_value_none hv, writeInto_of_value_none hv]
  · rw [writeInto_of_value_none hv', writeInto_of_value_none hv']
  · cases hv : o.value with
    | none => rw [writeInto_of_value_none hv, writeInto_of_value_none hv]
    | some v =>
      cases hw : o'.value with
      | none => rw [writeInto_of_value_none hw, writeInto_of_value_none hw]
      | some w =>
        obtain ⟨a₁, h₁, hinto₁⟩ := ho.writeInto_eq ha hv
        obtain ⟨a₂, h₂, hinto₂⟩ := ho'.writeInto_eq ha hw
        obtain ⟨a₁₂, h₁₂, hinto₁₂⟩ := ho'.writeInto_eq (writeAt_wholeOf hreg _ ha h₁) hw
        obtain ⟨a₂₁, h₂₁, hinto₂₁⟩ := ho.writeInto_eq (writeAt_wholeOf hreg _ ha h₂) hv
        rw [hinto₁, hinto₂, hinto₁₂, hinto₂₁]
        rw [writeAt_comm hreg _ _ hpath ha h₁ h₂, h₂₁, Option.some.injEq] at h₁₂
        exact h₁₂.symm

/-! ### Folds of outcomes -/

variable {L M : List Outcome}

theorem foldl_writeInto_wholeOf (L : List Outcome) (ha : a.WholeOf T) :
    (L.foldl (fun t o => o.writeInto reg t) a).WholeOf T := by
  induction L generalizing a with
  | nil => exact ha
  | cons l L ih => exact ih (writeInto_wholeOf hreg l ha)

/-- An outcome written before outcomes that write its path again leaves no trace. -/
theorem foldl_writeInto_absorb (hL : ∀ l ∈ L, l.Lands reg T) (ho : o.Lands reg T)
    (hcover : o.value = none ∨ ∃ l ∈ L, l.path = o.path ∧ l.value.isSome) (ha : a.WholeOf T) :
    L.foldl (fun t o => o.writeInto reg t) (o.writeInto reg a) =
      L.foldl (fun t o => o.writeInto reg t) a := by
  induction L generalizing a with
  | nil =>
    obtain hv | ⟨l, hl, -⟩ := hcover
    · rw [writeInto_of_value_none hv]
    · cases hl
  | cons l L ih =>
    have hl := hL l (List.mem_cons_self ..)
    simp only [List.foldl_cons]
    by_cases hsame : l.path = o.path ∧ l.value.isSome
    · -- the next outcome writes the same path
      rw [writeInto_writeInto_same hreg ho hl hsame.1.symm hsame.2 ha]
    · -- the next outcome is apart; the one writing the path again comes later
      have hcover' : o.value = none ∨ ∃ l' ∈ L, l'.path = o.path ∧ l'.value.isSome := by
        rcases hcover with hv | ⟨l', hl', hcov⟩
        · exact .inl hv
        · rcases List.mem_cons.1 hl' with rfl | hl'
          · exact absurd hcov hsame
          · exact .inr ⟨l', hl', hcov⟩
      have hapart : o.Apart l := by
        by_cases hp : l.path = o.path
        · exact .inr (.inl (by simpa using fun h => hsame ⟨hp, h⟩))
        · exact .inr (.inr (Ne.symm hp))
      rw [writeInto_comm hreg ho hl hapart ha]
      exact ih (fun l' hl' => hL l' (List.mem_cons_of_mem _ hl')) hcover'
        (writeInto_wholeOf hreg l ha)

/-- Outcomes whose paths later outcomes write again leave no trace. -/
theorem foldl_writeInto_absorb_all (hL : ∀ l ∈ L, l.Lands reg T)
    (hM : ∀ m ∈ M, m.Lands reg T ∧ (m.value = none ∨ ∃ l ∈ L, l.path = m.path ∧ l.value.isSome))
    (ha : a.WholeOf T) :
    L.foldl (fun t o => o.writeInto reg t) (M.foldl (fun t o => o.writeInto reg t) a) =
      L.foldl (fun t o => o.writeInto reg t) a := by
  induction M generalizing a with
  | nil => rfl
  | cons m M ih =>
    obtain ⟨hm, hcover⟩ := hM m (List.mem_cons_self ..)
    rw [List.foldl_cons, ih (fun m' hm' => hM m' (List.mem_cons_of_mem _ hm'))
      (writeInto_wholeOf hreg m ha)]
    exact foldl_writeInto_absorb hreg hL hm hcover ha

/-- Writing outcomes twice is writing them once. -/
theorem foldl_writeInto_twice (hL : ∀ l ∈ L, l.Lands reg T) (ha : a.WholeOf T) :
    L.foldl (fun t o => o.writeInto reg t) (L.foldl (fun t o => o.writeInto reg t) a) =
      L.foldl (fun t o => o.writeInto reg t) a := by
  refine foldl_writeInto_absorb_all hreg hL (fun m hm => ⟨hL m hm, ?_⟩) ha
  -- every outcome that writes is its own later writer
  cases hv : m.value with
  | none => exact .inl rfl
  | some v => exact .inr ⟨m, hm, rfl, by simp [hv]⟩

/-- An outcome apart from a list of outcomes can be written before them or after. -/
theorem foldl_writeInto_pass (hL : ∀ l ∈ L, l.Lands reg T) (ho : o.Lands reg T)
    (hapart : ∀ l ∈ L, o.Apart l) (ha : a.WholeOf T) :
    L.foldl (fun t o => o.writeInto reg t) (o.writeInto reg a) =
      o.writeInto reg (L.foldl (fun t o => o.writeInto reg t) a) := by
  induction L generalizing a with
  | nil => rfl
  | cons l L ih =>
    have hl := hL l (List.mem_cons_self ..)
    simp only [List.foldl_cons]
    rw [writeInto_comm hreg ho hl (hapart l (List.mem_cons_self ..)) ha]
    exact ih (fun l' hl' => hL l' (List.mem_cons_of_mem _ hl'))
      (fun l' hl' => hapart l' (List.mem_cons_of_mem _ hl')) (writeInto_wholeOf hreg l ha)

/-- Lists of outcomes apart from each other can be written in either order. -/
theorem foldl_writeInto_comm (hL : ∀ l ∈ L, l.Lands reg T) (hM : ∀ m ∈ M, m.Lands reg T)
    (hapart : ∀ m ∈ M, ∀ l ∈ L, m.Apart l) (ha : a.WholeOf T) :
    L.foldl (fun t o => o.writeInto reg t) (M.foldl (fun t o => o.writeInto reg t) a) =
      M.foldl (fun t o => o.writeInto reg t) (L.foldl (fun t o => o.writeInto reg t) a) := by
  induction M generalizing a with
  | nil => rfl
  | cons m M ih =>
    have hm := hM m (List.mem_cons_self ..)
    simp only [List.foldl_cons]
    rw [ih (fun m' hm' => hM m' (List.mem_cons_of_mem _ hm'))
        (fun m' hm' => hapart m' (List.mem_cons_of_mem _ hm')) (writeInto_wholeOf hreg m ha),
      foldl_writeInto_pass hreg hL hm (hapart m (List.mem_cons_self ..)) ha]

end Outcomes

end Theming.Style.Outcome
