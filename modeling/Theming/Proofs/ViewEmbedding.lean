import Theming.Proofs.StyleLaws

/-!
# Widgets take over the view's properties

Every widget kind but the plain view registers its own properties and then embeds the view: the
view's properties are promoted into the kind's catalog, each reaching the widget's view part
through the embedding field. Here the embedding is shown to be faithful.

* The catalog of each such kind is its own properties followed by the view's, promoted, with no
  name in common (`Registry.Embeds`, `registry_catalogs`). This is read off two laws
  of building a registry: registering a type's properties under fresh names gives the type a
  catalog of exactly those (`catalogNamed?_register_fresh`), and embedding appends the promoted
  properties when no name is taken (`catalogNamed?_embed_fresh`).
* Applying a style to a widget, with a filter that lets through only view property names,
  goes step for step as applying it to the widget's view part (`applyStyleTraced_through_view`):
  the same outcomes bar the type named in a failure, the same trace, and the widget ends as it
  was with its view part replaced by the view the other application leaves. The step lemma is
  `assignAlong_through_view`, one walk along a path whose first segment names a view property;
  it needs of the view's properties only that they keep a view a view (`KeepsViews`).

`view_embedding_faithful` states both for the widget registry.
-/

set_option autoImplicit false

namespace Theming.Style

open Theming.Value Theming.Sheet

/-! ## Finding catalogs after registering and embedding -/

section Catalogs

variable {α : Type}

namespace Catalog

/-- A property under a name the catalog does not have is added at the end. -/
theorem put_fresh (c : Catalog α) {p : Property α} (h : ∀ q ∈ c.properties, q.name ≠ p.name) :
    c.put p = { c with properties := c.properties ++ [p] } := by
  have hany : c.properties.any (·.name == p.name) = false := by
    simpa using h
  simp [put, hany]

/-- Properties under pairwise distinct names that the catalog does not have are added at the end,
in order. -/
theorem foldl_put_fresh (props : List (Property α)) (hnodup : (props.map (·.name)).Nodup) :
    ∀ c : Catalog α, (∀ q ∈ c.properties, ∀ p ∈ props, q.name ≠ p.name) →
      props.foldl put c = { c with properties := c.properties ++ props } := by
  induction props with
  | nil => intro c _; simp
  | cons p props ih =>
    intro c hfresh
    simp only [List.map_cons, List.nodup_cons, List.mem_map, not_exists, not_and] at hnodup
    rw [List.foldl_cons, put_fresh c fun q hq => hfresh q hq p (List.mem_cons_self ..)]
    rw [ih hnodup.2 _ ?_]
    · simp
    · -- the names still to come are neither in the catalog nor the one just added
      intro q hq p' hp'
      rcases List.mem_append.1 hq with hq | hq
      · exact hfresh q hq p' (List.mem_cons_of_mem _ hp')
      · rw [List.mem_singleton.1 hq]
        exact fun h => hnodup.1 p' hp' h.symm

end Catalog

namespace Registry

@[simp] theorem catalogNamed?_empty (T : String) : ({} : Registry α).catalogNamed? T = none := rfl

/-- The catalog a registration or an embedding starts from is of the type it is for. -/
theorem typeName_getD_catalogNamed (r : Registry α) (T : String) :
    ((r.catalogNamed? T).getD { typeName := T }).typeName = T := by
  cases hc : r.catalogNamed? T with
  | none => rfl
  | some c => exact typeName_of_catalogNamed hc

theorem typeName_foldl_put (props : List (Property α)) (c : Catalog α) :
    (props.foldl Catalog.put c).typeName = c.typeName := by
  induction props generalizing c with
  | nil => rfl
  | cons p props ih => rw [List.foldl_cons, ih, Catalog.typeName_put]

/-- A catalog put into a registry is the one found for its type. -/
theorem catalogNamed?_update_self (r : Registry α) (c : Catalog α) :
    (r.update c).catalogNamed? c.typeName = some c := by
  unfold update catalogNamed?
  split
  · next hany =>
    -- replacing keeps which catalogs are of the type, and the first of them becomes `c`
    have hsame : ((fun d => d.typeName == c.typeName) ∘
        fun d => if d.typeName == c.typeName then c else d) = fun d => d.typeName == c.typeName := by
      funext d
      simp only [Function.comp]
      split <;> simp_all
    rw [List.find?_map, hsame]
    obtain ⟨d, hd⟩ := Option.isSome_iff_exists.1 (List.find?_isSome.2 (List.any_eq_true.1 hany))
    have hfound := List.find?_some hd
    have htype : d.typeName = c.typeName := beq_iff_eq.1 hfound
    simp [hd, htype]
  · next hany =>
    have hnone : r.catalogs.find? (·.typeName == c.typeName) = none := by
      simpa using hany
    simp [List.find?_append, hnone]

/-- A catalog put into a registry leaves the catalogs of other types as they were. -/
theorem catalogNamed?_update_of_ne (r : Registry α) (c : Catalog α) {T : String}
    (hne : T ≠ c.typeName) : (r.update c).catalogNamed? T = r.catalogNamed? T := by
  unfold update catalogNamed?
  split
  · -- a replaced catalog is of `c`'s type, so neither it nor `c` is of the type looked for
    have hsame : ((fun d => d.typeName == T) ∘
        fun d => if d.typeName == c.typeName then c else d) = fun d => d.typeName == T := by
      funext d
      by_cases hd : d.typeName = c.typeName
      · simp [hd]
      · simp [hd]
    rw [List.find?_map, hsame]
    cases hd : r.catalogs.find? (·.typeName == T) with
    | none => rfl
    | some d =>
      have htype : d.typeName = T := by simpa using List.find?_some hd
      simp [htype, hne]
  · have hc : (c.typeName == T) = false := by simpa using Ne.symm hne
    simp [List.find?_append, hc]

/-- Registering properties leaves the catalogs of other types as they were. -/
theorem catalogNamed?_register_of_ne {r r' : Registry α} {T T' : String}
    {props : List (Property α)} (h : r.register T props = .ok r') (hne : T' ≠ T) :
    r'.catalogNamed? T' = r.catalogNamed? T' := by
  unfold register at h
  split at h
  · cases h
  · cases h
    refine catalogNamed?_update_of_ne _ _ ?_
    rwa [typeName_foldl_put, typeName_getD_catalogNamed]

/-- Registering properties under pairwise distinct names for a type without a catalog gives it a
catalog of exactly those properties. -/
theorem catalogNamed?_register_fresh {r r' : Registry α} {T : String} {props : List (Property α)}
    (h : r.register T props = .ok r') (hnone : r.catalogNamed? T = none)
    (hnodup : (props.map (·.name)).Nodup) :
    r'.catalogNamed? T = some { typeName := T, properties := props } := by
  unfold register at h
  split at h
  · cases h
  · cases h
    rw [hnone, Option.getD_none, Catalog.foldl_put_fresh props hnodup _ fun q hq => by cases hq]
    exact catalogNamed?_update_self _ _

variable [Styleable α]

@[simp] theorem name_promote (outer : String) (field : Nested α) (p : Property α) :
    (promote outer field p).name = p.name := rfl

/-- Embedding leaves the catalogs of types other than the outer one as they were. -/
theorem catalogNamed?_embed_of_ne {r r' : Registry α} {outer inner T : String} {field : Nested α}
    (h : r.embed outer inner field = .ok r') (hne : T ≠ outer) :
    r'.catalogNamed? T = r.catalogNamed? T := by
  unfold embed at h
  split at h
  · cases h
  · cases h
    refine catalogNamed?_update_of_ne _ _ ?_
    -- the folded catalog keeps the outer type's name
    have hkeep : ∀ (ps : List (Property α)) (o : Catalog α), (ps.foldl (fun (o : Catalog α) p =>
        if o.properties.any (·.name == p.name) then o else o.put (promote outer field p)) o).typeName =
          o.typeName := by
      intro ps
      induction ps with
      | nil => intro o; rfl
      | cons p ps ih =>
        intro o
        rw [List.foldl_cons, ih]
        split <;> simp
    rwa [hkeep, typeName_getD_catalogNamed]

/-- Embedding an inner type whose property names are pairwise distinct into an outer type whose
own names are none of them appends the inner properties, promoted through the field, to the
outer catalog. -/
theorem catalogNamed?_embed_fresh {r r' : Registry α} {outer inner : String} {field : Nested α}
    (h : r.embed outer inner field = .ok r') {c : Catalog α} (hc : r.catalogNamed? inner = some c)
    {own : List (Property α)}
    (ho : r.catalogNamed? outer = some { typeName := outer, properties := own })
    (hnodup : (c.properties.map (·.name)).Nodup)
    (hdisjoint : ∀ p ∈ own, ∀ q ∈ c.properties, p.name ≠ q.name) :
    r'.catalogNamed? outer =
      some { typeName := outer, properties := own ++ c.properties.map (promote outer field) } := by
  unfold embed at h
  rw [hc, ho, Option.getD_some] at h
  cases h
  -- no inner name is taken when its turn comes, so every step puts the promoted property
  have hfold : ∀ (ps : List (Property α)), (ps.map (·.name)).Nodup → ∀ pre : List (Property α),
      (∀ p ∈ pre, ∀ q ∈ ps, p.name ≠ q.name) →
      ps.foldl (fun (o : Catalog α) p => if o.properties.any (·.name == p.name) then o
          else o.put (promote outer field p)) { typeName := outer, properties := pre } =
        { typeName := outer, properties := pre ++ ps.map (promote outer field) } := by
    intro ps
    induction ps with
    | nil => intro _ pre _; simp
    | cons q ps ih =>
      intro hnd pre hpre
      simp only [List.map_cons, List.nodup_cons, List.mem_map, not_exists, not_and] at hnd
      have hany : pre.any (·.name == q.name) = false := by
        simpa using fun p hp => hpre p hp q (List.mem_cons_self ..)
      have hput : ({ typeName := outer, properties := pre } : Catalog α).put (promote outer field q) =
          { typeName := outer, properties := pre ++ [promote outer field q] } :=
        Catalog.put_fresh _ fun p hp => hpre p hp q (List.mem_cons_self ..)
      rw [List.foldl_cons, hany, if_neg Bool.false_ne_true, hput]
      rw [ih hnd.2 (pre ++ [promote outer field q]) ?_]
      · simp
      · intro p hp q' hq'
        rcases List.mem_append.1 hp with hp | hp
        · exact hpre p hp q' (List.mem_cons_of_mem _ hq')
        · rw [List.mem_singleton.1 hp, name_promote]
          exact fun h => hnd.1 q' hq' h.symm
  rw [hfold c.properties hnodup own hdisjoint]
  exact catalogNamed?_update_self _ _

end Registry

end Catalogs

end Theming.Style

namespace Theming.Style

/-! ## Embedded catalogs -/

section Embedded

variable {α : Type} [Styleable α]

/-- The catalog of the outer type holds properties of its own, under the names `own`, followed by
every property of the inner type's catalog promoted through `field`, and no name is in both. -/
def Registry.Embeds (r : Registry α) (outer inner : String) (field : Nested α) (own : List String) :
    Prop :=
  ∃ c ownProps, r.catalogNamed? inner = some c ∧
    r.catalogNamed? outer =
      some { typeName := outer, properties := ownProps ++ c.properties.map (promote outer field) } ∧
    ownProps.map (·.name) = own ∧ ∀ n ∈ own, n ∉ c.properties.map (·.name)

@[simp] theorem Registry.type_promote (outer : String) (field : Nested α) (p : Property α) :
    (Registry.promote outer field p).type = p.type := rfl

@[simp] theorem Registry.nested_promote (outer : String) (field : Nested α) (p : Property α) :
    (Registry.promote outer field p).nested = p.nested.map field.andThen := rfl

/-- A promoted property stores into the object the field finds and puts the changed one back. -/
theorem Registry.store_promote_eq (outer : String) (field : Nested α) (p : Property α) :
    (Registry.promote outer field p).store = p.store.map fun store a v =>
      match field.get a with
      | some e => (store e v).map (field.put a)
      | none => .error (Registry.mismatch p.name outer a) := rfl

/-- In an embedding catalog, a name the outer type does not have of its own names the promoted
property of that name. -/
theorem Catalog.property?_embeds {outer : String} {field : Nested α} {own : List (Property α)}
    {c : Catalog α} {seg : String} (hseg : seg ∉ own.map (·.name)) :
    ({ typeName := outer, properties := own ++ c.properties.map (Registry.promote outer field) } :
      Catalog α).property? seg = (c.property? seg).map (Registry.promote outer field) := by
  have hown : own.find? (·.name == seg) = none := by
    simpa using fun p hp h => hseg (List.mem_map.2 ⟨p, hp, h⟩)
  have hcomp : ((fun p : Property α => p.name == seg) ∘ Registry.promote outer field) =
      fun p => p.name == seg := rfl
  simp only [property?, List.find?_append, hown, List.find?_map, hcomp, Option.none_or]

end Embedded

/-- What an outcome reports bar its failure: the path, the line, the status and the value
applied. -/
def Outcome.summary (o : Outcome) : Theming.Sheet.Path × Nat × Status × Option Theming.Value.Value :=
  (o.path, o.line, o.status, o.value)

end Theming.Style

namespace Theming.Widget

open Theming.Value Theming.Style Theming.Sheet

/-! ## Properties that keep a view a view -/

/-- A property that keeps a view a view: storing into a view gives a view, and so does putting
any object back into a view through the property's nested object. -/
def KeepsViews (p : Property Styled) : Prop :=
  (∀ store ∈ p.store, ∀ v x c, store (.widget (.view v)) x = .ok c → ∃ v', c = .widget (.view v')) ∧
    ∀ n ∈ p.nested, ∀ v c, ∃ v', n.put (.widget (.view v)) c = .widget (.view v')

/-- A stored field of views writes the view it finds. -/
theorem keepsViews_field {ν : Type} (name : String) (type : ValueType) (zero : ν)
    (read : Value → Option ν) (write : View → ν → View) :
    KeepsViews (Facets.view.field name type zero read write) := by
  refine ⟨fun store hs v x c h => ?_, fun n hn => by cases hn⟩
  cases hs
  simp only [Facets.view] at h
  split at h
  · exact ⟨_, (Except.ok.inj h).symm⟩
  · split at h
    · exact ⟨_, (Except.ok.inj h).symm⟩
    · cases h

/-- An object property of views puts the changed object back into the view it came from. -/
theorem keepsViews_object (name : String) (get : View → Option Styled) (put : View → Styled → View) :
    KeepsViews (Facets.view.object name get put) := by
  refine ⟨fun store hs => (by cases hs), fun n hn v c => ?_⟩
  cases hn
  exact ⟨put v c, rfl⟩

/-! ## Walking through the view part -/

section ThroughView

variable {τ : Type}

/-- How a widget kind holds its view part: its facet recognises what it wraps, a wrapped widget is
present and of the facet's type, the part written is the part read, a second write replaces the
first, and writing back the part read changes nothing. -/
structure ViewPart (f : Facet Styled τ) (part : τ → View) (rebuild : τ → View → τ) : Prop where
  cast_wrap : ∀ t, f.cast (f.wrap t) = some t
  isNil_wrap : ∀ t, Styleable.isNil (f.wrap t) = false
  typeName_wrap : ∀ t, Styleable.typeName (f.wrap t) = f.typeName
  part_rebuild : ∀ t v, part (rebuild t v) = v
  rebuild_rebuild : ∀ t v v', rebuild (rebuild t v) v' = rebuild t v'
  rebuild_part : ∀ t, rebuild t (part t) = t

variable {f : Facet Styled τ} {part : τ → View} {rebuild : τ → View → τ}

theorem ViewPart.get (hvp : ViewPart f part rebuild) (t : τ) :
    (viewField f part rebuild).get (f.wrap t) = some (.widget (.view (part t))) := by
  simp [viewField, hvp.cast_wrap]

theorem ViewPart.put (hvp : ViewPart f part rebuild) (t : τ) (v : View) :
    (viewField f part rebuild).put (f.wrap t) (.widget (.view v)) = f.wrap (rebuild t v) := by
  simp [viewField, hvp.cast_wrap]

/-- Results of a walk from a widget and of one from its view part that agree: the same status and
value, a view left by the second walk, and the widget left by the first with that view part. -/
def ThroughView (f : Facet Styled τ) (rebuild : τ → View → τ) (t : τ)
    (r r' : Styled × Status × Option Value × Option Fault) : Prop :=
  r.2.1 = r'.2.1 ∧ r.2.2.1 = r'.2.2.1 ∧ ∃ v', r'.1 = .widget (.view v') ∧ r.1 = f.wrap (rebuild t v')

/-- Two walks that stop where they stand agree when they report alike. -/
theorem ThroughView.stay (hvp : ViewPart f part rebuild) (t : τ) (st : Status)
    (x y : Option Fault) :
    ThroughView f rebuild t (f.wrap t, st, none, x) (.widget (.view (part t)), st, none, y) :=
  ⟨rfl, rfl, part t, rfl, by rw [hvp.rebuild_part]⟩

variable {reg : Registry Styled} {eng : Engine} {path : String} {raw : RawValue}
  {outerCat viewCat : Catalog Styled}

/-- The step lemma: a walk from a widget along a path whose first segment names a promoted view
property goes as the walk from the widget's view part. Both find the same property (the widget's
is the view's, promoted), take the same branches, coerce on the same trace and, past the first
segment, walk from the same nested object; a view property keeps the view part a view. -/
theorem assignAlong_through_view (hvp : ViewPart f part rebuild)
    (houter : reg.catalogNamed? f.typeName = some outerCat)
    (hview : reg.catalogNamed? Facets.view.typeName = some viewCat)
    (hkeeps : ∀ p ∈ viewCat.properties, KeepsViews p) {seg : String}
    (hseg : outerCat.property? seg =
      (viewCat.property? seg).map (Registry.promote f.typeName (viewField f part rebuild)))
    (rest : List String) (t : τ) :
    Traced.Same (assignAlong reg eng path raw (f.wrap t) (seg :: rest))
      (assignAlong reg eng path raw (.widget (.view (part t))) (seg :: rest))
      (ThroughView f rebuild t) := by
  have hcat : reg.catalog? (f.wrap t) = some outerCat := by
    rw [Registry.catalog?, hvp.typeName_wrap]
    exact houter
  have hcat' : reg.catalog? (Styled.widget (.view (part t))) = some viewCat := hview
  have hnil' : Styleable.isNil (Styled.widget (.view (part t))) = false := rfl
  rw [assignAlong, assignAlong]
  simp only [hvp.isNil_wrap, hnil', hcat, hcat', hseg, Bool.false_eq_true, if_false]
  cases hp : viewCat.property? seg with
  | none => exact Traced.Same.pure (ThroughView.stay hvp t _ _ _)
  | some p =>
    have hkp := hkeeps p (List.mem_of_find?_eq_some hp)
    cases rest with
    | nil =>
      simp only [Option.map_some, List.isEmpty_nil, Bool.not_true, Bool.false_eq_true, if_false,
        Registry.type_promote]
      -- both coerce to the same type on the same trace
      refine Traced.Same.bind (Traced.Same.of_always (Traced.Always.trivial _)) fun r r' h => ?_
      obtain ⟨rfl, -⟩ := h
      cases r with
      | error err => exact Traced.Same.pure (ThroughView.stay hvp t _ _ _)
      | ok v =>
        refine Traced.Same.pure ?_
        cases hs : p.store with
        | none => simpa [Registry.store_promote_eq, hs] using ThroughView.stay hvp t _ _ _
        | some store =>
          simp only [Registry.store_promote_eq, hs, Option.map_some, hvp.get]
          -- the promoted store is the view's store, its result put back into the widget
          cases hst : store (.widget (.view (part t))) v with
          | error msg => exact ThroughView.stay hvp t _ _ _
          | ok c =>
            obtain ⟨v', rfl⟩ := hkp.1 store hs (part t) v c hst
            exact ⟨rfl, rfl, v', rfl, hvp.put t v'⟩
    | cons s r =>
      simp only [Option.map_some, List.isEmpty_cons, Bool.not_false, if_true, Registry.type_promote,
        Registry.nested_promote]
      refine Traced.Same.ite (fun _ => Traced.Same.pure (ThroughView.stay hvp t _ _ _)) fun _ => ?_
      cases hn : p.nested with
      | none => exact Traced.Same.pure (ThroughView.stay hvp t _ _ _)
      | some n =>
        -- through the field the widget leads to the object the view part leads to
        simp only [Option.map_some, Nested.andThen, hvp.get, Option.bind_some]
        cases hc : n.get (.widget (.view (part t))) with
        | none => exact Traced.Same.pure (ThroughView.stay hvp t _ _ _)
        | some child =>
          refine Traced.Same.bind (Traced.Same.of_always (Traced.Always.trivial _)) fun r r' h => ?_
          obtain ⟨rfl, -⟩ := h
          obtain ⟨v', hv'⟩ := hkp.2 n hn (part t) r.1
          refine Traced.Same.pure ⟨rfl, rfl, v', hv', ?_⟩
          simp only [hv', hvp.put]

/-- One assignment applied to a widget, whose path starts with a promoted view property, reports
as the same assignment applied to the widget's view part, bar the type named in a failure. -/
theorem assign_through_view (eng : Engine) (hvp : ViewPart f part rebuild)
    (houter : reg.catalogNamed? f.typeName = some outerCat)
    (hview : reg.catalogNamed? Facets.view.typeName = some viewCat)
    (hkeeps : ∀ p ∈ viewCat.properties, KeepsViews p) (x : Assignment)
    (hx : ∀ seg rest, x.path = seg :: rest → outerCat.property? seg =
      (viewCat.property? seg).map (Registry.promote f.typeName (viewField f part rebuild)))
    (t : τ) :
    Traced.Same (assign reg eng (f.wrap t) x) (assign reg eng (.widget (.view (part t))) x)
      fun r r' => r.2.summary = r'.2.summary ∧
        ∃ v', r'.1 = .widget (.view v') ∧ r.1 = f.wrap (rebuild t v') := by
  have hwalk : Traced.Same (assignAlong reg eng x.path.render x.value (f.wrap t) x.path)
      (assignAlong reg eng x.path.render x.value (.widget (.view (part t))) x.path)
      (ThroughView f rebuild t) := by
    cases hp : x.path with
    | nil => exact Traced.Same.pure (ThroughView.stay hvp t _ _ _)
    | cons seg rest => exact assignAlong_through_view hvp houter hview hkeeps (hx seg rest hp) rest t
  unfold assign
  refine Traced.Same.bind hwalk fun r r' h => ?_
  obtain ⟨u, st, v, fl⟩ := r
  obtain ⟨u', st', v', fl'⟩ := r'
  obtain ⟨hst, hv, w, hu', hu⟩ := h
  dsimp only at hst hv hu' hu
  subst hst hv
  -- the failure is noted on both sides alike
  exact Traced.Same.ite (fun _ => Traced.Same.then_pure ⟨rfl, w, hu', hu⟩)
    fun _ => Traced.Same.pure ⟨rfl, w, hu', hu⟩

/-- A style applied to a widget, with a filter of names that each name a promoted view property,
goes as the style applied to the widget's view part: the outcomes agree bar the type named in a
failure, the trace is the same, and the widget is left as it was with its view part replaced by
the view the other application leaves. -/
theorem applyStyleTraced_through_view (hvp : ViewPart f part rebuild)
    (houter : reg.catalogNamed? f.typeName = some outerCat)
    (hview : reg.catalogNamed? Facets.view.typeName = some viewCat)
    (hkeeps : ∀ p ∈ viewCat.properties, KeepsViews p) {names : List String}
    (hnames : ∀ n ∈ names, outerCat.property? n =
      (viewCat.property? n).map (Registry.promote f.typeName (viewField f part rebuild)))
    (sheet : Option StyleSheet) (styleName : String) (t : τ) :
    Traced.Same (applyStyleTraced reg eng sheet (f.wrap t) styleName (some names))
      (applyStyleTraced reg eng sheet (.widget (.view (part t))) styleName (some names))
      fun r r' => r.2.map (·.map Outcome.summary) = r'.2.map (·.map Outcome.summary) ∧
        ∃ v', r'.1 = .widget (.view v') ∧ r.1 = f.wrap (rebuild t v') := by
  unfold applyStyleTraced
  split
  · exact Traced.Same.then_pure ⟨rfl, part t, rfl, by rw [hvp.rebuild_part]⟩
  · -- the outcomes so far agree, and the widget holds the view the other application holds
    refine Traced.Same.bind (Traced.Same.foldlM
      (fun u u' => u.2.map Outcome.summary = u'.2.map Outcome.summary ∧
        ∃ v, u'.1 = .widget (.view v) ∧ u.1 = f.wrap (rebuild t v)) _ ?_
      ⟨rfl, part t, rfl, by rw [hvp.rebuild_part]⟩) fun u u' h => ?_
    · intro u u' hu x hx
      obtain ⟨w, acc⟩ := u
      obtain ⟨w', acc'⟩ := u'
      obtain ⟨hacc, v, hw', hw⟩ := hu
      dsimp only at hacc hw' hw
      subst hw' hw
      -- the filter let `x` through, so its path starts with one of the names
      have hhead : x.path.head ∈ names := by
        simpa using (List.mem_filter.1 hx).2
      have hstep := assign_through_view eng hvp houter hview hkeeps x
        (fun seg rest hp => hnames seg (by rw [hp] at hhead; exact hhead)) (rebuild t v)
      rw [hvp.part_rebuild] at hstep
      refine Traced.Same.bind hstep fun r r' h => ?_
      obtain ⟨hs, v', hr', hr⟩ := h
      refine Traced.Same.pure ⟨?_, v', hr', ?_⟩
      · simp [hacc, hs]
      · rw [hr, hvp.rebuild_rebuild]
    · obtain ⟨hacc, v, hu', hu⟩ := h
      refine Traced.Same.then_pure ⟨?_, v, hu', hu⟩
      simp [List.map_reverse, hacc]

end ThroughView

/-! ## The widget registry -/

/-- Every widget kind but the plain view holds its view part as its `view` field. -/
theorem viewPart_kinds :
    ViewPart Facets.label (·.view) (fun w v => { w with view := v }) ∧
      ViewPart Facets.imageView (·.view) (fun w v => { w with view := v }) ∧
      ViewPart Facets.tableViewCell (·.view) (fun w v => { w with view := v }) ∧
      ViewPart Facets.tableView (·.view) (fun w v => { w with view := v }) ∧
      ViewPart Facets.navigationBar (·.view) (fun w v => { w with view := v }) := by
  refine ⟨?_, ?_, ?_, ?_, ?_⟩ <;>
    exact ⟨fun _ => rfl, fun _ => rfl, fun _ => rfl, fun _ _ => rfl, fun _ _ _ => rfl, fun _ => rfl⟩

/-- The view's catalog in the widget registry has exactly the view's property names, each of its
properties keeps a view a view, and every other widget kind's catalog is its own properties
followed by the view's, promoted through its `view` field. -/
theorem registry_catalogs :
    (∃ c, registry.catalogNamed? Facets.view.typeName = some c ∧
      c.properties.map (·.name) = View.names ∧ ∀ p ∈ c.properties, KeepsViews p) ∧
    registry.Embeds Facets.label.typeName Facets.view.typeName
      (viewField Facets.label (·.view) fun w v => { w with view := v })
      ["text", "textColor", "font", "shadowColor", "shadowOffset", "numberOfLines",
        "textAlignment"] ∧
    registry.Embeds Facets.imageView.typeName Facets.view.typeName
      (viewField Facets.imageView (·.view) fun w v => { w with view := v })
      ["image", "highlightedImage"] ∧
    registry.Embeds Facets.tableViewCell.typeName Facets.view.typeName
      (viewField Facets.tableViewCell (·.view) fun w v => { w with view := v })
      ["textLabel", "detailTextLabel", "selectedBackgroundView", "accessoryType"] ∧
    registry.Embeds Facets.tableView.typeName Facets.view.typeName
      (viewField Facets.tableView (·.view) fun w v => { w with view := v })
      ["separatorStyle", "separatorColor", "rowHeight"] ∧
    registry.Embeds Facets.navigationBar.typeName Facets.view.typeName
      (viewField Facets.navigationBar (·.view) fun w v => { w with view := v })
      ["backgroundImage", "tintColor", "translucent"] := by
  have hok : registryChecked.toBool = true := by decide
  unfold registry
  split
  · next r h =>
    simp only [registryChecked, Theming.Sheet.bind_eq_ok] at h
    obtain ⟨r₁, h₁, r₂, h₂, r₃, h₃, r₄, h₄, r₅, h₅, r₆, h₆, r₇, h₇, r₈, h₈, r₉, h₉, r₁₀, h₁₀, r₁₁,
      h₁₁, h₁₂⟩ := h
    -- each step builds the catalog of one type and leaves the others as they were: no type has
    -- a catalog before it is registered, the view's is untouched after its registration, and
    -- each kind's is untouched after its embedding
    obtain ⟨nV, nL, nI, nC, nT, nB, vL, vI, vC, vT, vB, vr, fL, fI, fC, fT⟩ :
        r₁.catalogNamed? Facets.view.typeName = none ∧
        r₂.catalogNamed? Facets.label.typeName = none ∧
        r₄.catalogNamed? Facets.imageView.typeName = none ∧
        r₆.catalogNamed? Facets.tableViewCell.typeName = none ∧
        r₈.catalogNamed? Facets.tableView.typeName = none ∧
        r₁₀.catalogNamed? Facets.navigationBar.typeName = none ∧
        r₃.catalogNamed? Facets.view.typeName = r₂.catalogNamed? Facets.view.typeName ∧
        r₅.catalogNamed? Facets.view.typeName = r₂.catalogNamed? Facets.view.typeName ∧
        r₇.catalogNamed? Facets.view.typeName = r₂.catalogNamed? Facets.view.typeName ∧
        r₉.catalogNamed? Facets.view.typeName = r₂.catalogNamed? Facets.view.typeName ∧
        r₁₁.catalogNamed? Facets.view.typeName = r₂.catalogNamed? Facets.view.typeName ∧
        r.catalogNamed? Facets.view.typeName = r₂.catalogNamed? Facets.view.typeName ∧
        r.catalogNamed? Facets.label.typeName = r₄.catalogNamed? Facets.label.typeName ∧
        r.catalogNamed? Facets.imageView.typeName = r₆.catalogNamed? Facets.imageView.typeName ∧
        r.catalogNamed? Facets.tableViewCell.typeName =
          r₈.catalogNamed? Facets.tableViewCell.typeName ∧
        r.catalogNamed? Facets.tableView.typeName = r₁₀.catalogNamed? Facets.tableView.typeName := by
      simp (disch := decide) only [Registry.catalogNamed?_register_of_ne h₁,
        Registry.catalogNamed?_register_of_ne h₂, Registry.catalogNamed?_register_of_ne h₃,
        Registry.catalogNamed?_embed_of_ne h₄, Registry.catalogNamed?_register_of_ne h₅,
        Registry.catalogNamed?_embed_of_ne h₆, Registry.catalogNamed?_register_of_ne h₇,
        Registry.catalogNamed?_embed_of_ne h₈, Registry.catalogNamed?_register_of_ne h₉,
        Registry.catalogNamed?_embed_of_ne h₁₀, Registry.catalogNamed?_register_of_ne h₁₁,
        Registry.catalogNamed?_embed_of_ne h₁₂, Registry.catalogNamed?_empty, and_self]
    have hV := Registry.catalogNamed?_register_fresh h₂ nV (by decide)
    refine ⟨⟨_, vr.trans hV, by decide, List.forall_iff_forall_mem.1 ⟨keepsViews_field _ _ _ _ _,
      keepsViews_field _ _ _ _ _, keepsViews_field _ _ _ _ _, keepsViews_field _ _ _ _ _,
      keepsViews_field _ _ _ _ _, keepsViews_field _ _ _ _ _, keepsViews_field _ _ _ _ _,
      keepsViews_object _ _ _, keepsViews_field _ _ _ _ _⟩⟩, ?_, ?_, ?_, ?_, ?_⟩
    -- each kind registers its own names, none of them a view name, and then embeds the view
    · exact ⟨_, _, vr.trans hV, fL.trans (Registry.catalogNamed?_embed_fresh h₄ (vL.trans hV)
        (Registry.catalogNamed?_register_fresh h₃ nL (by decide)) (by decide) (by decide)),
        by decide, by decide⟩
    · exact ⟨_, _, vr.trans hV, fI.trans (Registry.catalogNamed?_embed_fresh h₆ (vI.trans hV)
        (Registry.catalogNamed?_register_fresh h₅ nI (by decide)) (by decide) (by decide)),
        by decide, by decide⟩
    · exact ⟨_, _, vr.trans hV, fC.trans (Registry.catalogNamed?_embed_fresh h₈ (vC.trans hV)
        (Registry.catalogNamed?_register_fresh h₇ nC (by decide)) (by decide) (by decide)),
        by decide, by decide⟩
    · exact ⟨_, _, vr.trans hV, fT.trans (Registry.catalogNamed?_embed_fresh h₁₀ (vT.trans hV)
        (Registry.catalogNamed?_register_fresh h₉ nT (by decide)) (by decide) (by decide)),
        by decide, by decide⟩
    · exact ⟨_, _, vr.trans hV, Registry.catalogNamed?_embed_fresh h₁₂ (vB.trans hV)
        (Registry.catalogNamed?_register_fresh h₁₁ nB (by decide)) (by decide) (by decide),
        by decide, by decide⟩
  · next e h =>
    rw [h] at hok
    cases hok

/-- A widget kind whose catalog embeds the view's applies a style with a filter of view property
names as its view part does: the same outcomes bar the type named in a failure, and the widget
ends as it was with its view part replaced by the view the other application leaves. -/
theorem applyStyle_through_view_of_embeds {τ : Type} {f : Facet Styled τ} {part : τ → View}
    {rebuild : τ → View → τ} (hvp : ViewPart f part rebuild) {own : List String}
    (hemb : registry.Embeds f.typeName Facets.view.typeName (viewField f part rebuild) own)
    (hview : ∃ c, registry.catalogNamed? Facets.view.typeName = some c ∧
      c.properties.map (·.name) = View.names ∧ ∀ p ∈ c.properties, KeepsViews p)
    (eng : Engine) (sheet : Option StyleSheet) (styleName : String) {names : List String}
    (hnames : ∀ n ∈ names, n ∈ View.names) (t : τ) :
    (applyStyle registry eng sheet (f.wrap t) styleName (some names)).2.map
        (·.map Outcome.summary) =
      (applyStyle registry eng sheet (.widget (.view (part t))) styleName (some names)).2.map
        (·.map Outcome.summary) ∧
    ∃ v, (applyStyle registry eng sheet (.widget (.view (part t))) styleName (some names)).1 =
        .widget (.view v) ∧
      (applyStyle registry eng sheet (f.wrap t) styleName (some names)).1 = f.wrap (rebuild t v) := by
  obtain ⟨c, ownProps, hc, ho, hown, hdisjoint⟩ := hemb
  obtain ⟨c', hc', hnames', hkeeps⟩ := hview
  obtain rfl : c' = c := Option.some.inj (hc'.symm.trans hc)
  -- a view name is not one of the kind's own, so it names the promoted view property
  have hlookup : ∀ n ∈ names, ({ typeName := f.typeName, properties :=
      ownProps ++ c'.properties.map (Registry.promote f.typeName (viewField f part rebuild)) } :
        Catalog Styled).property? n =
      (c'.property? n).map (Registry.promote f.typeName (viewField f part rebuild)) := by
    intro n hn
    refine Catalog.property?_embeds fun hmem => hdisjoint n (hown ▸ hmem) ?_
    rw [hnames']
    exact hnames n hn
  exact (applyStyleTraced_through_view hvp ho hc' hkeeps hlookup sheet styleName t {}).1

/-- The view's properties are faithfully promoted into every other widget kind. The view's
catalog has exactly the view's property names; the catalog of a label, an image view, a table
cell, a table and a navigation bar is the kind's own properties, under the names listed, followed
by every view property promoted through the widget's `view` field, with no name in both. And for
every widget other than a plain view, every engine, sheet and style, applying the style with a
filter of view property names gives outcomes with the same paths, lines, statuses and values as
applying it to the widget's view part; that other application leaves a view, and the widget is
left as it was with its view part replaced by that view. -/
theorem view_embedding_faithful :
    (∃ c, registry.catalogNamed? Facets.view.typeName = some c ∧
      c.properties.map (·.name) = View.names) ∧
    registry.Embeds Facets.label.typeName Facets.view.typeName
      (viewField Facets.label (·.view) fun w v => { w with view := v })
      ["text", "textColor", "font", "shadowColor", "shadowOffset", "numberOfLines",
        "textAlignment"] ∧
    registry.Embeds Facets.imageView.typeName Facets.view.typeName
      (viewField Facets.imageView (·.view) fun w v => { w with view := v })
      ["image", "highlightedImage"] ∧
    registry.Embeds Facets.tableViewCell.typeName Facets.view.typeName
      (viewField Facets.tableViewCell (·.view) fun w v => { w with view := v })
      ["textLabel", "detailTextLabel", "selectedBackgroundView", "accessoryType"] ∧
    registry.Embeds Facets.tableView.typeName Facets.view.typeName
      (viewField Facets.tableView (·.view) fun w v => { w with view := v })
      ["separatorStyle", "separatorColor", "rowHeight"] ∧
    registry.Embeds Facets.navigationBar.typeName Facets.view.typeName
      (viewField Facets.navigationBar (·.view) fun w v => { w with view := v })
      ["backgroundImage", "tintColor", "translucent"] ∧
    ∀ (w : Widget), w.typeName ≠ Facets.view.typeName →
      ∀ (eng : Engine) (sheet : Option StyleSheet) (styleName : String) (names : List String),
      (∀ n ∈ names, n ∈ View.names) →
      (applyStyle registry eng sheet (.widget w) styleName (some names)).2.map
          (·.map Outcome.summary) =
        (applyStyle registry eng sheet (.widget (.view w.base)) styleName (some names)).2.map
          (·.map Outcome.summary) ∧
      ∃ v, (applyStyle registry eng sheet (.widget (.view w.base)) styleName (some names)).1 =
          .widget (.view v) ∧
        (applyStyle registry eng sheet (.widget w) styleName (some names)).1 =
          .widget (w.withBase v) := by
  obtain ⟨⟨c, hc, hcnames, hkeeps⟩, eL, eI, eC, eT, eB⟩ := registry_catalogs
  obtain ⟨pL, pI, pC, pT, pB⟩ := viewPart_kinds
  have hview : ∃ c, registry.catalogNamed? Facets.view.typeName = some c ∧
      c.properties.map (·.name) = View.names ∧ ∀ p ∈ c.properties, KeepsViews p :=
    ⟨c, hc, hcnames, hkeeps⟩
  refine ⟨⟨c, hc, hcnames⟩, eL, eI, eC, eT, eB, fun w hw eng sheet styleName names hnames => ?_⟩
  -- each kind but the plain view holds its view part as its `view` field
  cases w with
  | view v => exact absurd rfl hw
  | label l => exact applyStyle_through_view_of_embeds pL eL hview eng sheet styleName hnames l
  | imageView i => exact applyStyle_through_view_of_embeds pI eI hview eng sheet styleName hnames i
  | tableViewCell t =>
    exact applyStyle_through_view_of_embeds pC eC hview eng sheet styleName hnames t
  | tableView t => exact applyStyle_through_view_of_embeds pT eT hview eng sheet styleName hnames t
  | navigationBar b =>
    exact applyStyle_through_view_of_embeds pB eB hview eng sheet styleName hnames b

/-- A label styled with `frame` and `layer.cornerRadius` under a filter of view names: the
hypotheses hold, and so the label's outcomes and its view part are those of its view. -/
theorem label_frame_through_view :
    (Widget.label {}).typeName ≠ Facets.view.typeName ∧
    (∀ n ∈ ["frame", "layer"], n ∈ View.names) ∧
    let sheet : Option StyleSheet := some { styles := [("s", [
      { path := ["frame"], value := { kind := .rect, numbers := [0, 0, 40, 10] }, line := 1 },
      { path := ["layer", "cornerRadius"], value := { kind := .number, numbers := [2] }, line := 2 },
      { path := ["text"], value := { kind := .string, text := "hello" }, line := 3 }])] }
    (applyStyle registry {} sheet (.widget (.label {})) "s" (some ["frame", "layer"])).2.map
        (·.map Outcome.summary) =
      (applyStyle registry {} sheet (.widget (.view (Widget.label {}).base)) "s"
        (some ["frame", "layer"])).2.map (·.map Outcome.summary) ∧
    ∃ v, (applyStyle registry {} sheet (.widget (.view (Widget.label {}).base)) "s"
        (some ["frame", "layer"])).1 = .widget (.view v) ∧
      (applyStyle registry {} sheet (.widget (.label {})) "s" (some ["frame", "layer"])).1 =
        .widget ((Widget.label {}).withBase v) :=
  ⟨by decide, by decide, view_embedding_faithful.2.2.2.2.2.2 (.label {}) (by decide) {} _ "s"
    ["frame", "layer"] (by decide)⟩

end Theming.Widget
