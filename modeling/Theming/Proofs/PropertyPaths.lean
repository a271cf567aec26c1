import Theming.Widget.Registry
import Theming.Proofs.SheetParse
import Theming.Proofs.CoercionResults

/-!
# Walking property paths

A property path is walked from a target: every segment but the last names an object property
leading to a present object, and the last names the property written. The walk is stated here on
its own terms:

* `descend`: the object a run of object properties leads to;
* `Stops`: a segment at which a walk cannot go on;
* `writeAt`: writing a value to the property a path names, each changed object put back into
  the object holding it.

Registering and embedding keep whatever every registered property satisfies for its type, as
long as the new properties satisfy it and promotion carries it to the outer type
(`Registry.Registered`, `registered_register`, `registered_embed`). One such fact is that putting
back a nested object that was got unchanged leaves its holder as it was (`Nested.GetPut`): every
registry built from properties with that law has it (`getPut_register`, `getPut_embed`), and so
does the widget registry (`Theming.Widget.registry_getPut`).
-/

set_option autoImplicit false

namespace Theming.Style

open Theming.Value

/-! ## What every registered property satisfies -/

section Registered

variable {α : Type}

/-- Every property of every catalog of a registry satisfies `P` for the type the catalog is of. -/
def Registry.Registered (P : String → Property α → Prop) (r : Registry α) : Prop :=
  ∀ c ∈ r.catalogs, ∀ p ∈ c.properties, P c.typeName p

namespace Catalog

@[simp] theorem typeName_put (c : Catalog α) (p : Property α) : (c.put p).typeName = c.typeName := by
  unfold put
  split <;> rfl

theorem mem_put {c : Catalog α} {p q : Property α} (h : q ∈ (c.put p).properties) :
    q ∈ c.properties ∨ q = p := by
  unfold put at h
  split at h
  · obtain ⟨q', hq', rfl⟩ := List.mem_map.1 h
    split
    · exact .inr rfl
    · exact .inl hq'
  · simpa using h

/-- A fold that at each step keeps the catalog or puts into it a property satisfying `P` for the
catalog's type keeps `P` of all its properties. -/
theorem foldl_keep_or_put {β : Type} {n : String} {P : String → Property α → Prop}
    {step : Catalog α → β → Catalog α} {bs : List β}
    (hstep : ∀ o, ∀ b ∈ bs, step o b = o ∨ ∃ p, P n p ∧ step o b = o.put p) {c : Catalog α}
    (hn : c.typeName = n) (hc : ∀ q ∈ c.properties, P n q) :
    ∀ q ∈ (bs.foldl step c).properties, P (bs.foldl step c).typeName q := by
  induction bs generalizing c with
  | nil =>
    rw [List.foldl_nil, hn]
    exact hc
  | cons b bs ih =>
    have hrest : ∀ o, ∀ b ∈ bs, step o b = o ∨ ∃ p, P n p ∧ step o b = o.put p :=
      fun o b' hb' => hstep o b' (List.mem_cons_of_mem _ hb')
    rcases hstep c b (List.mem_cons_self ..) with hkeep | ⟨p, hp, hput⟩
    · rw [List.foldl_cons, hkeep]
      exact ih hrest hn hc
    · rw [List.foldl_cons, hput]
      exact ih hrest ((typeName_put c p).trans hn) fun q hq =>
        (mem_put hq).elim (hc q) fun h => h ▸ hp

end Catalog

namespace Registry

variable {P : String → Property α → Prop}

theorem mem_update {r : Registry α} {c d : Catalog α} (h : d ∈ (r.update c).catalogs) :
    d ∈ r.catalogs ∨ d = c := by
  unfold update at h
  split at h
  · obtain ⟨d', hd', rfl⟩ := List.mem_map.1 h
    split
    · exact .inr rfl
    · exact .inl hd'
  · simpa using h

theorem registered_update {r : Registry α} {c : Catalog α} (hr : r.Registered P)
    (hc : ∀ p ∈ c.properties, P c.typeName p) : (r.update c).Registered P := by
  intro d hd
  rcases mem_update hd with hd | rfl
  · exact hr d hd
  · exact hc

/-- The catalog found for a type name is of that type. -/
theorem typeName_of_catalogNamed {r : Registry α} {typeName : String} {c : Catalog α}
    (h : r.catalogNamed? typeName = some c) : c.typeName = typeName := by
  unfold catalogNamed? at h
  have hfound := List.find?_some h
  exact beq_iff_eq.1 hfound

/-- The catalog a registration or an embedding starts from: the one of the type, or an empty one. -/
theorem registered_catalogNamed {r : Registry α} (hr : r.Registered P) (typeName : String) :
    ((r.catalogNamed? typeName).getD { typeName }).typeName = typeName ∧
      ∀ p ∈ ((r.catalogNamed? typeName).getD { typeName }).properties, P typeName p := by
  cases h : r.catalogNamed? typeName with
  | none => exact ⟨rfl, fun p hp => by cases hp⟩
  | some c =>
    have htype := typeName_of_catalogNamed h
    exact ⟨htype, htype ▸ hr c (List.mem_of_find?_eq_some h)⟩

/-- Registering properties that satisfy `P` for their type keeps `P` of the registry. -/
theorem registered_register {r r' : Registry α} {typeName : String} {props : List (Property α)}
    (h : r.register typeName props = .ok r') (hr : r.Registered P)
    (hprops : ∀ p ∈ props, P typeName p) : r'.Registered P := by
  unfold register at h
  split at h
  · cases h
  · cases h
    obtain ⟨htype, hstart⟩ := registered_catalogNamed hr typeName
    exact registered_update hr
      (Catalog.foldl_keep_or_put (fun o p hp => .inr ⟨p, hprops p hp, rfl⟩) htype hstart)

variable [Styleable α]

/-- Embedding keeps `P` of the registry when promoting a property that satisfies it for the inner
type gives one that satisfies it for the outer type. -/
theorem registered_embed {r r' : Registry α} {outer inner : String} {field : Nested α}
    (h : r.embed outer inner field = .ok r') (hr : r.Registered P)
    (hpromote : ∀ p, P inner p → P outer (promote outer field p)) : r'.Registered P := by
  unfold embed at h
  split at h
  · cases h
  · next c hc =>
    cases h
    have hinner : ∀ p ∈ c.properties, P inner p :=
      typeName_of_catalogNamed hc ▸ hr c (List.mem_of_find?_eq_some hc)
    obtain ⟨htype, hstart⟩ := registered_catalogNamed hr outer
    -- the outer catalog only grows by promoted copies of the inner catalog's properties
    refine registered_update hr (Catalog.foldl_keep_or_put ?_ htype hstart)
    intro o p hp
    split
    · exact .inl rfl
    · exact .inr ⟨_, hpromote p (hinner p hp), rfl⟩

end Registry

end Registered

/-! ## Putting back what was got -/

section GetPut

variable {α : Type}

/-- Putting back the object that was got leaves the holder as it was. -/
def Nested.GetPut (n : Nested α) : Prop := ∀ a c, n.get a = some c → n.put a c = a

/-- Every object a property leads to is put back without change. -/
def Property.GetPut (p : Property α) : Prop := ∀ n ∈ p.nested, n.GetPut

/-- Every property of a catalog puts back what it got. -/
def Catalog.GetPut (c : Catalog α) : Prop := ∀ p ∈ c.properties, p.GetPut

/-- Every property of every catalog of a registry puts back what it got. -/
def Registry.GetPut (r : Registry α) : Prop := ∀ c ∈ r.catalogs, c.GetPut

/-- Going through two nested objects puts back what it got when each of them does. -/
theorem Nested.GetPut.andThen {outer inner : Nested α} (ho : outer.GetPut) (hi : inner.GetPut) :
    (outer.andThen inner).GetPut := by
  intro a c h
  obtain ⟨e, he, hc⟩ := Option.bind_eq_some_iff.1 h
  simp only [Nested.andThen, he]
  rw [hi e c hc, ho a e he]

/-- A property that leads to no object has the law trivially. -/
theorem Property.getPut_of_nested_none {p : Property α} (h : p.nested = none) : p.GetPut := by
  intro n hn
  rw [h] at hn
  cases hn

namespace Registry

/-- The law is what every registered property satisfies. -/
theorem getPut_iff_registered {r : Registry α} :
    r.GetPut ↔ r.Registered fun _ p => p.GetPut :=
  Iff.rfl

/-- Registering properties with the law keeps it. -/
theorem getPut_register {r r' : Registry α} {typeName : String} {props : List (Property α)}
    (h : r.register typeName props = .ok r') (hr : r.GetPut) (hprops : ∀ p ∈ props, p.GetPut) :
    r'.GetPut :=
  getPut_iff_registered.2 (registered_register h hr hprops)

variable [Styleable α]

/-- A promoted property puts back what it got when the property and the embedding field do. -/
theorem getPut_promote {outer : String} {field : Nested α} {p : Property α}
    (hfield : field.GetPut) (hp : p.GetPut) : (promote outer field p).GetPut := by
  intro n hn
  obtain ⟨m, hm, rfl⟩ := Option.map_eq_some_iff.1 hn
  exact hfield.andThen (hp m hm)

/-- Embedding through a field with the law keeps it. -/
theorem getPut_embed {r r' : Registry α} {outer inner : String} {field : Nested α}
    (h : r.embed outer inner field = .ok r') (hr : r.GetPut) (hfield : field.GetPut) :
    r'.GetPut :=
  getPut_iff_registered.2 (registered_embed h hr fun _ hp => getPut_promote hfield hp)

end Registry

end GetPut

/-! ## The walk -/

namespace Registry

variable {α : Type} [Styleable α]

/-- The property a segment names on an object: none when the object is absent, its type has no
catalog, or the catalog has no property of that name. -/
def propertyAt (reg : Registry α) (obj : α) (seg : String) : Option (Property α) :=
  if Styleable.isNil obj then none else (reg.catalog? obj).bind (·.property? seg)

/-- The nested object a segment leads to on an object, through an object property. -/
def nestedAt (reg : Registry α) (obj : α) (seg : String) : Option (Nested α) :=
  (reg.propertyAt obj seg).bind fun p => if p.type.kind != .object then none else p.nested

/-- The object reached from `obj` through the object properties that `segs` name. -/
def descend (reg : Registry α) (obj : α) : List String → Option α
  | [] => some obj
  | seg :: rest => ((reg.nestedAt obj seg).bind (·.get obj)).bind (reg.descend · rest)

/-- A walk standing at `obj` cannot go on through `seg`: as the last segment, it names no
property of `obj`; before other segments, it leads to no present object. -/
def Stops (reg : Registry α) (obj : α) (seg : String) (rest : List String) : Prop :=
  if rest = [] then reg.propertyAt obj seg = none else reg.descend obj [seg] = none

/-- Writes a value to the property a path names: the last property stores it in the object the
path leads to, and each changed object is put back into the one holding it. Nothing is written
when the path leads nowhere or the property refuses the value. -/
def writeAt (reg : Registry α) : α → List String → Value → Option α
  | _, [], _ => none
  | obj, seg :: rest, v =>
    if rest.isEmpty then
      (reg.propertyAt obj seg).bind fun p => p.store.bind fun store => (store obj v).toOption
    else
      (reg.nestedAt obj seg).bind fun n => (n.get obj).bind fun child =>
        (reg.writeAt child rest v).map (n.put obj)

/-- The walk stands at `obj` after some segments of `segs` and cannot go on through the next
one, `seg`. -/
def StopsAt (reg : Registry α) (t : α) (segs : List String) (seg : String) (obj : α) : Prop :=
  ∃ pre rest, segs = pre ++ seg :: rest ∧ reg.descend t pre = some obj ∧ reg.Stops obj seg rest

/-- The last segment of `segs` names the property `p` on `obj`, which the other segments lead to
from `t`. -/
def LeafAt (reg : Registry α) (t : α) (segs : List String) (obj : α) (p : Property α) : Prop :=
  ∃ pre seg, segs = pre ++ [seg] ∧ reg.descend t pre = some obj ∧ reg.propertyAt obj seg = some p

variable {reg : Registry α} {obj child : α} {seg : String} {rest : List String}

theorem propertyAt_of_isNil (h : Styleable.isNil obj = true) : reg.propertyAt obj seg = none := by
  simp [propertyAt, h]

theorem propertyAt_of_catalog {cat : Catalog α} (hnil : Styleable.isNil obj = false)
    (hcat : reg.catalog? obj = some cat) : reg.propertyAt obj seg = cat.property? seg := by
  simp [propertyAt, hnil, hcat]

theorem nestedAt_of_propertyAt {p : Property α} (h : reg.propertyAt obj seg = some p) :
    reg.nestedAt obj seg = if p.type.kind != .object then none else p.nested := by
  simp only [nestedAt, h, Option.bind_some]

theorem propertyAt_eq_some {p : Property α} :
    reg.propertyAt obj seg = some p ↔
      Styleable.isNil obj = false ∧
        ∃ cat, reg.catalog? obj = some cat ∧ cat.property? seg = some p := by
  unfold propertyAt
  cases Styleable.isNil obj <;> simp [Option.bind_eq_some_iff]

theorem nestedAt_eq_some {n : Nested α} :
    reg.nestedAt obj seg = some n ↔
      ∃ p, reg.propertyAt obj seg = some p ∧ p.type.kind = .object ∧ p.nested = some n := by
  simp [nestedAt, Option.bind_eq_some_iff]

/-- A property found on an object is registered for the object's type, so it satisfies whatever
every registered property satisfies for its type. -/
theorem registered_of_propertyAt {P : String → Property α → Prop} (hr : reg.Registered P)
    {p : Property α} (h : reg.propertyAt obj seg = some p) : P (Styleable.typeName obj) p := by
  obtain ⟨_, cat, hcat, hp⟩ := propertyAt_eq_some.1 h
  have htype : cat.typeName = Styleable.typeName obj := typeName_of_catalogNamed hcat
  exact htype ▸ hr cat (List.mem_of_find?_eq_some hcat) p (List.mem_of_find?_eq_some hp)

/-- The nested objects a registry with the law leads through put back what they got. -/
theorem getPut_of_nestedAt (hreg : reg.GetPut) {n : Nested α} (h : reg.nestedAt obj seg = some n) :
    n.GetPut := by
  obtain ⟨p, hp, _, hn⟩ := nestedAt_eq_some.1 h
  exact registered_of_propertyAt (getPut_iff_registered.1 hreg) hp n hn

theorem descend_cons_eq_some {t : α} {pre : List String} :
    reg.descend t (seg :: pre) = some obj ↔
      ∃ child, (∃ n, reg.nestedAt t seg = some n ∧ n.get t = some child) ∧
        reg.descend child pre = some obj := by
  simp [descend, Option.bind_eq_some_iff]

theorem descend_cons {n : Nested α} (hn : reg.nestedAt obj seg = some n)
    (hchild : n.get obj = some child) (rest : List String) :
    reg.descend obj (seg :: rest) = reg.descend child rest := by
  simp only [descend, hn, Option.bind_some, hchild]

theorem writeAt_single (v : Value) :
    reg.writeAt obj [seg] v =
      (reg.propertyAt obj seg).bind fun p => p.store.bind fun store => (store obj v).toOption :=
  rfl

theorem writeAt_cons {n : Nested α} (hrest : rest ≠ []) (hn : reg.nestedAt obj seg = some n)
    (hchild : n.get obj = some child) (v : Value) :
    reg.writeAt obj (seg :: rest) v = (reg.writeAt child rest v).map (n.put obj) := by
  cases rest with
  | nil => exact absurd rfl hrest
  | cons s r => simp only [writeAt, List.isEmpty_cons, hn, Option.bind_some, hchild]; rfl

/-! ### Where a walk stops -/

theorem stops_of_propertyAt (h : reg.propertyAt obj seg = none) (rest : List String) :
    reg.Stops obj seg rest := by
  unfold Stops
  split
  · exact h
  · simp [descend, nestedAt, h]

theorem stops_of_nestedAt (hrest : rest ≠ []) (h : reg.nestedAt obj seg = none) :
    reg.Stops obj seg rest := by
  simp [Stops, hrest, descend, h]

theorem stops_of_get {n : Nested α} (hrest : rest ≠ []) (hn : reg.nestedAt obj seg = some n)
    (h : n.get obj = none) : reg.Stops obj seg rest := by
  simp [Stops, hrest, descend, hn, h]

theorem StopsAt.here (h : reg.Stops obj seg rest) : reg.StopsAt obj (seg :: rest) seg obj :=
  ⟨[], rest, rfl, rfl, h⟩

/-- A walk that stops below a nested object stops, from the outer object, at the same place. -/
theorem StopsAt.cons {t : α} {s : String} {n : Nested α} (hn : reg.nestedAt t seg = some n)
    (hchild : n.get t = some child) (h : reg.StopsAt child rest s obj) :
    reg.StopsAt t (seg :: rest) s obj := by
  obtain ⟨pre, rest', rfl, hd, hs⟩ := h
  exact ⟨seg :: pre, rest', rfl, by rw [descend_cons hn hchild, hd], hs⟩

theorem LeafAt.here {p : Property α} (h : reg.propertyAt obj seg = some p) :
    reg.LeafAt obj [seg] obj p :=
  ⟨[], seg, rfl, rfl, h⟩

theorem LeafAt.cons {t : α} {p : Property α} {n : Nested α} (hn : reg.nestedAt t seg = some n)
    (hchild : n.get t = some child) (h : reg.LeafAt child rest obj p) :
    reg.LeafAt t (seg :: rest) obj p := by
  obtain ⟨pre, s, rfl, hd, hp⟩ := h
  exact ⟨seg :: pre, s, rfl, by rw [descend_cons hn hchild, hd], hp⟩

end Registry

end Theming.Style

/-! ## The widget registry -/

namespace Theming.Widget

open Theming.Style Theming.Value

section Laws

variable {τ : Type}

/-- Every object a facet recognises is the wrapping of what it recognises in it. -/
def WrapsCast (f : Facet Styled τ) : Prop := ∀ a t, f.cast a = some t → f.wrap t = a

/-- An object property puts back what it got when its facet wraps what it recognises and its own
get and put agree. -/
theorem getPut_object {f : Facet Styled τ} (hf : WrapsCast f) {name : String}
    {get : τ → Option Styled} {put : τ → Styled → τ} (hput : ∀ t c, get t = some c → put t c = t) :
    (f.object name get put).GetPut := by
  intro n hn a c h
  cases hn
  obtain ⟨t, ht, hc⟩ := Option.bind_eq_some_iff.1 h
  simp only [ht]
  rw [hput t c hc, hf a t ht]

/-- A stored field leads to no object. -/
theorem getPut_field {ν : Type} (f : Facet Styled τ) (name : String) (type : ValueType) (zero : ν)
    (read : Value → Option ν) (write : τ → ν → τ) : (f.field name type zero read write).GetPut :=
  Property.getPut_of_nested_none rfl

/-- The view inside a widget is put back in place. -/
theorem getPut_viewField {f : Facet Styled τ} (hf : WrapsCast f) {part : τ → View}
    {rebuild : τ → View → τ} (hre : ∀ t, rebuild t (part t) = t) :
    (viewField f part rebuild).GetPut := by
  intro a c h
  obtain ⟨t, ht, rfl⟩ := Option.map_eq_some_iff.1 h
  simp only [viewField, ht]
  rw [hre t, hf a t ht]

theorem wrapsCast_layer : WrapsCast Facets.layer := by
  intro a t h
  cases a with
  | layer l => cases h; rfl
  | _ => cases h

/-- The widget facets wrap exactly what they recognise. -/
theorem wrapsCast_facets :
    WrapsCast Facets.view ∧ WrapsCast Facets.label ∧ WrapsCast Facets.imageView ∧
      WrapsCast Facets.tableViewCell ∧ WrapsCast Facets.tableView ∧
      WrapsCast Facets.navigationBar := by
  refine ⟨?_, ?_, ?_, ?_, ?_, ?_⟩ <;> intro a t h <;>
    rcases a with (w | l | _ | _) <;> (try cases w) <;> cases h <;> rfl

end Laws

/-- Every property of the widget registry puts back the objects it leads to unchanged: the layer
of a view, the labels of a table cell, and the view part of every widget that embeds one. -/
theorem registry_getPut : registry.GetPut := by
  unfold registry
  split
  · next r h =>
    simp only [registryChecked, Theming.Sheet.bind_eq_ok] at h
    obtain ⟨r₁, h₁, r₂, h₂, r₃, h₃, r₄, h₄, r₅, h₅, r₆, h₆, r₇, h₇, r₈, h₈, r₉, h₉, r₁₀, h₁₀, r₁₁,
      h₁₁, h₁₂⟩ := h
    obtain ⟨hview, hlabel, himageView, hcell, htable, hbar⟩ := wrapsCast_facets
    have stored : ∀ {p : Property Styled}, p.nested = none → p.GetPut :=
      Property.getPut_of_nested_none
    have listed : ∀ {props : List (Property Styled)}, props.Forall Property.GetPut →
        ∀ p ∈ props, p.GetPut := List.forall_iff_forall_mem.1
    have g₁ := Registry.getPut_register h₁ (fun c hc => by cases hc)
      (listed ⟨stored rfl, stored rfl, stored rfl, stored rfl, stored rfl⟩)
    have g₂ := Registry.getPut_register h₂ g₁
      (listed ⟨stored rfl, stored rfl, stored rfl, stored rfl, stored rfl, stored rfl, stored rfl,
        getPut_object hview ?layer, stored rfl⟩)
    case layer =>
      -- a view's layer is written back as the layer it was read from
      intro t c h
      obtain ⟨l, hl, rfl⟩ := Option.map_eq_some_iff.1 h
      dsimp only
      rw [← hl]
    have g₃ := Registry.getPut_register h₃ g₂
      (listed ⟨stored rfl, stored rfl, stored rfl, stored rfl, stored rfl, stored rfl, stored rfl⟩)
    have g₄ := Registry.getPut_embed h₄ g₃ (getPut_viewField hlabel fun _ => rfl)
    have g₅ := Registry.getPut_register h₅ g₄ (listed ⟨stored rfl, stored rfl⟩)
    have g₆ := Registry.getPut_embed h₆ g₅ (getPut_viewField himageView fun _ => rfl)
    have g₇ := Registry.getPut_register h₇ g₆
      (listed ⟨getPut_object hcell ?textLabel, getPut_object hcell ?detailLabel, stored rfl,
        stored rfl⟩)
    case textLabel | detailLabel =>
      -- a cell's labels are written back as the labels they were read from
      intro t c h
      obtain ⟨l, hl, rfl⟩ := Option.map_eq_some_iff.1 h
      dsimp only [labelOf]
      rw [← hl]
    have g₈ := Registry.getPut_embed h₈ g₇ (getPut_viewField hcell fun _ => rfl)
    have g₉ := Registry.getPut_register h₉ g₈ (listed ⟨stored rfl, stored rfl, stored rfl⟩)
    have g₁₀ := Registry.getPut_embed h₁₀ g₉ (getPut_viewField htable fun _ => rfl)
    have g₁₁ := Registry.getPut_register h₁₁ g₁₀ (listed ⟨stored rfl, stored rfl, stored rfl⟩)
    exact Registry.getPut_embed h₁₂ g₁₁ (getPut_viewField hbar fun _ => rfl)
  · exact fun c hc => by cases hc

end Theming.Widget
