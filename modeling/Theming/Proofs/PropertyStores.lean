import Theming.Proofs.StyleApplication

/-!
# Coerced values fit the properties that asked for them

The style constructors make each stored property from one definition, `Facet.field`, with the
field's representation, its zero and the way to read a value of that representation. `Built`
lists them, with the change each makes to an object: the write of the value's payload into the
field, or of the field's zero for `nil`. A coercion gives a value of its destination's
representation (`Value.fits`), so every constructor's property stores every coerced value into
every object of its facet's type, as exactly that change, directly or through the field that
embeds the object (`Built.store_eq`, `store_promote`).

A registry whose properties all store every value that fits (`Registry.StoresOn`) reports, for an
assignment whose path reaches its property, exactly what the coercion gave: its value, or its
fault at the path (`assign_reports_coercion`). The widget registry is one such registry for the
objects whose type is their own (`Styled.OwnType`: a foreign object never borrows a widget type's
name), which gives `coercions_fit_properties`.
-/

set_option autoImplicit false

namespace Theming.Style

open Theming.Value Theming.Sheet

/-! ## The constructors' properties -/

section Constructors

variable {α τ : Type} [Styleable α]

/-- The properties the style constructors make on the objects of a facet, each with the change it
makes to an object for a value: the write of the value's payload into the property's field, or of
the field's zero for `nil`. -/
inductive Built (f : Facet α τ) : Property α → (τ → Value → τ) → Prop
  | text (name : String) (write : τ → String → τ) :
      Built f (f.text name write) fun t v => write t (match v with | .text s => s | _ => "")
  | real (name : String) (e : Option Enumeration) (write : τ → Float → τ) :
      Built f (f.real name e write) fun t v => write t (match v with | .real x => x | _ => 0)
  | int (name : String) (e : Option Enumeration) (write : τ → Int → τ) :
      Built f (f.int name e write) fun t v => write t (match v with | .int n => n | _ => 0)
  | bool (name : String) (write : τ → Bool → τ) :
      Built f (f.bool name write) fun t v => write t (match v with | .bool b => b | _ => false)
  | enum (name : String) (e : Enumeration) (write : τ → Int → τ) :
      Built f (f.enum name e write) fun t v => write t (match v with | .enum n => n | _ => 0)
  | color (name : String) (write : τ → Option Color → τ) :
      Built f (f.color name write) fun t v => write t (match v with | .color c => some c | _ => none)
  | graphicsColor (name : String) (write : τ → Option Color → τ) :
      Built f (f.graphicsColor name write)
        fun t v => write t (match v with | .color c => some c | _ => none)
  | rect (name : String) (write : τ → Rect → τ) :
      Built f (f.rect name write)
        fun t v => write t (match v with | .rect x y w h => ⟨x, y, w, h⟩ | _ => {})
  | size (name : String) (write : τ → Extent → τ) :
      Built f (f.size name write) fun t v => write t (match v with | .size w h => ⟨w, h⟩ | _ => {})
  | image (name : String) (write : τ → Option Image → τ) :
      Built f (f.image name write) fun t v => write t (match v with | .image i => some i | _ => none)
  | font (name : String) (write : τ → Option Font → τ) :
      Built f (f.font name write) fun t v => write t (match v with | .font x => some x | _ => none)
  | view (name : String) (write : τ → Option Image → τ) :
      Built f (f.view name write) fun t v => write t (match v with | .view i => some i | _ => none)
  | nullable {p : Property α} {change : τ → Value → τ} (h : Built f p change) :
      Built f p.nullable change

/-- A constructor's property stores every value that fits its type, and `nil`, into every object
of its facet's type, as the change it stands for. The nullable copy only lets `nil` fit, which
every constructor already stores as the zero of its field. -/
theorem Built.store_eq {f : Facet α τ} {p : Property α} {change : τ → Value → τ}
    (hp : Built f p change) {v : Value} (hv : v.fits p.type = true ∨ v = .null) {a : α} {t : τ}
    (ht : f.cast a = some t) :
    ∃ store, p.store = some store ∧ store a v = .ok (f.wrap (change t v)) := by
  induction hp with
  | nullable _ ih =>
    refine ih ?_
    rcases hv with hv | rfl
    · cases v <;> simp_all [Value.fits, Property.nullable, ValueType.asNullable]
    · exact .inr rfl
  | _ =>
    refine ⟨_, rfl, ?_⟩
    -- a value of another representation does not fit; the one that fits is read back
    rcases hv with hv | rfl
    · cases v <;> cases hv <;> simp [ht]
    · simp [ht]

/-- No constructor's property leads to a nested object. -/
theorem Built.nested_eq_none {f : Facet α τ} {p : Property α} {change : τ → Value → τ}
    (hp : Built f p change) : p.nested = none := by
  induction hp with
  | nullable _ ih => exact ih
  | _ => rfl

/-- A promoted property stores into the object the embedding field finds, and puts the changed
object back. -/
theorem store_promote {p : Property α} {store : α → Value → Except String α}
    (hs : p.store = some store) (outer : String) (field : Nested α) {a e : α}
    (he : field.get a = some e) :
    ∃ store', (Registry.promote outer field p).store = some store' ∧
      ∀ v, store' a v = (store e v).map (field.put a) :=
  ⟨_, congrArg (Option.map _) hs, fun v => by simp only [he]⟩

end Constructors

/-! ## Walking to the last segment -/

section Walk

variable {α : Type} [Styleable α] {reg : Registry α} {eng : Engine} {path : String}
  {raw : RawValue} {t obj child : α} {seg : String} {rest : List String}

/-- Through an object property on the way, the walk goes on from the nested object and puts the
changed one back. -/
theorem assignAlong_nested {n : Nested α} (hn : reg.nestedAt t seg = some n)
    (hchild : n.get t = some child) (hrest : rest ≠ []) :
    assignAlong reg eng path raw t (seg :: rest) =
      (fun r => (n.put t r.1, r.2)) <$> assignAlong reg eng path raw child rest := by
  obtain ⟨p, hp, hk, hpn⟩ := Registry.nestedAt_eq_some.1 hn
  obtain ⟨hnil, cat, hcat, hcp⟩ := Registry.propertyAt_eq_some.1 hp
  cases rest with
  | nil => exact absurd rfl hrest
  | cons s r =>
    rw [assignAlong]
    simp only [hnil, hcat, hcp, hk, hpn, hchild, List.isEmpty_cons, Bool.not_false,
      bne_self_eq_false, Bool.false_eq_true, if_false, if_true]
    rfl

/-- A walk whose first segments lead from `t` to `obj` is the walk from `obj` along the rest, with
the changed object put back along the way. -/
theorem assignAlong_descend (eng : Engine) (path : String) (raw : RawValue) {pre : List String}
    (hd : reg.descend t pre = some obj) (hrest : rest ≠ []) :
    ∃ g : α → α, assignAlong reg eng path raw t (pre ++ rest) =
      (fun r => (g r.1, r.2)) <$> assignAlong reg eng path raw obj rest := by
  induction pre generalizing t with
  | nil =>
    obtain rfl : t = obj := Option.some.inj hd
    exact ⟨id, by simp⟩
  | cons seg pre ih =>
    obtain ⟨child, ⟨n, hn, hchild⟩, hd'⟩ := Registry.descend_cons_eq_some.1 hd
    obtain ⟨g, hg⟩ := ih hd'
    refine ⟨n.put t ∘ g, ?_⟩
    rw [List.cons_append, assignAlong_nested hn hchild (by simp [hrest]), hg, Functor.map_map]
    rfl

/-- The last step, when the coercion gives a value the property stores. -/
theorem assignAlong_leaf_ok {p : Property α} (hp : reg.propertyAt t seg = some p) {s : Trace}
    {v : Value} (hv : ((eng.coerceTraced raw p.type).run s).1 = .ok v)
    {store : α → Value → Except String α} {t' : α} (hs : p.store = some store)
    (ht : store t v = .ok t') :
    ((assignAlong reg eng path raw t [seg]).run s).1 = (t', .applied, some v, none) := by
  obtain ⟨hnil, cat, hcat, hcp⟩ := Registry.propertyAt_eq_some.1 hp
  rw [assignAlong]
  simp only [hnil, hcat, hcp, List.isEmpty_nil, Bool.not_true, Bool.false_eq_true, if_false]
  rw [Traced.run_bind, hv]
  simp only [hs, ht]
  rfl

/-- The last step, when the coercion fails: its fault is reported at the path. -/
theorem assignAlong_leaf_error {p : Property α} (hp : reg.propertyAt t seg = some p) {s : Trace}
    {err : Fault} (hv : ((eng.coerceTraced raw p.type).run s).1 = .error err) :
    ((assignAlong reg eng path raw t [seg]).run s).1 =
      (t, if err.unknownEnum?.isSome then .unknownEnumValue else .coercionFailed, none,
        some (err.withPath path)) := by
  obtain ⟨hnil, cat, hcat, hcp⟩ := Registry.propertyAt_eq_some.1 hp
  rw [assignAlong]
  simp only [hnil, hcat, hcp, List.isEmpty_nil, Bool.not_true, Bool.false_eq_true, if_false]
  rw [Traced.run_bind, hv]
  rfl

/-- An assignment's outcome is what the walk along its path gave. -/
theorem assign_outcome (reg : Registry α) (eng : Engine) (t : α) (a : Assignment) (s : Trace) :
    ((assign reg eng t a).run s).1.2 =
      { path := a.path, line := a.line,
        status := ((assignAlong reg eng a.path.render a.value t a.path).run s).1.2.1,
        value := ((assignAlong reg eng a.path.render a.value t a.path).run s).1.2.2.1,
        fault := ((assignAlong reg eng a.path.render a.value t a.path).run s).1.2.2.2 } := by
  unfold assign
  rw [Traced.run_bind]
  generalize (assignAlong reg eng a.path.render a.value t a.path).run s = r
  obtain ⟨⟨t', status, value, fault⟩, s'⟩ := r
  dsimp only
  split <;> rfl

end Walk

/-! ## Registries whose properties store every value that fits -/

section Stores

variable {α : Type} [Styleable α] {Dom : α → Prop}

/-- A property stores every value that fits its type into every present object of type
`typeName` that `Dom` admits, and leads from such an object only to objects `Dom` admits. -/
def Property.StoresOn (Dom : α → Prop) (typeName : String) (p : Property α) : Prop :=
  ∀ a, Dom a → Styleable.typeName a = typeName → Styleable.isNil a = false →
    (∀ v, v.fits p.type = true → ∃ store a', p.store = some store ∧ store a v = .ok a') ∧
      ∀ n ∈ p.nested, ∀ b, n.get a = some b → Dom b

/-- Every registered property stores every value that fits into the objects `Dom` admits. -/
def Registry.StoresOn (Dom : α → Prop) (r : Registry α) : Prop :=
  r.Registered (Property.StoresOn Dom)

/-- Promotion through a field that finds an admitted, present inner object in every admitted,
present outer one carries the property over to the outer type. -/
theorem storesOn_promote {outer inner : String} {field : Nested α}
    (hfield : ∀ a, Dom a → Styleable.typeName a = outer → Styleable.isNil a = false →
      ∃ e, field.get a = some e ∧ Dom e ∧ Styleable.typeName e = inner ∧ Styleable.isNil e = false)
    {p : Property α} (hp : p.StoresOn Dom inner) :
    (Registry.promote outer field p).StoresOn Dom outer := by
  intro a ha hn hnil
  obtain ⟨e, he, hde, hte, hne⟩ := hfield a ha hn hnil
  obtain ⟨hstore, hnested⟩ := hp e hde hte hne
  refine ⟨fun v hv => ?_, fun n hn b hb => ?_⟩
  · obtain ⟨store, e', hs, he'⟩ := hstore v hv
    obtain ⟨store', hs', hput⟩ := store_promote hs outer field he
    refine ⟨store', field.put a e', hs', ?_⟩
    rw [hput, he']
    rfl
  · -- a promoted object property goes through the field first
    obtain ⟨m, hm, rfl⟩ := Option.map_eq_some_iff.1 hn
    have hb' : m.get e = some b := by simpa [Nested.andThen, he] using hb
    exact hnested m hm b hb'

namespace Registry

/-- Registering properties that store every value that fits keeps the registry's law. -/
theorem storesOn_register {r r' : Registry α} {typeName : String} {props : List (Property α)}
    (h : r.register typeName props = .ok r') (hr : r.StoresOn Dom)
    (hprops : ∀ p ∈ props, p.StoresOn Dom typeName) : r'.StoresOn Dom :=
  registered_register h hr hprops

/-- Embedding through a field that finds an admitted inner object keeps the registry's law. -/
theorem storesOn_embed {r r' : Registry α} {outer inner : String} {field : Nested α}
    (h : r.embed outer inner field = .ok r') (hr : r.StoresOn Dom)
    (hfield : ∀ a, Dom a → Styleable.typeName a = outer → Styleable.isNil a = false →
      ∃ e, field.get a = some e ∧ Dom e ∧ Styleable.typeName e = inner ∧ Styleable.isNil e = false) :
    r'.StoresOn Dom :=
  registered_embed h hr fun _ hp => storesOn_promote hfield hp

end Registry

namespace Registry.StoresOn

variable {reg : Registry α} {t obj : α}

/-- The objects a walk reaches from an admitted object are admitted. -/
theorem descend (hreg : reg.StoresOn Dom) {pre : List String} (ht : Dom t)
    (hd : reg.descend t pre = some obj) : Dom obj := by
  induction pre generalizing t with
  | nil =>
    obtain rfl : t = obj := Option.some.inj hd
    exact ht
  | cons seg pre ih =>
    obtain ⟨child, ⟨n, hn, hchild⟩, hd'⟩ := Registry.descend_cons_eq_some.1 hd
    obtain ⟨p, hp, _, hpn⟩ := Registry.nestedAt_eq_some.1 hn
    obtain ⟨hnil, _⟩ := Registry.propertyAt_eq_some.1 hp
    have hstores : p.StoresOn Dom (Styleable.typeName t) := Registry.registered_of_propertyAt hreg hp
    exact ih ((hstores t ht rfl hnil).2 n hpn child hchild) hd'

/-- The property a path reaches from an admitted object stores every value that fits. -/
theorem leaf (hreg : reg.StoresOn Dom) (ht : Dom t) {segs : List String} {p : Property α}
    (hleaf : reg.LeafAt t segs obj p) {v : Value} (hv : v.fits p.type = true) :
    ∃ store obj', p.store = some store ∧ store obj v = .ok obj' := by
  obtain ⟨pre, seg, _, hd, hp⟩ := hleaf
  obtain ⟨hnil, _⟩ := Registry.propertyAt_eq_some.1 hp
  have hstores : p.StoresOn Dom (Styleable.typeName obj) := Registry.registered_of_propertyAt hreg hp
  exact (hstores obj (hreg.descend ht hd) rfl hnil).1 v hv

end Registry.StoresOn

/-- In a registry whose properties store every value that fits, an assignment whose path reaches
its property from an admitted target reports exactly what the coercion gave: the value when it
gives one, and its fault otherwise. -/
theorem assign_reports_coercion {reg : Registry α} (hreg : reg.StoresOn Dom) (eng : Engine)
    {t obj : α} (ht : Dom t) {a : Assignment} {p : Property α} (hleaf : reg.LeafAt t a.path obj p)
    (s : Trace) :
    (∀ v, ((eng.coerceTraced a.value p.type).run s).1 = .ok v →
      ((assign reg eng t a).run s).1.2.status = .applied ∧
        ((assign reg eng t a).run s).1.2.value = some v) ∧
    ∀ err, ((eng.coerceTraced a.value p.type).run s).1 = .error err →
      ((assign reg eng t a).run s).1.2.status ≠ .applied ∧
        ((assign reg eng t a).run s).1.2.fault = some (err.withPath a.path.render) := by
  obtain ⟨pre, seg, hpath, hd, hp⟩ := hleaf
  -- the outcome is the last step's, taken from the object the path leads to
  have hlast : ((assignAlong reg eng a.path.render a.value t a.path).run s).1.2 =
      ((assignAlong reg eng a.path.render a.value obj [seg]).run s).1.2 := by
    obtain ⟨g, hg⟩ := assignAlong_descend eng a.path.render a.value hd (List.cons_ne_nil seg [])
    rw [← hpath] at hg
    rw [hg, Traced.run_map]
  rw [assign_outcome, hlast]
  refine ⟨fun v hv => ?_, fun err herr => ?_⟩
  · obtain ⟨store, obj', hs, hstore⟩ :=
      hreg.leaf ht ⟨pre, seg, hpath, hd, hp⟩ (eng.fits_of_coerceTraced a.value p.type hv)
    rw [assignAlong_leaf_ok hp hv hs hstore]
    exact ⟨rfl, rfl⟩
  · rw [assignAlong_leaf_error hp herr]
    refine ⟨?_, rfl⟩
    dsimp only
    split <;> simp

end Stores

end Theming.Style

/-! ## The widget registry -/

namespace Theming.Widget

open Theming.Value Theming.Style Theming.Sheet

/-- An object whose type is its own: anything but a foreign object under the name of a type the
widget registry styles. Types are told apart by identity in the program, so no foreign object
shares a catalog with a widget. -/
def Styled.OwnType : Styled → Prop
  | .foreign typeName => typeName ∉ [Facets.layer.typeName, Facets.view.typeName,
      Facets.label.typeName, Facets.imageView.typeName, Facets.tableViewCell.typeName,
      Facets.tableView.typeName, Facets.navigationBar.typeName]
  | _ => True

instance (a : Styled) : Decidable a.OwnType := by
  cases a <;> unfold Styled.OwnType <;> infer_instance

section Facets

variable {τ : Type}

/-- A facet recognises every present object of its type name that has its own type. -/
def Recognises (f : Facet Styled τ) : Prop :=
  ∀ a : Styled, a.OwnType → Styleable.typeName a = f.typeName → Styleable.isNil a = false →
    ∃ t, f.cast a = some t

theorem recognises_facets :
    Recognises Facets.layer ∧ Recognises Facets.view ∧ Recognises Facets.label ∧
      Recognises Facets.imageView ∧ Recognises Facets.tableViewCell ∧
      Recognises Facets.tableView ∧ Recognises Facets.navigationBar := by
  -- an object of another kind has another name, a missing one is not present, and a foreign one
  -- does not borrow a widget's name
  refine ⟨?_, ?_, ?_, ?_, ?_, ?_, ?_⟩ <;>
    rintro ((v | l | i | c | t | b) | l | n | n) hown htype hnil <;>
    simp_all [Styled.OwnType, Styleable.typeName, Widget.typeName, Facets.layer, Facets.view,
      Facets.label, Facets.imageView, Facets.tableViewCell, Facets.tableView, Facets.navigationBar]

/-- The properties the constructors make store every value that fits. -/
theorem storesOn_built {f : Facet Styled τ} (hf : Recognises f) {p : Property Styled}
    {change : τ → Value → τ} (hp : Built f p change) : p.StoresOn Styled.OwnType f.typeName := by
  intro a ha htype hnil
  obtain ⟨t, ht⟩ := hf a ha htype hnil
  refine ⟨fun v hv => ?_, ?_⟩
  · obtain ⟨store, hs, hstore⟩ := hp.store_eq (.inl hv) ht
    exact ⟨store, _, hs, hstore⟩
  · rw [hp.nested_eq_none]
    intro n hn
    cases hn

/-- An object property takes no value at all, and leads to objects of their own type. -/
theorem storesOn_object (f : Facet Styled τ) (name : String) {get : τ → Option Styled}
    (put : τ → Styled → τ) (hget : ∀ t b, get t = some b → b.OwnType) :
    (f.object name get put).StoresOn Styled.OwnType f.typeName := by
  intro a _ _ _
  refine ⟨fun v hv => ?_, fun n hn b hb => ?_⟩
  · -- only a nil fits an object type, and only when nullable, which this one is not
    exact absurd (Value.fits_object rfl hv).2 Bool.false_ne_true
  · cases hn
    obtain ⟨t, _, hb⟩ := Option.bind_eq_some_iff.1 hb
    exact hget t b hb

/-- The view part of every widget a facet recognises is a present plain view. -/
theorem viewField_finds {f : Facet Styled τ} (hf : Recognises f) (part : τ → View)
    (rebuild : τ → View → τ) (a : Styled) (ha : a.OwnType)
    (htype : Styleable.typeName a = f.typeName) (hnil : Styleable.isNil a = false) :
    ∃ e, (viewField f part rebuild).get a = some e ∧ e.OwnType ∧
      Styleable.typeName e = Facets.view.typeName ∧ Styleable.isNil e = false := by
  obtain ⟨t, ht⟩ := hf a ha htype hnil
  exact ⟨.widget (.view (part t)), by simp [viewField, ht], trivial, rfl, rfl⟩

end Facets

/-- Every property of the widget registry stores every value that fits into every present object
of its type, directly or through the view part of a widget. -/
theorem registry_storesOn : registry.StoresOn Styled.OwnType := by
  unfold registry
  split
  · next r h =>
    simp only [registryChecked, Theming.Sheet.bind_eq_ok] at h
    obtain ⟨r₁, h₁, r₂, h₂, r₃, h₃, r₄, h₄, r₅, h₅, r₆, h₆, r₇, h₇, r₈, h₈, r₉, h₉, r₁₀, h₁₀, r₁₁,
      h₁₁, h₁₂⟩ := h
    obtain ⟨hlayer, hview, hlabel, himageView, hcell, htable, hbar⟩ := recognises_facets
    have listed : ∀ {typeName : String} {props : List (Property Styled)},
        props.Forall (Property.StoresOn Styled.OwnType typeName) →
        ∀ p ∈ props, p.StoresOn Styled.OwnType typeName := List.forall_iff_forall_mem.1
    have layers : ∀ t b, (fun w : View => w.layer.map Styled.layer) t = some b → b.OwnType := by
      intro t b h
      obtain ⟨l, _, rfl⟩ := Option.map_eq_some_iff.1 h
      trivial
    have labels : ∀ l b, labelObject l = some b → b.OwnType := by
      intro l b h
      obtain ⟨l, _, rfl⟩ := Option.map_eq_some_iff.1 h
      trivial
    have s₁ : r₁.StoresOn Styled.OwnType := Registry.storesOn_register h₁ (fun c hc => by cases hc)
      (listed ⟨storesOn_built hlayer (.real _ _ _), storesOn_built hlayer (.real _ _ _),
        storesOn_built hlayer (.graphicsColor _ _), storesOn_built hlayer (.size _ _),
        storesOn_built hlayer (.real _ _ _)⟩)
    have s₂ := Registry.storesOn_register h₂ s₁
      (listed ⟨storesOn_built hview (.rect _ _), storesOn_built hview (.color _ _),
        storesOn_built hview (.real _ _ _), storesOn_built hview (.bool _ _),
        storesOn_built hview (.bool _ _), storesOn_built hview (.int _ _ _),
        storesOn_built hview (.enum _ _ _), storesOn_object _ _ _ layers,
        storesOn_built hview (.view _ _)⟩)
    have s₃ := Registry.storesOn_register h₃ s₂
      (listed ⟨storesOn_built hlabel (.text _ _), storesOn_built hlabel (.color _ _),
        storesOn_built hlabel (.font _ _), storesOn_built hlabel (.color _ _),
        storesOn_built hlabel (.size _ _), storesOn_built hlabel (.int _ _ _),
        storesOn_built hlabel (.enum _ _ _)⟩)
    have s₄ := Registry.storesOn_embed h₄ s₃ (viewField_finds hlabel _ _)
    have s₅ := Registry.storesOn_register h₅ s₄
      (listed ⟨storesOn_built himageView (.image _ _), storesOn_built himageView (.image _ _)⟩)
    have s₆ := Registry.storesOn_embed h₆ s₅ (viewField_finds himageView _ _)
    have s₇ := Registry.storesOn_register h₇ s₆
      (listed ⟨storesOn_object _ _ _ fun t => labels t.textLabel,
        storesOn_object _ _ _ fun t => labels t.detailTextLabel,
        storesOn_built hcell (.view _ _), storesOn_built hcell (.enum _ _ _)⟩)
    have s₈ := Registry.storesOn_embed h₈ s₇ (viewField_finds hcell _ _)
    have s₉ := Registry.storesOn_register h₉ s₈
      (listed ⟨storesOn_built htable (.enum _ _ _), storesOn_built htable (.color _ _),
        storesOn_built htable (.real _ _ _)⟩)
    have s₁₀ := Registry.storesOn_embed h₁₀ s₉ (viewField_finds htable _ _)
    have s₁₁ := Registry.storesOn_register h₁₁ s₁₀
      (listed ⟨storesOn_built hbar (.image _ _), storesOn_built hbar (.color _ _),
        storesOn_built hbar (.bool _ _)⟩)
    exact Registry.storesOn_embed h₁₂ s₁₁ (viewField_finds hbar _ _)
  · exact fun c hc => by cases hc

/-- Coercion results fit the properties that asked for them. Every property a style constructor
makes, nullable or promoted through an embedding field, stores each value the coercion to its type
gives into every object of its facet's type, as exactly the write of that value (of its field's
zero for `nil`); an object type takes a coerced value only as a `nil` it accepts; and so, in the
widget registry, an assignment whose path reaches its property reports the coercion's value when
there is one and the coercion's own fault otherwise: no store ever refuses a coerced value. -/
theorem coercions_fit_properties (eng : Engine) :
    (∀ {α τ : Type} [Styleable α] {f : Facet α τ} {p : Property α} {change : τ → Value → τ},
      Built f p change → ∀ (raw : RawValue) (s : Trace) {v : Value} {a : α} {t : τ},
        ((eng.coerceTraced raw p.type).run s).1 = .ok v → f.cast a = some t →
        (∃ store, p.store = some store ∧ store a v = .ok (f.wrap (change t v))) ∧
        ∀ (outer : String) (field : Nested α) (b : α), field.get b = some a →
          ∃ store, (Registry.promote outer field p).store = some store ∧
            store b v = .ok (field.put b (f.wrap (change t v)))) ∧
    (∀ (raw : RawValue) (dst : ValueType) (s : Trace) {v : Value}, dst.kind = .object →
      ((eng.coerceTraced raw dst).run s).1 = .ok v → v = .null ∧ dst.nullable = true) ∧
    ∀ {target obj : Styled} {a : Assignment} {p : Property Styled},
      target.OwnType → registry.LeafAt target a.path obj p → ∀ s : Trace,
      (∀ v, ((eng.coerceTraced a.value p.type).run s).1 = .ok v →
        ((assign registry eng target a).run s).1.2.status = .applied ∧
          ((assign registry eng target a).run s).1.2.value = some v) ∧
      ∀ err, ((eng.coerceTraced a.value p.type).run s).1 = .error err →
        ((assign registry eng target a).run s).1.2.status ≠ .applied ∧
          ((assign registry eng target a).run s).1.2.fault = some (err.withPath a.path.render) := by
  refine ⟨fun hp raw s v a t hv ht => ?_, fun raw dst s v hk hv => ?_,
    fun htarget hleaf s => assign_reports_coercion registry_storesOn eng htarget hleaf s⟩
  · -- the store of the constructor, and the same store reached through the embedding field
    obtain ⟨store, hs, hstore⟩ := hp.store_eq (.inl (eng.fits_of_coerceTraced raw _ hv)) ht
    refine ⟨⟨store, hs, hstore⟩, fun outer field b hb => ?_⟩
    obtain ⟨store', hs', hput⟩ := store_promote hs outer field hb
    refine ⟨store', hs', ?_⟩
    rw [hput, hstore]
    rfl
  · exact Value.fits_object hk (eng.fits_of_coerceTraced raw dst hv)

/-- A label's corner radius is reached through the view part the label embeds and the layer of
that view, so its assignment reports what coercing the value to a real gives. -/
theorem label_corner_radius_reports_coercion :
    let target : Styled := .widget (.label {})
    let radius : Property Styled := Facets.layer.real "cornerRadius" none
      fun l v => { l with cornerRadius := v }
    let a : Assignment :=
      { path := ["layer", "cornerRadius"], value := { kind := .number, numbers := [4] }, line := 2 }
    target.OwnType ∧ registry.LeafAt target a.path (.layer {}) radius ∧ ∀ s : Trace,
      (∀ v, ((({} : Engine).coerceTraced a.value radius.type).run s).1 = .ok v →
        ((assign registry {} target a).run s).1.2.status = .applied ∧
          ((assign registry {} target a).run s).1.2.value = some v) ∧
      ∀ err, ((({} : Engine).coerceTraced a.value radius.type).run s).1 = .error err →
        ((assign registry {} target a).run s).1.2.status ≠ .applied ∧
          ((assign registry {} target a).run s).1.2.fault = some (err.withPath a.path.render) :=
  have hown : (Styled.widget (.label {})).OwnType := trivial
  have hleaf : registry.LeafAt (.widget (.label {})) ["layer", "cornerRadius"] (.layer {})
      (Facets.layer.real "cornerRadius" none fun l v => { l with cornerRadius := v }) :=
    ⟨["layer"], "cornerRadius", rfl, rfl, rfl⟩
  ⟨hown, hleaf, (coercions_fit_properties {}).2.2 hown hleaf⟩

end Theming.Widget
