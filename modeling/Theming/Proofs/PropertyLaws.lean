import Theming.Proofs.PropertyStores

/-!
# What a property writes

Each widget shows its styleable fields under their property names, and the object a nested
property leads to (a view's layer, a cell's labels). `Styled.shown` reads them; two whole objects
of one type that show the same everywhere are equal (`Styled.ext_shown`). An object is whole when
the parts its nested properties lead to are there.

A property is `Lawful` on a type when, on whole objects of that type, its store changes exactly
the field it names (to a value fixed by the value stored) and keeps the object whole, and its
nested property leads to a whole object that a write replaces and nothing else. Every property of
the widget registry is lawful (`registry_lawful`): this is what makes writes to distinct property
paths commute and a second write of one path undo the first.
-/

set_option autoImplicit false

namespace Theming.Widget

open Theming.Value Theming.Style

/-- What a styled object shows under a property name: the value of a stored field, or the object
a nested property leads to. -/
inductive Shown where
  | rect (r : Rect)
  | extent (e : Extent)
  | real (x : Float)
  | int (n : Int)
  | bool (b : Bool)
  | text (s : String)
  | color (c : Option Color)
  | image (i : Option Image)
  | font (f : Option Font)
  | object (o : Option Styled)

namespace Layer

/-- The fields of a layer by property name. -/
def shown (l : Layer) : String → Option Shown
  | "cornerRadius" => some (.real l.cornerRadius)
  | "borderWidth" => some (.real l.borderWidth)
  | "borderColor" => some (.color l.borderColor)
  | "shadowOffset" => some (.extent l.shadowOffset)
  | "shadowOpacity" => some (.real l.shadowOpacity)
  | _ => none

/-- Writes the field a property name names, when the value is of its kind. -/
def set (l : Layer) : String → Shown → Layer
  | "cornerRadius", .real x => { l with cornerRadius := x }
  | "borderWidth", .real x => { l with borderWidth := x }
  | "borderColor", .color c => { l with borderColor := c }
  | "shadowOffset", .extent e => { l with shadowOffset := e }
  | "shadowOpacity", .real x => { l with shadowOpacity := x }
  | _, _ => l

theorem shown_set_of_ne (l : Layer) {n m : String} (x : Shown) (h : m ≠ n) :
    (l.set n x).shown m = l.shown m := by
  unfold set
  -- every other name shows the field it showed, and writing under `m` itself contradicts `h`
  split <;> (unfold shown; split <;> first | rfl | exact absurd rfl h)

theorem ext_shown {l l' : Layer} (h : ∀ m, l.shown m = l'.shown m) : l = l' := by
  have h₁ := h "cornerRadius"
  have h₂ := h "borderWidth"
  have h₃ := h "borderColor"
  have h₄ := h "shadowOffset"
  have h₅ := h "shadowOpacity"
  cases l
  cases l'
  simp_all [shown]

end Layer

namespace View

/-- The names of a view's properties. -/
def names : List String :=
  ["frame", "backgroundColor", "alpha", "hidden", "clipsToBounds", "tag", "contentMode", "layer",
    "backgroundView"]

/-- The fields of a view by property name. -/
def shown (v : View) : String → Option Shown
  | "frame" => some (.rect v.frame)
  | "backgroundColor" => some (.color v.backgroundColor)
  | "alpha" => some (.real v.alpha)
  | "hidden" => some (.bool v.hidden)
  | "clipsToBounds" => some (.bool v.clipsToBounds)
  | "tag" => some (.int v.tag)
  | "contentMode" => some (.int v.contentMode)
  | "layer" => some (.object (v.layer.map .layer))
  | "backgroundView" => some (.image v.backgroundView)
  | _ => none

/-- Writes the field a property name names, when the value is of its kind. -/
def set (v : View) : String → Shown → View
  | "frame", .rect r => { v with frame := r }
  | "backgroundColor", .color c => { v with backgroundColor := c }
  | "alpha", .real x => { v with alpha := x }
  | "hidden", .bool b => { v with hidden := b }
  | "clipsToBounds", .bool b => { v with clipsToBounds := b }
  | "tag", .int n => { v with tag := n }
  | "contentMode", .int n => { v with contentMode := n }
  | "layer", .object (some (.layer l)) => { v with layer := some l }
  | "backgroundView", .image i => { v with backgroundView := i }
  | _, _ => v

theorem shown_set_of_ne (v : View) {n m : String} (x : Shown) (h : m ≠ n) :
    (v.set n x).shown m = v.shown m := by
  unfold set
  split <;> (unfold shown; split <;> first | rfl | exact absurd rfl h)

theorem shown_of_not_mem (v : View) {m : String} (h : m ∉ names) : v.shown m = none := by
  unfold shown
  split <;> simp_all [names]

theorem ext_shown {v v' : View} (h : ∀ m, v.shown m = v'.shown m) : v = v' := by
  have h₁ := h "frame"
  have h₂ := h "backgroundColor"
  have h₃ := h "alpha"
  have h₄ := h "hidden"
  have h₅ := h "clipsToBounds"
  have h₆ := h "tag"
  have h₇ := h "contentMode"
  have h₈ := h "layer"
  have h₉ := h "backgroundView"
  cases v
  cases v'
  simp_all [shown]
  exact Option.map_injective (fun _ _ h => Styled.layer.inj h) h₈

/-- Views that show the same under every property name of a view are equal. -/
theorem ext_names {v v' : View} (h : ∀ m ∈ names, v.shown m = v'.shown m) : v = v' := by
  refine ext_shown fun m => ?_
  by_cases hm : m ∈ names
  · exact h m hm
  · rw [shown_of_not_mem v hm, shown_of_not_mem v' hm]

end View

namespace Label

/-- The fields of a label by property name, its view's included. -/
def shown (l : Label) : String → Option Shown
  | "text" => some (.text l.text)
  | "textColor" => some (.color l.textColor)
  | "font" => some (.font l.font)
  | "shadowColor" => some (.color l.shadowColor)
  | "shadowOffset" => some (.extent l.shadowOffset)
  | "numberOfLines" => some (.int l.numberOfLines)
  | "textAlignment" => some (.int l.textAlignment)
  | m => l.view.shown m

/-- Writes the field a property name names, when the value is of its kind. -/
def set (l : Label) : String → Shown → Label
  | "text", .text s => { l with text := s }
  | "textColor", .color c => { l with textColor := c }
  | "font", .font f => { l with font := f }
  | "shadowColor", .color c => { l with shadowColor := c }
  | "shadowOffset", .extent e => { l with shadowOffset := e }
  | "numberOfLines", .int n => { l with numberOfLines := n }
  | "textAlignment", .int n => { l with textAlignment := n }
  | n, x => { l with view := l.view.set n x }

theorem shown_set_of_ne (l : Label) {n m : String} (x : Shown) (h : m ≠ n) :
    (l.set n x).shown m = l.shown m := by
  unfold set
  -- as for a view or a layer, except that a name of the view part is the view's own law
  split <;> (unfold shown; split <;>
    first | rfl | exact absurd rfl h | exact View.shown_set_of_ne _ _ h)

theorem shown_of_mem_view (l : Label) {m : String} (h : m ∈ View.names) :
    l.shown m = l.view.shown m := by
  simp only [View.names, List.mem_cons, List.not_mem_nil, or_false] at h
  rcases h with rfl | rfl | rfl | rfl | rfl | rfl | rfl | rfl | rfl <;> rfl

/-- Replacing the view changes nothing shown under the other names. -/
theorem shown_withView (l : Label) (v : View) {m : String} (h : m ∉ View.names) :
    { l with view := v }.shown m = l.shown m := by
  unfold shown
  split <;> simp_all [View.shown_of_not_mem]

theorem ext_shown {l l' : Label} (h : ∀ m, l.shown m = l'.shown m) : l = l' := by
  have hview : l.view = l'.view := View.ext_names fun m hm => by
    rw [← shown_of_mem_view l hm, ← shown_of_mem_view l' hm, h m]
  have h₁ := h "text"
  have h₂ := h "textColor"
  have h₃ := h "font"
  have h₄ := h "shadowColor"
  have h₅ := h "shadowOffset"
  have h₆ := h "numberOfLines"
  have h₇ := h "textAlignment"
  cases l
  cases l'
  simp_all [shown]

end Label

namespace ImageView

/-- The fields of an image view by property name, its view's included. -/
def shown (i : ImageView) : String → Option Shown
  | "image" => some (.image i.image)
  | "highlightedImage" => some (.image i.highlightedImage)
  | m => i.view.shown m

/-- Writes the field a property name names, when the value is of its kind. -/
def set (i : ImageView) : String → Shown → ImageView
  | "image", .image x => { i with image := x }
  | "highlightedImage", .image x => { i with highlightedImage := x }
  | n, x => { i with view := i.view.set n x }

theorem shown_set_of_ne (i : ImageView) {n m : String} (x : Shown) (h : m ≠ n) :
    (i.set n x).shown m = i.shown m := by
  unfold set
  split <;> (unfold shown; split <;>
    first | rfl | exact absurd rfl h | exact View.shown_set_of_ne _ _ h)

theorem shown_of_mem_view (i : ImageView) {m : String} (h : m ∈ View.names) :
    i.shown m = i.view.shown m := by
  simp only [View.names, List.mem_cons, List.not_mem_nil, or_false] at h
  rcases h with rfl | rfl | rfl | rfl | rfl | rfl | rfl | rfl | rfl <;> rfl

/-- Replacing the view changes nothing shown under the other names. -/
theorem shown_withView (i : ImageView) (v : View) {m : String} (h : m ∉ View.names) :
    { i with view := v }.shown m = i.shown m := by
  unfold shown
  split <;> simp_all [View.shown_of_not_mem]

theorem ext_shown {i i' : ImageView} (h : ∀ m, i.shown m = i'.shown m) : i = i' := by
  have hview : i.view = i'.view := View.ext_names fun m hm => by
    rw [← shown_of_mem_view i hm, ← shown_of_mem_view i' hm, h m]
  have h₁ := h "image"
  have h₂ := h "highlightedImage"
  cases i
  cases i'
  simp_all [shown]

end ImageView

namespace TableViewCell

/-- The fields of a table cell by property name, its view's included; the labels show as the
objects they are. -/
def shown (c : TableViewCell) : String → Option Shown
  | "textLabel" => some (.object (c.textLabel.map fun l => .widget (.label l)))
  | "detailTextLabel" => some (.object (c.detailTextLabel.map fun l => .widget (.label l)))
  | "selectedBackgroundView" => some (.image c.selectedBackgroundView)
  | "accessoryType" => some (.int c.accessoryType)
  | m => c.view.shown m

/-- Writes the field a property name names, when the value is of its kind. -/
def set (c : TableViewCell) : String → Shown → TableViewCell
  | "textLabel", .object (some (.widget (.label l))) => { c with textLabel := some l }
  | "detailTextLabel", .object (some (.widget (.label l))) => { c with detailTextLabel := some l }
  | "selectedBackgroundView", .image x => { c with selectedBackgroundView := x }
  | "accessoryType", .int n => { c with accessoryType := n }
  | n, x => { c with view := c.view.set n x }

theorem shown_set_of_ne (c : TableViewCell) {n m : String} (x : Shown) (h : m ≠ n) :
    (c.set n x).shown m = c.shown m := by
  unfold set
  split <;> (unfold shown; split <;>
    first | rfl | exact absurd rfl h | exact View.shown_set_of_ne _ _ h)

theorem shown_of_mem_view (c : TableViewCell) {m : String} (h : m ∈ View.names) :
    c.shown m = c.view.shown m := by
  simp only [View.names, List.mem_cons, List.not_mem_nil, or_false] at h
  rcases h with rfl | rfl | rfl | rfl | rfl | rfl | rfl | rfl | rfl <;> rfl

/-- Replacing the view changes nothing shown under the other names. -/
theorem shown_withView (c : TableViewCell) (v : View) {m : String} (h : m ∉ View.names) :
    { c with view := v }.shown m = c.shown m := by
  unfold shown
  split <;> simp_all [View.shown_of_not_mem]

theorem ext_shown {c c' : TableViewCell} (h : ∀ m, c.shown m = c'.shown m) : c = c' := by
  have hview : c.view = c'.view := View.ext_names fun m hm => by
    rw [← shown_of_mem_view c hm, ← shown_of_mem_view c' hm, h m]
  have label_inj : Function.Injective fun l : Label => Styled.widget (.label l) :=
    fun _ _ h => Widget.label.inj (Styled.widget.inj h)
  have h₁ := h "textLabel"
  have h₂ := h "detailTextLabel"
  have h₃ := h "selectedBackgroundView"
  have h₄ := h "accessoryType"
  cases c
  cases c'
  simp only [shown, Option.some.injEq, Shown.object.injEq, Shown.image.injEq,
    Shown.int.injEq] at h₁ h₂ h₃ h₄
  simp_all [Option.map_injective label_inj |>.eq_iff]

end TableViewCell

namespace TableView

/-- The fields of a table by property name, its view's included. -/
def shown (t : TableView) : String → Option Shown
  | "separatorStyle" => some (.int t.separatorStyle)
  | "separatorColor" => some (.color t.separatorColor)
  | "rowHeight" => some (.real t.rowHeight)
  | m => t.view.shown m

/-- Writes the field a property name names, when the value is of its kind. -/
def set (t : TableView) : String → Shown → TableView
  | "separatorStyle", .int n => { t with separatorStyle := n }
  | "separatorColor", .color c => { t with separatorColor := c }
  | "rowHeight", .real x => { t with rowHeight := x }
  | n, x => { t with view := t.view.set n x }

theorem shown_set_of_ne (t : TableView) {n m : String} (x : Shown) (h : m ≠ n) :
    (t.set n x).shown m = t.shown m := by
  unfold set
  split <;> (unfold shown; split <;>
    first | rfl | exact absurd rfl h | exact View.shown_set_of_ne _ _ h)

theorem shown_of_mem_view (t : TableView) {m : String} (h : m ∈ View.names) :
    t.shown m = t.view.shown m := by
  simp only [View.names, List.mem_cons, List.not_mem_nil, or_false] at h
  rcases h with rfl | rfl | rfl | rfl | rfl | rfl | rfl | rfl | rfl <;> rfl

/-- Replacing the view changes nothing shown under the other names. -/
theorem shown_withView (t : TableView) (v : View) {m : String} (h : m ∉ View.names) :
    { t with view := v }.shown m = t.shown m := by
  unfold shown
  split <;> simp_all [View.shown_of_not_mem]

theorem ext_shown {t t' : TableView} (h : ∀ m, t.shown m = t'.shown m) : t = t' := by
  have hview : t.view = t'.view := View.ext_names fun m hm => by
    rw [← shown_of_mem_view t hm, ← shown_of_mem_view t' hm, h m]
  have h₁ := h "separatorStyle"
  have h₂ := h "separatorColor"
  have h₃ := h "rowHeight"
  cases t
  cases t'
  simp_all [shown]

end TableView

namespace NavigationBar

/-- The fields of a navigation bar by property name, its view's included. -/
def shown (b : NavigationBar) : String → Option Shown
  | "backgroundImage" => some (.image b.backgroundImage)
  | "tintColor" => some (.color b.tintColor)
  | "translucent" => some (.bool b.translucent)
  | m => b.view.shown m

/-- Writes the field a property name names, when the value is of its kind. -/
def set (b : NavigationBar) : String → Shown → NavigationBar
  | "backgroundImage", .image x => { b with backgroundImage := x }
  | "tintColor", .color c => { b with tintColor := c }
  | "translucent", .bool x => { b with translucent := x }
  | n, x => { b with view := b.view.set n x }

theorem shown_set_of_ne (b : NavigationBar) {n m : String} (x : Shown) (h : m ≠ n) :
    (b.set n x).shown m = b.shown m := by
  unfold set
  split <;> (unfold shown; split <;>
    first | rfl | exact absurd rfl h | exact View.shown_set_of_ne _ _ h)

theorem shown_of_mem_view (b : NavigationBar) {m : String} (h : m ∈ View.names) :
    b.shown m = b.view.shown m := by
  simp only [View.names, List.mem_cons, List.not_mem_nil, or_false] at h
  rcases h with rfl | rfl | rfl | rfl | rfl | rfl | rfl | rfl | rfl <;> rfl

/-- Replacing the view changes nothing shown under the other names. -/
theorem shown_withView (b : NavigationBar) (v : View) {m : String} (h : m ∉ View.names) :
    { b with view := v }.shown m = b.shown m := by
  unfold shown
  split <;> simp_all [View.shown_of_not_mem]

theorem ext_shown {b b' : NavigationBar} (h : ∀ m, b.shown m = b'.shown m) : b = b' := by
  have hview : b.view = b'.view := View.ext_names fun m hm => by
    rw [← shown_of_mem_view b hm, ← shown_of_mem_view b' hm, h m]
  have h₁ := h "backgroundImage"
  have h₂ := h "tintColor"
  have h₃ := h "translucent"
  cases b
  cases b'
  simp_all [shown]

end NavigationBar

namespace Widget

/-- The fields of a widget by property name. -/
def shown : Widget → String → Option Shown
  | .view v => v.shown
  | .label l => l.shown
  | .imageView i => i.shown
  | .tableViewCell c => c.shown
  | .tableView t => t.shown
  | .navigationBar b => b.shown

/-- Writes the field of a widget a property name names, when the value is of its kind. -/
def set : Widget → String → Shown → Widget
  | .view v, n, x => .view (v.set n x)
  | .label l, n, x => .label (l.set n x)
  | .imageView i, n, x => .imageView (i.set n x)
  | .tableViewCell c, n, x => .tableViewCell (c.set n x)
  | .tableView t, n, x => .tableView (t.set n x)
  | .navigationBar b, n, x => .navigationBar (b.set n x)

end Widget

namespace Styled

/-- The fields of a styled object by property name; an absent or foreign object shows nothing. -/
def shown : Styled → String → Option Shown
  | .widget w => w.shown
  | .layer l => l.shown
  | .absent _ => fun _ => none
  | .foreign _ => fun _ => none

/-- Writes the field a property name names, when the value is of its kind. -/
def set : Styled → String → Shown → Styled
  | .widget w, n, x => .widget (w.set n x)
  | .layer l, n, x => .layer (l.set n x)
  | a, _, _ => a

/-- Whether every nested object is there: the layer of every view, and both labels of a table cell
with their layers. -/
def whole : Styled → Bool
  | .widget (.tableViewCell c) => c.view.layer.isSome &&
      c.textLabel.any (·.view.layer.isSome) && c.detailTextLabel.any (·.view.layer.isSome)
  | .widget w => w.base.layer.isSome
  | .layer _ => true
  | .absent _ => false
  | .foreign _ => false

theorem shown_set_of_ne (a : Styled) {n m : String} (x : Shown) (h : m ≠ n) :
    (a.set n x).shown m = a.shown m := by
  rcases a with (v | l | i | c | t | b) | l | _ | _ <;>
    simp [set, shown, Widget.set, Widget.shown, View.shown_set_of_ne, Label.shown_set_of_ne,
      ImageView.shown_set_of_ne, TableViewCell.shown_set_of_ne, TableView.shown_set_of_ne,
      NavigationBar.shown_set_of_ne, Layer.shown_set_of_ne, h]

@[simp] theorem typeName_set (a : Styled) (n : String) (x : Shown) :
    Styleable.typeName (a.set n x) = Styleable.typeName a := by
  rcases a with (v | l | i | c | t | b) | l | _ | _ <;> rfl

/-- A whole object is one of its own type. -/
theorem ownType_of_whole {a : Styled} (h : a.whole = true) : a.OwnType := by
  cases a <;> simp_all [whole, OwnType]

/-- Whole objects of one type that show the same under every name are equal. -/
theorem ext_shown {a b : Styled} (ha : a.whole = true) (hb : b.whole = true)
    (htype : Styleable.typeName a = Styleable.typeName b) (h : ∀ m, a.shown m = b.shown m) :
    a = b := by
  rcases a with (v | l | i | c | t | n) | l | _ | _ <;>
    rcases b with (v' | l' | i' | c' | t' | n') | l' | _ | _ <;>
    simp_all [whole, Styleable.typeName, Widget.typeName]
  · exact View.ext_shown h
  · exact Label.ext_shown h
  · exact ImageView.ext_shown h
  · exact TableViewCell.ext_shown h
  · exact TableView.ext_shown h
  · exact NavigationBar.ext_shown h
  · exact Layer.ext_shown h

end Styled


/-! ## Changes of one name -/

/-- `a'` is `a` with what shows under `name` made `x` and nothing else changed: of the same type,
and whole. -/
structure Changes (name : String) (x : Option Shown) (a a' : Styled) : Prop where
  typeName : Styleable.typeName a' = Styleable.typeName a
  whole : a'.whole = true
  shown : a'.shown name = x
  others : ∀ m, m ≠ name → a'.shown m = a.shown m

namespace Changes

variable {n n' : String} {x y : Option Shown} {a a₁ a₂ a₁₂ a₂₁ : Styled}

/-- Writing a field by name changes what shows under that name only. -/
theorem of_set {x : Shown} (hshown : (a.set n x).shown n = some x) (hwhole : (a.set n x).whole = true) :
    Changes n (some x) a (a.set n x) :=
  ⟨Styled.typeName_set a n x, hwhole, hshown, fun _ hm => Styled.shown_set_of_ne a x hm⟩

/-- One change has one result. -/
theorem unique (h₁ : Changes n x a a₁) (h₂ : Changes n x a a₂) : a₁ = a₂ := by
  refine Styled.ext_shown h₁.whole h₂.whole (h₁.typeName.trans h₂.typeName.symm) fun m => ?_
  by_cases hm : m = n
  · rw [hm, h₁.shown, h₂.shown]
  · rw [h₁.others m hm, h₂.others m hm]

/-- A second change of the same name undoes the first. -/
theorem trans (h₁ : Changes n x a a₁) (h₂ : Changes n y a₁ a₂) : Changes n y a a₂ :=
  ⟨h₂.typeName.trans h₁.typeName, h₂.whole, h₂.shown,
    fun m hm => (h₂.others m hm).trans (h₁.others m hm)⟩

/-- Changes of two names commute. -/
theorem comm (hne : n ≠ n') (h₁ : Changes n x a a₁) (h₁₂ : Changes n' y a₁ a₁₂)
    (h₂ : Changes n' y a a₂) (h₂₁ : Changes n x a₂ a₂₁) : a₁₂ = a₂₁ := by
  refine Styled.ext_shown h₁₂.whole h₂₁.whole
    ((h₁₂.typeName.trans h₁.typeName).trans (h₂₁.typeName.trans h₂.typeName).symm) fun m => ?_
  by_cases hm : m = n
  · subst hm
    rw [h₁₂.others m hne, h₁.shown, h₂₁.shown]
  · by_cases hm' : m = n'
    · subst hm'
      rw [h₁₂.shown, h₂₁.others m hm, h₂.shown]
    · rw [h₁₂.others m hm', h₁.others m hm, h₂₁.others m hm, h₂.others m hm']

end Changes

/-! ## Lawful properties -/

/-- What a property does on the whole objects of its type `T`. Its name shows something. A store
that takes a value into one such object takes it into every other, and changes only what shows
under the property's name, to what the value alone decides. A nested object is always there, of
one type, shown under the property's name; the property then stores nothing, and putting back a
whole object of that type changes only what shows under its name. -/
structure Lawful (T : String) (p : Property Styled) : Prop where
  shows : ∀ a : Styled, a.whole = true → Styleable.typeName a = T → (a.shown p.name).isSome
  store : ∀ store ∈ p.store, ∃ σ : Value → Option Shown, ∀ a : Styled, a.whole = true →
    Styleable.typeName a = T → ∀ v a', store a v = .ok a' →
      Changes p.name (σ v) a a' ∧
        ∀ b : Styled, b.whole = true → Styleable.typeName b = T → ∃ b', store b v = .ok b'
  nested : ∀ n ∈ p.nested, p.store = none ∧ ∃ T' : String, ∀ a : Styled, a.whole = true →
    Styleable.typeName a = T → ∃ c, n.get a = some c ∧ c.whole = true ∧
      Styleable.typeName c = T' ∧ a.shown p.name = some (.object (some c)) ∧
      ∀ c' : Styled, c'.whole = true → Styleable.typeName c' = T' →
        Changes p.name (some (.object (some c'))) a (n.put a c')

section Constructors

variable {τ : Type}

/-- A facet finds its own type in every whole object of its type name, and wraps it back. -/
structure Casts (f : Facet Styled τ) : Prop where
  cast : ∀ a : Styled, a.whole = true → Styleable.typeName a = f.typeName →
    ∃ t, f.cast a = some t ∧ f.wrap t = a
  typeName : ∀ t, Styleable.typeName (f.wrap t) = f.typeName

/-- A field written by name: the write is the field's `set`, shows its value, keeps the object
whole, and the name shows on every object of the facet. -/
structure Writes {ν : Type} (f : Facet Styled τ) (name : String) (enc : ν → Shown)
    (write : τ → ν → τ) : Prop where
  set : ∀ t x, f.wrap (write t x) = (f.wrap t).set name (enc x)
  shown : ∀ t x, (f.wrap (write t x)).shown name = some (enc x)
  whole : ∀ t x, (f.wrap (write t x)).whole = (f.wrap t).whole
  shows : ∀ t, ((f.wrap t).shown name).isSome = true

/-- The value a field property's store writes into its field: the zero for `nil`, what it reads
otherwise. -/
def fieldValue {ν : Type} (zero : ν) (read : Value → Option ν) : Value → ν
  | .null => zero
  | v => (read v).getD zero

/-- A stored field written by name is lawful. -/
theorem lawful_field {ν : Type} {f : Facet Styled τ} (hf : Casts f) {name : String}
    {type : ValueType} {zero : ν} {read : Value → Option ν} {write : τ → ν → τ} (enc : ν → Shown)
    (hw : Writes f name enc write) : Lawful f.typeName (f.field name type zero read write) := by
  refine ⟨fun a ha htype => ?_, fun store hstore => ?_, fun n hn => by cases hn⟩
  · obtain ⟨t, -, rfl⟩ := hf.cast a ha htype
    exact hw.shows t
  · cases hstore
    refine ⟨fun v => some (enc (fieldValue zero read v)), fun a ha htype v a' hv => ?_⟩
    obtain ⟨t, ht, rfl⟩ := hf.cast a ha htype
    -- the store writes what it read into the field, into any object of the facet
    have hwrite : a' = f.wrap (write t (fieldValue zero read v)) ∧ (v = .null ∨ (read v).isSome) := by
      simp only [ht] at hv
      split at hv
      · exact ⟨(Except.ok.inj hv).symm, .inl rfl⟩
      · next hnull =>
        split at hv
        · next x hx =>
          have hx' : fieldValue zero read v = x := by
            cases v <;> simp_all [fieldValue]
          exact ⟨by rw [hx']; exact (Except.ok.inj hv).symm, .inr (by simp [hx])⟩
        · cases hv
    obtain ⟨rfl, hread⟩ := hwrite
    refine ⟨?_, fun b hb hbt => ?_⟩
    · show Changes name _ (f.wrap t) _
      rw [hw.set]
      exact Changes.of_set (by rw [← hw.set]; exact hw.shown t _)
        (by rw [← hw.set, hw.whole]; exact ha)
    · -- another object of the facet takes the same value
      obtain ⟨t', ht', rfl⟩ := hf.cast b hb hbt
      simp only [ht']
      rcases hread with rfl | hx
      · exact ⟨_, rfl⟩
      · obtain ⟨x, hx'⟩ := Option.isSome_iff_exists.mp hx
        split
        · exact ⟨_, rfl⟩
        · simp [hx']

/-- An object property whose nested object is always there and is put back by name is lawful. -/
theorem lawful_object {f : Facet Styled τ} (hf : Casts f) {name : String}
    {get : τ → Option Styled} {put : τ → Styled → τ} (T' : String)
    (hget : ∀ t, (f.wrap t).whole = true → ∃ c, get t = some c ∧ c.whole = true ∧
      Styleable.typeName c = T' ∧ (f.wrap t).shown name = some (.object (some c)))
    (hput : ∀ t c', (f.wrap t).whole = true → c'.whole = true → Styleable.typeName c' = T' →
      Changes name (some (.object (some c'))) (f.wrap t) (f.wrap (put t c'))) :
    Lawful f.typeName (f.object name get put) := by
  refine ⟨fun a ha htype => ?_, fun store hstore => (by cases hstore), fun n hn => ?_⟩
  · obtain ⟨t, -, rfl⟩ := hf.cast a ha htype
    obtain ⟨c, -, -, -, hshown⟩ := hget t ha
    show ((f.wrap t).shown name).isSome = true
    rw [hshown]
    rfl
  · cases hn
    refine ⟨rfl, T', fun a ha htype => ?_⟩
    obtain ⟨t, ht, rfl⟩ := hf.cast a ha htype
    obtain ⟨c, hc, hwhole, hctype, hshown⟩ := hget t ha
    refine ⟨c, by simp [ht, hc], hwhole, hctype, hshown, fun c' hc' hc'type => ?_⟩
    simp only [ht]
    exact hput t c' ha hc' hc'type

end Constructors

/-! ## Properties taken over from the view -/

/-- A whole object of the view's type is a plain view. -/
theorem Styled.eq_view {c : Styled} (hc : c.whole = true)
    (htype : Styleable.typeName c = Facets.view.typeName) : ∃ v, c = .widget (.view v) := by
  rcases c with (v | l | i | c | t | b) | l | _ | _ <;>
    simp_all [whole, Styleable.typeName, Widget.typeName, Facets.view]

/-- Every property of a view shows under one of the view's names. -/
theorem View.mem_names_of_lawful {p : Property Styled} (hp : Lawful Facets.view.typeName p) :
    p.name ∈ View.names := by
  by_contra hn
  have hshows := hp.shows (.widget (.view {})) rfl rfl
  simp [Styled.shown, Widget.shown, View.shown_of_not_mem _ hn] at hshows

section Embeds

variable {τ : Type}

/-- How a widget kind holds its view part: found by its facet, whole when the widget is, and the
only part that shows under the view's names. -/
structure EmbedsView (f : Facet Styled τ) (part : τ → View) (rebuild : τ → View → τ) : Prop where
  casts : Casts f
  part_layer : ∀ t, (f.wrap t).whole = true → (part t).layer.isSome = true
  rebuild_whole : ∀ t v, (f.wrap t).whole = true → v.layer.isSome = true →
    (f.wrap (rebuild t v)).whole = true
  part_rebuild : ∀ t v, part (rebuild t v) = v
  shown_view : ∀ t m, m ∈ View.names → (f.wrap t).shown m = (part t).shown m
  shown_rebuild : ∀ t v m, m ∉ View.names → (f.wrap (rebuild t v)).shown m = (f.wrap t).shown m

variable {f : Facet Styled τ} {part : τ → View} {rebuild : τ → View → τ}

/-- A change of the view part under one of its names is the same change of the widget. -/
theorem EmbedsView.changes (he : EmbedsView f part rebuild) {t : τ} (ha : (f.wrap t).whole = true)
    {n : String} {x : Option Shown} {v' : View} (hn : n ∈ View.names)
    (h : Changes n x (.widget (.view (part t))) (.widget (.view v'))) :
    Changes n x (f.wrap t) (f.wrap (rebuild t v')) := by
  refine ⟨(he.casts.typeName _).trans (he.casts.typeName _).symm,
    he.rebuild_whole t v' ha h.whole, ?_, fun m hm => ?_⟩
  · rw [he.shown_view _ n hn, he.part_rebuild]
    exact h.shown
  · by_cases hmv : m ∈ View.names
    · rw [he.shown_view _ m hmv, he.part_rebuild, he.shown_view _ m hmv]
      exact h.others m hm
    · exact he.shown_rebuild t v' m hmv

/-- A property of the view taken over by a widget kind is lawful there. -/
theorem lawful_promote (he : EmbedsView f part rebuild) {p : Property Styled}
    (hp : Lawful Facets.view.typeName p) :
    Lawful f.typeName (Registry.promote f.typeName (viewField f part rebuild) p) := by
  have hname := View.mem_names_of_lawful hp
  -- every whole widget of the kind is the wrapping of one, with a whole view part
  have hpart : ∀ a : Styled, a.whole = true → Styleable.typeName a = f.typeName →
      ∃ t, f.cast a = some t ∧ f.wrap t = a ∧ (viewField f part rebuild).get a =
        some (.widget (.view (part t))) := by
    intro a ha htype
    obtain ⟨t, ht, hwrap⟩ := he.casts.cast a ha htype
    exact ⟨t, ht, hwrap, by simp [viewField, ht]⟩
  refine ⟨fun a ha htype => ?_, fun store hstore => ?_, fun n hn => ?_⟩
  · obtain ⟨t, -, rfl, -⟩ := hpart a ha htype
    show ((f.wrap t).shown p.name).isSome = true
    rw [he.shown_view t _ hname]
    exact hp.shows (.widget (.view (part t))) (he.part_layer t ha) rfl
  · obtain ⟨s, hs, rfl⟩ := Option.map_eq_some_iff.1 hstore
    obtain ⟨σ, hσ⟩ := hp.store s hs
    refine ⟨σ, fun a ha htype v a' hv => ?_⟩
    obtain ⟨t, ht, rfl, hget⟩ := hpart a ha htype
    simp only [hget] at hv
    cases he' : s (.widget (.view (part t))) v with
    | error => simp [he', Except.map] at hv
    | ok e' =>
      simp only [he', Except.map, Except.ok.injEq] at hv
      subst hv
      obtain ⟨hchange, htransfer⟩ := hσ (.widget (.view (part t))) (he.part_layer t ha) rfl v e' he'
      obtain ⟨v', rfl⟩ := Styled.eq_view hchange.whole (hchange.typeName.trans rfl)
      have hput : (viewField f part rebuild).put (f.wrap t) (.widget (.view v')) =
          f.wrap (rebuild t v') := by
        simp [viewField, ht]
      refine ⟨by rw [hput]; exact he.changes ha hname hchange, fun b hb hbtype => ?_⟩
      obtain ⟨t', -, rfl, hget'⟩ := hpart b hb hbtype
      obtain ⟨e'', he''⟩ := htransfer (.widget (.view (part t'))) (he.part_layer t' hb) rfl
      simp [hget', he'', Except.map]
  · -- a nested object of the view is reached through the view part
    obtain ⟨m, hm, rfl⟩ := Option.map_eq_some_iff.1 hn
    obtain ⟨hnostore, T', hT'⟩ := hp.nested m hm
    refine ⟨by simp [Registry.promote, hnostore], T', fun a ha htype => ?_⟩
    obtain ⟨t, ht, rfl, hget⟩ := hpart a ha htype
    obtain ⟨c, hc, hcw, hct, hshown, hput⟩ :=
      hT' (.widget (.view (part t))) (he.part_layer t ha) rfl
    refine ⟨c, by simp [Nested.andThen, hget, hc], hcw, hct, ?_, fun c' hc' hc't => ?_⟩
    · show (f.wrap t).shown p.name = _
      rw [he.shown_view t _ hname]
      exact hshown
    · have hchange := hput c' hc' hc't
      obtain ⟨v', hv'⟩ := Styled.eq_view hchange.whole (hchange.typeName.trans rfl)
      rw [hv'] at hchange
      have hputs : ((viewField f part rebuild).andThen m).put (f.wrap t) c' =
          f.wrap (rebuild t v') := by
        simp [Nested.andThen, viewField, ht, hv']
      rw [hputs]
      exact he.changes ha hname hchange

end Embeds

/-! ## The widget registry -/

section Registry

variable {τ : Type}

theorem Styled.isNil_of_whole {a : Styled} (h : a.whole = true) : Styleable.isNil a = false := by
  cases a <;> simp_all [Styled.whole, Styleable.isNil]

theorem casts_of {f : Facet Styled τ} (hr : Recognises f) (hw : WrapsCast f)
    (htype : ∀ t, Styleable.typeName (f.wrap t) = f.typeName) : Casts f := by
  refine ⟨fun a ha htype' => ?_, htype⟩
  obtain ⟨t, ht⟩ := hr a (Styled.ownType_of_whole ha) htype' (Styled.isNil_of_whole ha)
  exact ⟨t, ht, hw a t ht⟩

theorem casts_facets :
    Casts Facets.layer ∧ Casts Facets.view ∧ Casts Facets.label ∧ Casts Facets.imageView ∧
      Casts Facets.tableViewCell ∧ Casts Facets.tableView ∧ Casts Facets.navigationBar := by
  obtain ⟨rlayer, rview, rlabel, rimage, rcell, rtable, rbar⟩ := recognises_facets
  obtain ⟨wview, wlabel, wimage, wcell, wtable, wbar⟩ := wrapsCast_facets
  exact ⟨casts_of rlayer wrapsCast_layer fun _ => rfl, casts_of rview wview fun _ => rfl,
    casts_of rlabel wlabel fun _ => rfl, casts_of rimage wimage fun _ => rfl,
    casts_of rcell wcell fun _ => rfl, casts_of rtable wtable fun _ => rfl,
    casts_of rbar wbar fun _ => rfl⟩

/-- Every widget kind but the plain view holds its view part as its `view` field. -/
theorem embedsView_kinds :
    EmbedsView Facets.label (·.view) (fun w v => { w with view := v }) ∧
      EmbedsView Facets.imageView (·.view) (fun w v => { w with view := v }) ∧
      EmbedsView Facets.tableViewCell (·.view) (fun w v => { w with view := v }) ∧
      EmbedsView Facets.tableView (·.view) (fun w v => { w with view := v }) ∧
      EmbedsView Facets.navigationBar (·.view) (fun w v => { w with view := v }) := by
  obtain ⟨-, -, clabel, cimage, ccell, ctable, cbar⟩ := casts_facets
  refine ⟨⟨clabel, fun _ h => h, fun _ _ _ h => h, fun _ _ => rfl,
      fun t _ hm => t.shown_of_mem_view hm, fun t v _ hm => t.shown_withView v hm⟩,
    ⟨cimage, fun _ h => h, fun _ _ _ h => h, fun _ _ => rfl,
      fun t _ hm => t.shown_of_mem_view hm, fun t v _ hm => t.shown_withView v hm⟩,
    ⟨ccell, fun _ h => ?_, fun _ _ h hv => ?_, fun _ _ => rfl,
      fun t _ hm => t.shown_of_mem_view hm, fun t v _ hm => t.shown_withView v hm⟩,
    ⟨ctable, fun _ h => h, fun _ _ _ h => h, fun _ _ => rfl,
      fun t _ hm => t.shown_of_mem_view hm, fun t v _ hm => t.shown_withView v hm⟩,
    ⟨cbar, fun _ h => h, fun _ _ _ h => h, fun _ _ => rfl,
      fun t _ hm => t.shown_of_mem_view hm, fun t v _ hm => t.shown_withView v hm⟩⟩
  · -- a table cell is whole with its view and both labels
    simp only [Facets.tableViewCell, Styled.whole, Bool.and_eq_true] at h
    exact h.1.1
  · simp only [Facets.tableViewCell, Styled.whole, Bool.and_eq_true] at h ⊢
    exact ⟨⟨hv, h.1.2⟩, h.2⟩

/-- Every property of the widget registry is lawful on the whole objects of its type: the stored
fields of each kind, the layer of a view, the labels of a table cell, and the view's properties
taken over by every other widget kind. -/
theorem registry_lawful : registry.Registered Lawful := by
  unfold registry
  split
  · next r h =>
    simp only [registryChecked, Theming.Sheet.bind_eq_ok] at h
    obtain ⟨r₁, h₁, r₂, h₂, r₃, h₃, r₄, h₄, r₅, h₅, r₆, h₆, r₇, h₇, r₈, h₈, r₉, h₉, r₁₀, h₁₀, r₁₁,
      h₁₁, h₁₂⟩ := h
    obtain ⟨clayer, cview, clabel, cimage, ccell, ctable, cbar⟩ := casts_facets
    obtain ⟨elabel, eimage, ecell, etable, ebar⟩ := embedsView_kinds
    have listed : ∀ {T : String} {props : List (Property Styled)}, props.Forall (Lawful T) →
        ∀ p ∈ props, Lawful T p := List.forall_iff_forall_mem.1
    have l₁ : r₁.Registered Lawful := Registry.registered_register h₁ (fun c hc => by cases hc)
      (listed ⟨lawful_field clayer Shown.real (by constructor <;> intros <;> rfl),
        lawful_field clayer Shown.real (by constructor <;> intros <;> rfl),
        lawful_field clayer Shown.color (by constructor <;> intros <;> rfl),
        lawful_field clayer Shown.extent (by constructor <;> intros <;> rfl),
        lawful_field clayer Shown.real (by constructor <;> intros <;> rfl)⟩)
    have l₂ := Registry.registered_register h₂ l₁
      (listed ⟨lawful_field cview Shown.rect (by constructor <;> intros <;> rfl),
        lawful_field cview Shown.color (by constructor <;> intros <;> rfl),
        lawful_field cview Shown.real (by constructor <;> intros <;> rfl),
        lawful_field cview Shown.bool (by constructor <;> intros <;> rfl),
        lawful_field cview Shown.bool (by constructor <;> intros <;> rfl),
        lawful_field cview Shown.int (by constructor <;> intros <;> rfl),
        lawful_field cview Shown.int (by constructor <;> intros <;> rfl),
        lawful_object cview Facets.layer.typeName ?layerGet ?layerPut,
        lawful_field cview Shown.image (by constructor <;> intros <;> rfl)⟩)
    case layerGet =>
      -- a whole view has its layer
      intro t h
      obtain ⟨l, hl⟩ := Option.isSome_iff_exists.1 (show t.layer.isSome = true from h)
      exact ⟨.layer l, by simp [hl], rfl, rfl, by
        simp [Facets.view, Styled.shown, Widget.shown, View.shown, hl]⟩
    case layerPut =>
      intro t c' h hc' htype
      obtain ⟨l', -, rfl⟩ := clayer.cast c' hc' htype
      exact Changes.of_set rfl rfl
    have l₃ := Registry.registered_register h₃ l₂
      (listed ⟨lawful_field clabel Shown.text (by constructor <;> intros <;> rfl),
        lawful_field clabel Shown.color (by constructor <;> intros <;> rfl),
        lawful_field clabel Shown.font (by constructor <;> intros <;> rfl),
        lawful_field clabel Shown.color (by constructor <;> intros <;> rfl),
        lawful_field clabel Shown.extent (by constructor <;> intros <;> rfl),
        lawful_field clabel Shown.int (by constructor <;> intros <;> rfl),
        lawful_field clabel Shown.int (by constructor <;> intros <;> rfl)⟩)
    have l₄ := Registry.registered_embed h₄ l₃ fun _ hp => lawful_promote elabel hp
    have l₅ := Registry.registered_register h₅ l₄
      (listed ⟨lawful_field cimage Shown.image (by constructor <;> intros <;> rfl),
        lawful_field cimage Shown.image (by constructor <;> intros <;> rfl)⟩)
    have l₆ := Registry.registered_embed h₆ l₅ fun _ hp => lawful_promote eimage hp
    have l₇ := Registry.registered_register h₇ l₆
      (listed ⟨lawful_object ccell Facets.label.typeName ?textGet ?textPut,
        lawful_object ccell Facets.label.typeName ?detailGet ?detailPut,
        lawful_field ccell Shown.image (by constructor <;> intros <;> rfl),
        lawful_field ccell Shown.int (by constructor <;> intros <;> rfl)⟩)
    case textGet =>
      -- a whole table cell has both labels, each with its layer
      intro t h
      simp only [Facets.tableViewCell, Styled.whole, Bool.and_eq_true, Option.any_eq_true] at h
      obtain ⟨⟨-, l, hl, hlayer⟩, -⟩ := h
      exact ⟨.widget (.label l), by simp [labelObject, hl], hlayer, rfl, by
        simp [Facets.tableViewCell, Styled.shown, Widget.shown, TableViewCell.shown, hl]⟩
    case detailGet =>
      intro t h
      simp only [Facets.tableViewCell, Styled.whole, Bool.and_eq_true, Option.any_eq_true] at h
      obtain ⟨-, l, hl, hlayer⟩ := h
      exact ⟨.widget (.label l), by simp [labelObject, hl], hlayer, rfl, by
        simp [Facets.tableViewCell, Styled.shown, Widget.shown, TableViewCell.shown, hl]⟩
    case textPut | detailPut =>
      intro t c' h hc' htype
      obtain ⟨l', -, rfl⟩ := clabel.cast c' hc' htype
      refine Changes.of_set rfl ?_
      simp only [Facets.tableViewCell, Facets.label, Styled.set, Widget.set, TableViewCell.set,
        Styled.whole, Bool.and_eq_true, Option.any_some] at h hc' ⊢
      -- the new label brings its layer; the cell's other parts are untouched
      tauto
    have l₈ := Registry.registered_embed h₈ l₇ fun _ hp => lawful_promote ecell hp
    have l₉ := Registry.registered_register h₉ l₈
      (listed ⟨lawful_field ctable Shown.int (by constructor <;> intros <;> rfl),
        lawful_field ctable Shown.color (by constructor <;> intros <;> rfl),
        lawful_field ctable Shown.real (by constructor <;> intros <;> rfl)⟩)
    have l₁₀ := Registry.registered_embed h₁₀ l₉ fun _ hp => lawful_promote etable hp
    have l₁₁ := Registry.registered_register h₁₁ l₁₀
      (listed ⟨lawful_field cbar Shown.image (by constructor <;> intros <;> rfl),
        lawful_field cbar Shown.color (by constructor <;> intros <;> rfl),
        lawful_field cbar Shown.bool (by constructor <;> intros <;> rfl)⟩)
    exact Registry.registered_embed h₁₂ l₁₁ fun _ hp => lawful_promote ebar hp
  · exact fun c hc => by cases hc

end Registry

end Theming.Widget
