import Theming.Widget.Widget
import Theming.Value.Enumeration

/-!
# The widget registry

The catalogs of the sample widgets. The layer and the plain view have their own properties;
every other widget registers its own and then takes over the view's, so a label has a frame and
a layer too.

| type | properties |
|---|---|
| layer | `cornerRadius`, `borderWidth`, `borderColor` (graphics color), `shadowOffset`, `shadowOpacity` |
| view | `frame`, `backgroundColor`, `alpha`, `hidden`, `clipsToBounds`, `tag`, `contentMode`, `layer` (object), `backgroundView` |
| label | `text`, `textColor`, `font`, `shadowColor`, `shadowOffset`, `numberOfLines`, `textAlignment` |
| image view | `image`, `highlightedImage` |
| table cell | `textLabel`, `detailTextLabel` (objects), `selectedBackgroundView`, `accessoryType` |
| table | `separatorStyle`, `separatorColor`, `rowHeight` |
| navigation bar | `backgroundImage`, `tintColor`, `translucent` |
-/

set_option autoImplicit false

namespace Theming.Widget

open Theming.Value Theming.Style

namespace Facets

/-- Layers among styled objects. -/
def layer : Facet Styled Layer where
  typeName := "*widget.Layer"
  cast | .layer l => some l | _ => none
  wrap := .layer

/-- Plain views among styled objects. -/
def view : Facet Styled View where
  typeName := "*widget.View"
  cast | .widget (.view v) => some v | _ => none
  wrap v := .widget (.view v)

/-- Labels among styled objects. -/
def label : Facet Styled Label where
  typeName := "*widget.Label"
  cast | .widget (.label l) => some l | _ => none
  wrap l := .widget (.label l)

/-- Image views among styled objects. -/
def imageView : Facet Styled ImageView where
  typeName := "*widget.ImageView"
  cast | .widget (.imageView v) => some v | _ => none
  wrap v := .widget (.imageView v)

/-- Table cells among styled objects. -/
def tableViewCell : Facet Styled TableViewCell where
  typeName := "*widget.TableViewCell"
  cast | .widget (.tableViewCell c) => some c | _ => none
  wrap c := .widget (.tableViewCell c)

/-- Tables among styled objects. -/
def tableView : Facet Styled TableView where
  typeName := "*widget.TableView"
  cast | .widget (.tableView t) => some t | _ => none
  wrap t := .widget (.tableView t)

/-- Navigation bars among styled objects. -/
def navigationBar : Facet Styled NavigationBar where
  typeName := "*widget.NavigationBar"
  cast | .widget (.navigationBar n) => some n | _ => none
  wrap n := .widget (.navigationBar n)

end Facets

/-- The view inside a widget of a kind: found in that kind only, put back in place. -/
def viewField {τ : Type} (f : Facet Styled τ) (part : τ → View) (rebuild : τ → View → τ) :
    Nested Styled where
  get a := (f.cast a).map fun t => .widget (.view (part t))
  put a c := match f.cast a, c with
    | some t, .widget (.view v) => f.wrap (rebuild t v)
    | _, _ => a

/-- The enumeration of an enumerated widget field. -/
def enumerationOf (n : Theming.Text.Naming) : Enumeration := Enumeration.ofNames n.typeName n.names

/-- The label a table cell holds, as a styled object. -/
def labelObject (l : Option Label) : Option Styled := l.map fun l => .widget (.label l)

/-- The label inside a styled object, when it is one. -/
def labelOf (c : Styled) : Option Label :=
  match c with
  | .widget (.label l) => some l
  | _ => none

open Facets in
/-- The catalogs of the sample widgets, or the registration problem (there is none). -/
def registryChecked : Except String (Registry Styled) := do
  let contentModes := enumerationOf ContentMode.naming
  let textAlignments := enumerationOf TextAlignment.naming
  let accessoryTypes := enumerationOf AccessoryType.naming
  let separatorStyles := enumerationOf SeparatorStyle.naming
  let r : Registry Styled := {}
  let r ← r.register layer.typeName [
    layer.real "cornerRadius" none fun l v => { l with cornerRadius := v },
    layer.real "borderWidth" none fun l v => { l with borderWidth := v },
    layer.graphicsColor "borderColor" fun l v => { l with borderColor := v },
    layer.size "shadowOffset" fun l v => { l with shadowOffset := v },
    layer.real "shadowOpacity" none fun l v => { l with shadowOpacity := v }]
  let r ← r.register view.typeName [
    view.rect "frame" fun w v => { w with frame := v },
    view.color "backgroundColor" fun w v => { w with backgroundColor := v },
    view.real "alpha" none fun w v => { w with alpha := v },
    view.bool "hidden" fun w v => { w with hidden := v },
    view.bool "clipsToBounds" fun w v => { w with clipsToBounds := v },
    view.int "tag" none fun w v => { w with tag := v },
    view.enum "contentMode" contentModes fun w v => { w with contentMode := v },
    view.object "layer" (fun w => w.layer.map Styled.layer)
      (fun w c => match c with
        | .layer l => { w with layer := some l }
        | _ => w),
    view.view "backgroundView" fun w v => { w with backgroundView := v }]
  let r ← r.register label.typeName [
    label.text "text" fun w v => { w with text := v },
    label.color "textColor" fun w v => { w with textColor := v },
    label.font "font" fun w v => { w with font := v },
    label.color "shadowColor" fun w v => { w with shadowColor := v },
    label.size "shadowOffset" fun w v => { w with shadowOffset := v },
    label.int "numberOfLines" none fun w v => { w with numberOfLines := v },
    label.enum "textAlignment" textAlignments fun w v => { w with textAlignment := v }]
  let r ← r.embed label.typeName view.typeName
    (viewField label (·.view) fun w v => { w with view := v })
  let r ← r.register imageView.typeName [
    imageView.image "image" fun w v => { w with image := v },
    imageView.image "highlightedImage" fun w v => { w with highlightedImage := v }]
  let r ← r.embed imageView.typeName view.typeName
    (viewField imageView (·.view) fun w v => { w with view := v })
  let r ← r.register tableViewCell.typeName [
    tableViewCell.object "textLabel" (fun w => labelObject w.textLabel)
      (fun w c => match labelOf c with
        | some l => { w with textLabel := some l }
        | none => w),
    tableViewCell.object "detailTextLabel" (fun w => labelObject w.detailTextLabel)
      (fun w c => match labelOf c with
        | some l => { w with detailTextLabel := some l }
        | none => w),
    tableViewCell.view "selectedBackgroundView" fun w v => { w with selectedBackgroundView := v },
    tableViewCell.enum "accessoryType" accessoryTypes fun w v => { w with accessoryType := v }]
  let r ← r.embed tableViewCell.typeName view.typeName
    (viewField tableViewCell (·.view) fun w v => { w with view := v })
  let r ← r.register tableView.typeName [
    tableView.enum "separatorStyle" separatorStyles fun w v => { w with separatorStyle := v },
    tableView.color "separatorColor" fun w v => { w with separatorColor := v },
    tableView.real "rowHeight" none fun w v => { w with rowHeight := v }]
  let r ← r.embed tableView.typeName view.typeName
    (viewField tableView (·.view) fun w v => { w with view := v })
  let r ← r.register navigationBar.typeName [
    navigationBar.image "backgroundImage" fun w v => { w with backgroundImage := v },
    navigationBar.color "tintColor" fun w v => { w with tintColor := v },
    navigationBar.bool "translucent" fun w v => { w with translucent := v }]
  r.embed navigationBar.typeName view.typeName
    (viewField navigationBar (·.view) fun w v => { w with view := v })

/-- The catalogs of the sample widgets. -/
def registry : Registry Styled :=
  match registryChecked with
  | .ok r => r
  | .error _ => {}

end Theming.Widget
