import Theming.Widget.Widget
import Theming.Yaml.Emit
import Theming.Number.Layout

/-!
# Widgets as YAML documents

A widget is written as a mapping of its fields in declaration order, the view's fields first.
Values are written as text: rectangles and sizes in braces, colors, images, fonts and image
views in their written forms, enumerations by the name of their constant, doubles with their
shortest digits (`1e+06` from a million on, `.inf`, `-.inf`, `.nan`), integers and truth values
as they are. Absent optional fields are left out; the labels of a table cell are nested
mappings.
-/

set_option autoImplicit false

namespace Theming.Widget

open Theming.Value Theming.Yaml Theming.Number

/-- A double as a plain scalar. -/
def realNode (x : Float) : Node :=
  let s := match Layout.general.render x with
    | "+Inf" => ".inf"
    | "-Inf" => "-.inf"
    | "NaN" => ".nan"
    | s => s
  .scalar {} s .plain

/-- An integer as a plain scalar. -/
def intNode (n : Int) : Node := .scalar {} (toString n) .plain

/-- A truth value as a plain scalar. -/
def boolNode (b : Bool) : Node := .scalar {} (if b then "true" else "false") .plain

/-- An optional field: present with its value, or left out. -/
def optionalField {β : Type} (key : String) (o : Option β) (f : β → Node) : List (String × Node) :=
  match o with
  | some x => [(key, f x)]
  | none => []

/-- A color as text. -/
def colorNode (c : Color) : Node := stringNode c.render

/-- The layer of a view. -/
def Layer.toYaml (l : Layer) : Node :=
  Node.map ([("cornerRadius", realNode l.cornerRadius), ("borderWidth", realNode l.borderWidth)] ++
    optionalField "borderColor" l.borderColor colorNode ++
    [("shadowOffset", stringNode (Value.size l.shadowOffset.w l.shadowOffset.h).render),
     ("shadowOpacity", realNode l.shadowOpacity)])

/-- The fields of a view. -/
def View.yamlFields (v : View) : List (String × Node) :=
  [("frame", stringNode (Value.rect v.frame.x v.frame.y v.frame.w v.frame.h).render)] ++
    optionalField "backgroundColor" v.backgroundColor colorNode ++
    [("alpha", realNode v.alpha), ("hidden", boolNode v.hidden),
     ("clipsToBounds", boolNode v.clipsToBounds), ("tag", intNode v.tag),
     ("contentMode", stringNode (ContentMode.naming.nameOf v.contentMode))] ++
    optionalField "layer" v.layer Layer.toYaml ++
    optionalField "backgroundView" v.backgroundView fun i => stringNode (Value.view i).render

/-- The fields of a label. -/
def Label.yamlFields (l : Label) : List (String × Node) :=
  l.view.yamlFields ++ [("text", stringNode l.text)] ++
    optionalField "textColor" l.textColor colorNode ++
    optionalField "font" l.font (fun f => stringNode f.render) ++
    optionalField "shadowColor" l.shadowColor colorNode ++
    [("shadowOffset", stringNode (Value.size l.shadowOffset.w l.shadowOffset.h).render),
     ("numberOfLines", intNode l.numberOfLines),
     ("textAlignment", stringNode (TextAlignment.naming.nameOf l.textAlignment))]

/-- An image as text. -/
def imageNode (i : Image) : Node := stringNode i.render

/-- A widget as a YAML mapping. -/
def Widget.toYaml : Widget → Node
  | .view v => Node.map v.yamlFields
  | .label l => Node.map l.yamlFields
  | .imageView i => Node.map (i.view.yamlFields ++ optionalField "image" i.image imageNode ++
      optionalField "highlightedImage" i.highlightedImage imageNode)
  | .tableViewCell c => Node.map (c.view.yamlFields ++
      optionalField "textLabel" c.textLabel (fun l => Node.map l.yamlFields) ++
      optionalField "detailTextLabel" c.detailTextLabel (fun l => Node.map l.yamlFields) ++
      optionalField "selectedBackgroundView" c.selectedBackgroundView
        (fun i => stringNode (Value.view i).render) ++
      [("accessoryType", stringNode (AccessoryType.naming.nameOf c.accessoryType))])
  | .tableView t => Node.map (t.view.yamlFields ++
      [("separatorStyle", stringNode (SeparatorStyle.naming.nameOf t.separatorStyle))] ++
      optionalField "separatorColor" t.separatorColor colorNode ++
      [("rowHeight", realNode t.rowHeight)])
  | .navigationBar n => Node.map (n.view.yamlFields ++ optionalField "backgroundImage" n.backgroundImage imageNode ++
      optionalField "tintColor" n.tintColor colorNode ++ [("translucent", boolNode n.translucent)])

end Theming.Widget
