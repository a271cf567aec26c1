import Theming.Widget.Kinds
import Theming.Style.Property

/-!
# Sample widgets

A small toolkit of widgets that themes style. Every widget is a view: a frame, a background
color, an opacity, flags, a tag, a content mode, a drawing layer and a background view. Labels
add text attributes, image views an image and a highlighted image, table cells two labels, a
selected background and an accessory, tables their separators and row height, and navigation
bars a background image, a tint and translucency.

New widgets have these defaults: views are 320×480, labels 100×21 with one line and natural
alignment, image views 100×100, table cells 320×44 with two default labels, tables 320×480 with
single-line separators and rows 44 high, navigation bars 320×44 and translucent. Every view is
fully opaque and has a layer with all values zero.

Enumerated fields hold the constant's number.
-/

set_option autoImplicit false

namespace Theming.Widget

open Theming.Value Theming.Style

/-- The drawing layer behind a view. -/
structure Layer where
  cornerRadius : Float := 0
  borderWidth : Float := 0
  borderColor : Option Color := none
  shadowOffset : Extent := {}
  shadowOpacity : Float := 0
  deriving Inhabited

/-- What every widget has. -/
structure View where
  frame : Rect := {}
  backgroundColor : Option Color := none
  alpha : Float := 1
  hidden : Bool := false
  clipsToBounds : Bool := false
  tag : Int := 0
  contentMode : Int := 0
  layer : Option Layer := some {}
  /-- The background view, showing an image. -/
  backgroundView : Option Image := none
  deriving Inhabited

/-- A view of a size, with the other defaults. -/
def View.sized (w h : Float) : View := { frame := { w, h } }

/-- A view showing text. -/
structure Label where
  view : View := View.sized 100 21
  text : String := ""
  textColor : Option Color := none
  font : Option Font := none
  shadowColor : Option Color := none
  shadowOffset : Extent := {}
  numberOfLines : Int := 1
  /-- Natural alignment. -/
  textAlignment : Int := 4
  deriving Inhabited

/-- A view showing an image, replaced by the highlighted image when selected. -/
structure ImageView where
  view : View := View.sized 100 100
  image : Option Image := none
  highlightedImage : Option Image := none
  deriving Inhabited

/-- A row of a table, with a title and a detail label. -/
structure TableViewCell where
  view : View := View.sized 320 44
  textLabel : Option Label := some {}
  detailTextLabel : Option Label := some {}
  selectedBackgroundView : Option Image := none
  accessoryType : Int := 0
  deriving Inhabited

/-- A table of cells separated by lines. -/
structure TableView where
  view : View := View.sized 320 480
  /-- Single-line separators. -/
  separatorStyle : Int := 1
  separatorColor : Option Color := none
  rowHeight : Float := 44
  deriving Inhabited

/-- The bar on top of a navigation stack. -/
structure NavigationBar where
  view : View := View.sized 320 44
  backgroundImage : Option Image := none
  tintColor : Option Color := none
  translucent : Bool := true
  deriving Inhabited

/-- A widget of any kind. -/
inductive Widget where
  | view (v : View)
  | label (l : Label)
  | imageView (v : ImageView)
  | tableViewCell (c : TableViewCell)
  | tableView (t : TableView)
  | navigationBar (n : NavigationBar)
  deriving Inhabited

namespace Widget

/-- A new widget of a kind, with the defaults. -/
def create : WidgetKind → Widget
  | .view => .view (View.sized 320 480)
  | .label => .label {}
  | .imageView => .imageView {}
  | .tableViewCell => .tableViewCell {}
  | .tableView => .tableView {}
  | .navigationBar => .navigationBar {}

/-- A new widget of a kind named by text; an unknown name is refused, listing the kinds. -/
def ofName (kind : String) : Except String Widget :=
  match WidgetKind.naming.parse kind with
  | .ok n =>
    match [WidgetKind.view, .label, .imageView, .tableViewCell, .tableView, .navigationBar][n]? with
    | some k => .ok (create k)
    | none => .error ("unknown widget " ++ Theming.Text.Quoted.quote kind)
  | .error e =>
    .error ("unknown widget " ++ Theming.Text.Quoted.quote kind ++ ", expected one of [" ++
      " ".intercalate WidgetKind.naming.names ++ "]: " ++ e)

/-- The view part of a widget. -/
def base : Widget → View
  | view v => v
  | label l => l.view
  | imageView v => v.view
  | tableViewCell c => c.view
  | tableView t => t.view
  | navigationBar n => n.view

/-- A widget with its view part replaced. -/
def withBase (w : Widget) (v : View) : Widget :=
  match w with
  | view _ => view v
  | label l => label { l with view := v }
  | imageView i => imageView { i with view := v }
  | tableViewCell c => tableViewCell { c with view := v }
  | tableView t => tableView { t with view := v }
  | navigationBar n => navigationBar { n with view := v }

/-- The name of a widget's type, as messages show it. -/
def typeName : Widget → String
  | view _ => "*widget.View"
  | label _ => "*widget.Label"
  | imageView _ => "*widget.ImageView"
  | tableViewCell _ => "*widget.TableViewCell"
  | tableView _ => "*widget.TableView"
  | navigationBar _ => "*widget.NavigationBar"

end Widget

/-- Anything a widget style reaches: a widget, a layer, a missing object of a type (`<nil>`
when not even the type is known), or an object of a type without styleable properties. -/
inductive Styled where
  | widget (w : Widget)
  | layer (l : Layer)
  | absent (typeName : String)
  | foreign (typeName : String)
  deriving Inhabited

instance : Styleable Styled where
  typeName
    | .widget w => w.typeName
    | .layer _ => "*widget.Layer"
    | .absent t => t
    | .foreign t => t
  isNil
    | .absent _ => true
    | _ => false

namespace Styled

/-- The widget, when the object is one. -/
def widget? : Styled → Option Widget
  | widget w => some w
  | _ => none

end Styled

end Theming.Widget
