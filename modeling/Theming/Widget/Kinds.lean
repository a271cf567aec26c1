import Theming.Text.Naming

/-!
# Widget enumerations

The enumerated properties of the sample widgets: how a view lays out its content, how a label
aligns its text, the accessory of a table cell, the separators of a table, and the kinds of
widget there are.
-/

set_option autoImplicit false

namespace Theming.Widget

open Theming.Text

/-- How a view places its content. -/
inductive ContentMode where
  | scaleToFill
  | scaleAspectFit
  | scaleAspectFill
  | redraw
  | center
  | top
  | bottom
  | left
  | right
  | topLeft
  | topRight
  | bottomLeft
  | bottomRight
  deriving Repr, BEq, DecidableEq, Inhabited

/-- The names of the content modes. -/
def ContentMode.naming : Naming :=
  ⟨"ContentMode", ["scaleToFill", "scaleAspectFit", "scaleAspectFill", "redraw", "center", "top",
    "bottom", "left", "right", "topLeft", "topRight", "bottomLeft", "bottomRight"]⟩

/-- How a label aligns its text. -/
inductive TextAlignment where
  | left
  | center
  | right
  | justified
  | natural
  deriving Repr, BEq, DecidableEq, Inhabited

/-- The names of the text alignments. -/
def TextAlignment.naming : Naming :=
  ⟨"TextAlignment", ["left", "center", "right", "justified", "natural"]⟩

/-- The accessory shown at the end of a table cell. -/
inductive AccessoryType where
  | none
  | disclosureIndicator
  | detailDisclosureButton
  | checkmark
  deriving Repr, BEq, DecidableEq, Inhabited

/-- The names of the accessory types. -/
def AccessoryType.naming : Naming :=
  ⟨"AccessoryType", ["none", "disclosureIndicator", "detailDisclosureButton", "checkmark"]⟩

/-- How a table separates its rows. -/
inductive SeparatorStyle where
  | none
  | singleLine
  | singleLineEtched
  deriving Repr, BEq, DecidableEq, Inhabited

/-- The names of the separator styles. -/
def SeparatorStyle.naming : Naming :=
  ⟨"SeparatorStyle", ["none", "singleLine", "singleLineEtched"]⟩

/-- The kinds of widget. -/
inductive WidgetKind where
  | view
  | label
  | imageView
  | tableViewCell
  | tableView
  | navigationBar
  deriving Repr, BEq, DecidableEq, Inhabited

/-- The names of the widget kinds. -/
def WidgetKind.naming : Naming :=
  ⟨"Kind", ["view", "label", "imageView", "tableViewCell", "tableView", "navigationBar"]⟩

end Theming.Widget
