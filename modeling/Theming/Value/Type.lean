import Theming.Value.Enumeration
import Theming.Text.Naming

/-!
# Destination types

A destination property has a type: a kind (what sort of value it takes), whether it accepts
`nil`, and for enumerated, integer and real destinations an enumeration of named constants.
A type is written as its kind, the enumeration's name in parentheses when it has one, and `?`
when it accepts `nil`: `real`, `color?`, `enum(ContentMode)`.
-/

set_option autoImplicit false

namespace Theming.Value

/-- The kinds of destinations, in their fixed numbering from zero. -/
inductive TypeKind where
  | text
  | real
  | integer
  | boolean
  | color
  | graphicsColor
  | rect
  | size
  | image
  | font
  | view
  | enum
  | object
  deriving Repr, BEq, DecidableEq, Inhabited

namespace TypeKind

/-- All kinds in their numbering. -/
def all : List TypeKind :=
  [text, real, integer, boolean, color, graphicsColor, rect, size, image, font, view, enum, object]

/-- The name of a kind. -/
def name : TypeKind → String
  | text => "text"
  | real => "real"
  | integer => "integer"
  | boolean => "boolean"
  | color => "color"
  | graphicsColor => "graphicsColor"
  | rect => "rect"
  | size => "size"
  | image => "image"
  | font => "font"
  | view => "view"
  | enum => "enum"
  | object => "object"

/-- The kind with a given name. -/
def ofName? (s : String) : Option TypeKind := all.find? (·.name == s)

/-- The names of the values, under the type name. -/
def naming : Theming.Text.Naming := ⟨"Kind", all.map name⟩

end TypeKind

/-- The type of a destination property. -/
structure ValueType where
  kind : TypeKind
  nullable : Bool := false
  enumeration : Option Enumeration := none
  deriving Repr, BEq, Inhabited

namespace ValueType

/-- The written form of a type. -/
def render (t : ValueType) : String :=
  let named := match t.enumeration with
    | some e => if e.name.isEmpty then "" else "(" ++ e.name ++ ")"
    | none => ""
  t.kind.name ++ named ++ (if t.nullable then "?" else "")

/-- The same type accepting `nil`. -/
def asNullable (t : ValueType) : ValueType := { t with nullable := true }

end ValueType

end Theming.Value
