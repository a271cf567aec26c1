import Theming.Text.Quoted
import Theming.Number.Layout
import Theming.Text.Naming

/-!
# Values as written in theme text

A value of an assignment is kept as written until a style is applied; only then does the
destination decide what it means. A written value has a syntactic kind, a text (string contents,
a name, a `#hex` literal or a font family), numbers (a number, rgb channels, a rectangle, a size
or a font size), cap insets for an image, and a truth value.

`RawValue.render` writes a value back the way it would appear in theme text; numbers are written
positionally with their shortest digits.
-/

set_option autoImplicit false

namespace Theming.Sheet

/-- The syntactic kinds of written values, in their fixed numbering from zero. -/
inductive ValueKind where
  | string
  | number
  | boolean
  | color
  | rect
  | size
  | image
  | ident
  | nil
  | font
  deriving Repr, BEq, DecidableEq, Inhabited

namespace ValueKind

/-- All kinds in their numbering. -/
def all : List ValueKind := [string, number, boolean, color, rect, size, image, ident, nil, font]

/-- The name of a kind. -/
def name : ValueKind → String
  | string => "string"
  | number => "number"
  | boolean => "boolean"
  | color => "color"
  | rect => "rect"
  | size => "size"
  | image => "image"
  | ident => "ident"
  | nil => "nil"
  | font => "font"

/-- The kind with a given number. -/
def ofCode? (n : Int) : Option ValueKind := if 0 ≤ n then all[n.toNat]? else none

/-- The name of the kind with a given number; other numbers are shown as `ValueKind(n)`. -/
def nameOfCode (n : Int) : String :=
  match ofCode? n with
  | some k => k.name
  | none => "ValueKind(" ++ toString n ++ ")"

/-- The kind with a given name. -/
def ofName? (s : String) : Option ValueKind := all.find? (·.name == s)

/-- The names of the values, under the type name. -/
def naming : Theming.Text.Naming := ⟨"ValueKind", all.map name⟩

end ValueKind

/-- A value as written: its kind, text, numbers, cap insets and truth value. -/
structure RawValue where
  kind : ValueKind
  text : String := ""
  numbers : List Float := []
  insets : List Float := []
  bool : Bool := false
  deriving Inhabited

namespace RawValue

/-- The first number of the value, or zero when it has none. -/
def number (v : RawValue) : Float := v.numbers.headD 0

/-- Whether a color was written as a `#hex` literal. -/
def isHex (v : RawValue) : Bool := v.kind == .color && v.text.startsWith "#"

/-- A parenthesized, comma-separated list of numbers. -/
def argsText (xs : List Float) : String :=
  "(" ++ ", ".intercalate (xs.map Theming.Number.plainText) ++ ")"

/-- The value written back as theme text. -/
def render (v : RawValue) : String :=
  match v.kind with
  | .string => Theming.Text.Quoted.quote v.text
  | .number => Theming.Number.plainText v.number
  | .boolean => if v.text.isEmpty then (if v.bool then "TRUE" else "FALSE") else v.text
  | .color => if v.isHex then v.text else "rgb" ++ argsText v.numbers
  | .rect => "CGRect" ++ argsText v.numbers
  | .size => "CGSize" ++ argsText v.numbers
  | .image => Theming.Text.Quoted.quote v.text ++ " capInsets" ++ argsText v.insets
  | .ident => v.text
  | .nil => "nil"
  | .font => v.text ++ " " ++ Theming.Number.plainText v.number

end RawValue

/-- How a value of a kind given only by its number is written back: a kind outside the
numbering is shown as `<ValueKind(n)>`. -/
def renderWithCode (code : Int) (v : RawValue) : String :=
  match ValueKind.ofCode? code with
  | some k => { v with kind := k }.render
  | none => "<" ++ ValueKind.nameOfCode code ++ ">"

/-- A dotted property path, such as `layer.cornerRadius`. -/
abbrev Path := List String

namespace Path

/-- The dotted form of a path. -/
def render (p : Path) : String := ".".intercalate p

/-- The top-level property of a path, or the empty text for an empty path. -/
def head (p : Path) : String := List.headD p ""

end Path

end Theming.Sheet
