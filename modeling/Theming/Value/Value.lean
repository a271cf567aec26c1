import Theming.Value.Color
import Theming.Value.Font

/-!
# Typed values

What a written value becomes once its destination is known: a text, a real number, an integer,
a truth value, an enumeration constant, `nil`, a rectangle, a size, a color, an image, a font,
or a view showing an image.

Each value has a written form: texts are quoted, numbers are written positionally with their
shortest digits, rectangles and sizes in braces, constants as `enum(n)`.
-/

set_option autoImplicit false

namespace Theming.Value

open Theming.Text Theming.Number

/-- A typed value. -/
inductive Value where
  | text (s : String)
  | real (x : Float)
  | int (n : Int)
  | bool (b : Bool)
  | enum (n : Int)
  /-- Clears a property that accepts `nil`. -/
  | null
  | rect (x y w h : Float)
  | size (w h : Float)
  | color (c : Color)
  | image (i : Image)
  | font (f : Font)
  /-- A view showing an image. -/
  | view (i : Image)
  deriving Inhabited

namespace Value

/-- The name of a value's sort. -/
def sortName : Value → String
  | text _ => "text"
  | real _ => "real"
  | int _ => "int"
  | bool _ => "bool"
  | enum _ => "enum"
  | null => "null"
  | rect .. => "rect"
  | size .. => "size"
  | color _ => "color"
  | image _ => "image"
  | font _ => "font"
  | view _ => "view"

/-- The name of a value's representation, as failures to store it name it: `value.Real`,
`*value.Color`. -/
def typeName : Value → String
  | text _ => "value.Text"
  | real _ => "value.Real"
  | int _ => "value.Int"
  | bool _ => "value.Bool"
  | enum _ => "value.Enum"
  | null => "value.Null"
  | rect .. => "value.Rect"
  | size .. => "value.Size"
  | color _ => "*value.Color"
  | image _ => "*value.Image"
  | font _ => "*value.Font"
  | view _ => "*value.ImageView"

/-- Numbers in braces, separated by commas. -/
def braced (xs : List Float) : String := "\x7b" ++ ", ".intercalate (xs.map plainText) ++ "\x7d"

/-- The written form of a value. -/
def render : Value → String
  | text s => Quoted.quote s
  | real x => plainText x
  | int n => toString n
  | bool b => if b then "true" else "false"
  | enum n => "enum(" ++ toString n ++ ")"
  | null => "nil"
  | rect x y w h => braced [x, y, w, h]
  | size w h => braced [w, h]
  | color c => c.render
  | image i => i.render
  | font f => f.render
  | view i => "view(" ++ i.render ++ ")"

end Value

end Theming.Value
