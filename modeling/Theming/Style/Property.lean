import Theming.Style.Catalog

/-!
# Property constructors

Each constructor makes a property of objects of one type `τ` among the objects `α` a registry
styles. A `Facet` says how to recognise such an object and how to put a changed one back.

Storing a value first checks the object's type: an object of another type is refused with
`property "name" belongs to T, not U`. `nil` stores the field's zero value. Any other value must
be of the representation the property expects (a real for a real property, a color for a color
property, and so on); another one is refused with `property "name": unexpected T value`.

Colors, images, fonts and views accept `nil`; the other kinds accept it once made nullable.
-/

set_option autoImplicit false

namespace Theming.Style

open Theming.Value Theming.Text

/-- The objects of one type among the objects `α`: the type's name, how to recognise one, and
how to put a changed one back. -/
structure Facet (α τ : Type) where
  typeName : String
  cast : α → Option τ
  wrap : τ → α

/-- A rectangle: origin and extent. -/
structure Rect where
  x : Float := 0
  y : Float := 0
  w : Float := 0
  h : Float := 0
  deriving Repr, Inhabited

/-- A width and a height. -/
structure Extent where
  w : Float := 0
  h : Float := 0
  deriving Repr, Inhabited

namespace Facet

variable {α τ : Type} [Styleable α]

/-- A property storing a field of representation `ν`: `zero` is stored for `nil`, `read` picks
the field's value out of a coerced value. -/
def field {ν : Type} (f : Facet α τ) (name : String) (type : ValueType) (zero : ν)
    (read : Value → Option ν) (write : τ → ν → τ) : Property α where
  name
  type
  store := some fun a v =>
    match f.cast a with
    | none => .error (Registry.mismatch name f.typeName a)
    | some t =>
      match v with
      | .null => .ok (f.wrap (write t zero))
      | _ =>
        match read v with
        | some x => .ok (f.wrap (write t x))
        | none => .error ("property " ++ Quoted.quote name ++ ": unexpected " ++ v.typeName ++ " value")

/-- A text property. -/
def text (f : Facet α τ) (name : String) (write : τ → String → τ) : Property α :=
  f.field name { kind := .text } "" (fun | .text s => some s | _ => none) write

/-- A real property; an enumeration names constants accepted in place of numbers. -/
def real (f : Facet α τ) (name : String) (enumeration : Option Enumeration)
    (write : τ → Float → τ) : Property α :=
  f.field name { kind := .real, enumeration } 0 (fun | .real x => some x | _ => none) write

/-- An integer property; an enumeration names constants accepted in place of numbers. -/
def int (f : Facet α τ) (name : String) (enumeration : Option Enumeration)
    (write : τ → Int → τ) : Property α :=
  f.field name { kind := .integer, enumeration } 0 (fun | .int n => some n | _ => none) write

/-- A truth-value property. -/
def bool (f : Facet α τ) (name : String) (write : τ → Bool → τ) : Property α :=
  f.field name { kind := .boolean } false (fun | .bool b => some b | _ => none) write

/-- A property holding a constant of an enumeration. -/
def enum (f : Facet α τ) (name : String) (e : Enumeration) (write : τ → Int → τ) : Property α :=
  f.field name { kind := .enum, enumeration := some e } 0 (fun | .enum n => some n | _ => none) write

/-- A color property, accepting `nil`. -/
def color (f : Facet α τ) (name : String) (write : τ → Option Color → τ) : Property α :=
  f.field name { kind := .color, nullable := true } none
    (fun | .color c => some (some c) | _ => none) write

/-- A low-level color property, accepting the same forms as a color and `nil`. -/
def graphicsColor (f : Facet α τ) (name : String) (write : τ → Option Color → τ) : Property α :=
  f.field name { kind := .graphicsColor, nullable := true } none
    (fun | .color c => some (some c) | _ => none) write

/-- A rectangle property. -/
def rect (f : Facet α τ) (name : String) (write : τ → Rect → τ) : Property α :=
  f.field name { kind := .rect } {} (fun | .rect x y w h => some ⟨x, y, w, h⟩ | _ => none) write

/-- A size property. -/
def size (f : Facet α τ) (name : String) (write : τ → Extent → τ) : Property α :=
  f.field name { kind := .size } {} (fun | .size w h => some ⟨w, h⟩ | _ => none) write

/-- An image property, accepting `nil`. -/
def image (f : Facet α τ) (name : String) (write : τ → Option Image → τ) : Property α :=
  f.field name { kind := .image, nullable := true } none
    (fun | .image i => some (some i) | _ => none) write

/-- A font property, accepting `nil`. -/
def font (f : Facet α τ) (name : String) (write : τ → Option Font → τ) : Property α :=
  f.field name { kind := .font, nullable := true } none
    (fun | .font x => some (some x) | _ => none) write

/-- A view property, accepting `nil`; the view shows an image. -/
def view (f : Facet α τ) (name : String) (write : τ → Option Image → τ) : Property α :=
  f.field name { kind := .view, nullable := true } none
    (fun | .view i => some (some i) | _ => none) write

/-- A nested object reached by path, such as `layer` in `layer.cornerRadius`. Paths through a
missing object, or through an object of another type, lead nowhere. -/
def object (f : Facet α τ) (name : String) (get : τ → Option α) (put : τ → α → τ) :
    Property α where
  name
  type := { kind := .object }
  nested := some {
    get := fun a => (f.cast a).bind get
    put := fun a c => match f.cast a with
      | some t => f.wrap (put t c)
      | none => a }

end Facet

end Theming.Style
