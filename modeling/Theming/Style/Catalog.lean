import Theming.Value.Value
import Theming.Value.Type
import Theming.Text.Natural
import Theming.Text.Quoted

/-!
# Catalogs of styleable properties

Styles reach objects through catalogs. A registry holds one catalog per type of object, found by
the object's type name; a catalog lists the properties of its type by name. A property has a
destination type and either stores a value in the object or, for a nested object such as a
view's layer, leads to that object and puts a changed copy of it back.

The objects a registry styles all live in one type `α`, which tells the name of each object's
type and whether the object is absent (a missing nested object, or no object at all).

A type can take over the properties of a type it embeds: every property of the embedded type's
catalog is also reached through the outer object, unless the outer catalog already has a
property of that name. The embedded type must be registered first.
-/

set_option autoImplicit false

namespace Theming.Style

open Theming.Value Theming.Text

/-- What a registry needs to know of the objects it styles. -/
class Styleable (α : Type) where
  /-- The name of an object's type, as messages show it; catalogs are found by it. -/
  typeName : α → String
  /-- Whether the object is absent. -/
  isNil : α → Bool

/-- A nested object reached from an object: where to find it (nothing when it is missing or the
object is of another type), and how to put a changed copy back. -/
structure Nested (α : Type) where
  get : α → Option α
  put : α → α → α

namespace Nested

/-- The object nested in a nested object. -/
def andThen {α : Type} (outer inner : Nested α) : Nested α where
  get a := (outer.get a).bind inner.get
  put a c := match outer.get a with
    | some e => outer.put a (inner.put e c)
    | none => a

end Nested

/-- A styleable property of a type of object. -/
structure Property (α : Type) where
  name : String
  type : ValueType
  /-- Stores a coerced value in an object, or says why it cannot; absent when the property
  cannot be set. -/
  store : Option (α → Value → Except String α) := none
  /-- The object the property leads to, for object properties. -/
  nested : Option (Nested α) := none

namespace Property

/-- The same property accepting `nil`. -/
def nullable {α : Type} (p : Property α) : Property α := { p with type := p.type.asNullable }

end Property

/-- The properties of one type of object. -/
structure Catalog (α : Type) where
  typeName : String
  properties : List (Property α) := []

namespace Catalog

variable {α : Type}

/-- The property of a name. -/
def property? (c : Catalog α) (name : String) : Option (Property α) :=
  c.properties.find? (·.name == name)

/-- The property names in natural order. -/
def names (c : Catalog α) : List String := Natural.sort (c.properties.map (·.name))

/-- Adds a property, replacing one of the same name. -/
def put (c : Catalog α) (p : Property α) : Catalog α :=
  if c.properties.any (·.name == p.name) then
    { c with properties := c.properties.map fun q => if q.name == p.name then p else q }
  else { c with properties := c.properties ++ [p] }

end Catalog

/-- The catalogs of the styleable types. -/
structure Registry (α : Type) where
  catalogs : List (Catalog α) := []

namespace Registry

variable {α : Type}

/-- The catalog of a type name. -/
def catalogNamed? (r : Registry α) (typeName : String) : Option (Catalog α) :=
  r.catalogs.find? (·.typeName == typeName)

/-- The catalog describing an object. -/
def catalog? [Styleable α] (r : Registry α) (a : α) : Option (Catalog α) :=
  r.catalogNamed? (Styleable.typeName a)

/-- The number of registered types. -/
def size (r : Registry α) : Nat := r.catalogs.length

/-- Replaces the catalog of its type, or adds it. -/
def update (r : Registry α) (c : Catalog α) : Registry α :=
  if r.catalogs.any (·.typeName == c.typeName) then
    { catalogs := r.catalogs.map fun d => if d.typeName == c.typeName then c else d }
  else { catalogs := r.catalogs ++ [c] }

/-- Adds properties to the catalog of a type, creating it when needed; a property replaces an
earlier one of the same name. Every property must have a name. -/
def register (r : Registry α) (typeName : String) (props : List (Property α)) :
    Except String (Registry α) :=
  if props.any (·.name.isEmpty) then
    .error ("style: property without name in catalog of " ++ typeName)
  else
    let c := (r.catalogNamed? typeName).getD { typeName }
    .ok (r.update (props.foldl Catalog.put c))

/-- The error of storing through a property into an object of another type. -/
def mismatch [Styleable α] (name owner : String) (target : α) : String :=
  "property " ++ Quoted.quote name ++ " belongs to " ++ owner ++ ", not " ++ Styleable.typeName target

/-- A property of an embedded object reached through the outer object: stores go into the
embedded object, nested objects are found inside it. -/
def promote [Styleable α] (outer : String) (field : Nested α) (p : Property α) : Property α :=
  { p with
    store := p.store.map fun store a v =>
      match field.get a with
      | some e => (store e v).map (field.put a)
      | none => .error (mismatch p.name outer a)
    nested := p.nested.map field.andThen }

/-- Makes every property of an embedded type reachable on an outer type through a field; the
outer type's own properties win. -/
def embed [Styleable α] (r : Registry α) (outer inner : String) (field : Nested α) :
    Except String (Registry α) :=
  match r.catalogNamed? inner with
  | none => .error ("style: " ++ inner ++ " must be registered before embedding")
  | some c =>
    let o := (r.catalogNamed? outer).getD { typeName := outer }
    let o := c.properties.foldl (fun o p =>
      if o.properties.any (·.name == p.name) then o else o.put (promote outer field p)) o
    .ok (r.update o)

end Registry

end Theming.Style
