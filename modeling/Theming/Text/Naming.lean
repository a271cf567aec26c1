/-!
# Names of enumerated values

An enumerated type numbers its values from zero and gives each a name. A number outside the
numbering is written as the type's name with the number in parentheses, `ContentMode(99)`, and
is not valid. A name is read back only when it is exactly one of the value names.
-/

set_option autoImplicit false

namespace Theming.Text

/-- The type name and the value names, in their numbering. -/
structure Naming where
  typeName : String
  names : List String
  deriving Repr, Inhabited

namespace Naming

/-- Whether a number is one of the values. -/
def isValid (t : Naming) (n : Int) : Bool := 0 ≤ n && n < t.names.length

/-- The name of a number, or `Type(n)` outside the numbering. -/
def nameOf (t : Naming) (n : Int) : String :=
  if 0 ≤ n then
    match t.names[n.toNat]? with
    | some s => s
    | none => t.typeName ++ "(" ++ toString n ++ ")"
  else t.typeName ++ "(" ++ toString n ++ ")"

/-- The number of a name, or the message `name is not a valid Type`. -/
def parse (t : Naming) (s : String) : Except String Nat :=
  match t.names.idxOf? s with
  | some i => .ok i
  | none => .error (s ++ " is not a valid " ++ t.typeName)

end Naming

end Theming.Text
