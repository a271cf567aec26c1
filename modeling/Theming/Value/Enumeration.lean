import Theming.Text.Utf8

/-!
# Enumerations

An enumeration is a named table of integer constants that a destination accepts by name. Every
constant is reachable by its own name and, when the enumeration has a name, by that name followed
by the constant's name with its first byte in upper case: `scaleToFill` is also
`ContentModeScaleToFill`. A later constant with the same name replaces an earlier one.

Upper-casing touches the first byte only, so a name that starts with a non-ASCII character gets
a replacement character there, and the rest of that character's bytes read as replacement
characters too.
-/

set_option autoImplicit false

namespace Theming.Value

open Theming.Text

/-- A named table of constants. The table holds every accepted spelling with its value. -/
structure Enumeration where
  name : String
  table : List (String × Int)
  deriving Repr, BEq, Inhabited

namespace Enumeration

/-- The first byte of a name in upper case, followed by the rest of its bytes: ASCII letters are
raised, other ASCII bytes kept, and a non-ASCII first byte becomes a replacement character. -/
def capitalized (s : String) : String :=
  match Utf8.encode s with
  | [] => ""
  | b :: rest =>
    let first : List UInt8 :=
      if 97 ≤ b && b ≤ 122 then [b - 32]
      else if b < 0x80 then [b]
      else [0xEF, 0xBF, 0xBD]
    Utf8.toText (first ++ rest)

/-- Sets a spelling in the table, replacing an earlier entry of the same spelling in place. -/
def put (table : List (String × Int)) (key : String) (v : Int) : List (String × Int) :=
  if table.any (·.1 == key) then table.map fun e => if e.1 == key then (key, v) else e
  else table ++ [(key, v)]

/-- The enumeration of the given constants, numbered from zero in order. -/
def ofNames (name : String) (constants : List String) : Enumeration :=
  let entries := constants.zipIdx
  let add (t : List (String × Int)) (entry : String × Nat) : List (String × Int) :=
    let t := put t entry.1 entry.2
    if name.isEmpty || entry.1.isEmpty then t else put t (name ++ capitalized entry.1) entry.2
  { name, table := entries.foldl add [] }

/-- The value of a spelling. -/
def lookup? (e : Enumeration) (s : String) : Option Int := e.table.lookup s

/-- Whether some spelling has the value. -/
def contains (e : Enumeration) (v : Int) : Bool := e.table.any (·.2 == v)

/-- All accepted spellings, sorted by their bytes. -/
def names (e : Enumeration) : List String :=
  (e.table.map Prod.fst).mergeSort fun a b => !(b < a)

end Enumeration

end Theming.Value
