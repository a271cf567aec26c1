import Theming.Sheet.RawValue
import Theming.Text.Outline

/-!
# Style sheets

A style sheet maps style names to their assignments. Names keep the order of their (last)
definition; the assignments of a style keep the order in which they are applied. A sheet also
remembers the name of its source text and the warnings noticed while reading it.
-/

set_option autoImplicit false

namespace Theming.Sheet

/-- One `path: value;` statement, with the line where it starts. -/
structure Assignment where
  path : Path
  value : RawValue
  line : Nat
  deriving Inhabited

/-- Named styles in definition order, the source name, and the reading warnings. -/
structure StyleSheet where
  source : String := ""
  styles : List (String × List Assignment) := []
  warnings : List String := []
  deriving Inhabited

namespace StyleSheet

/-- The style names in definition order. -/
def names (s : StyleSheet) : List String := s.styles.map Prod.fst

/-- The number of styles. -/
def size (s : StyleSheet) : Nat := s.styles.length

/-- The assignments of a named style. -/
def style? (s : StyleSheet) (name : String) : Option (List Assignment) := s.styles.lookup name

/-- A listing of the named styles (all of them when no name is given): each style name followed
by its assignments, indented, or the name marked as not defined. -/
def dump (s : StyleSheet) (only : List String) : String :=
  let names := if only.isEmpty then s.names else only
  String.join <| names.map fun name =>
    match s.style? name with
    | none => Theming.Text.Outline.line 0 (name ++ " (not defined)")
    | some list =>
      Theming.Text.Outline.line 0 name ++
        String.join (list.map fun a => Theming.Text.Outline.field 1 a.path.render a.value.render)

end StyleSheet

end Theming.Sheet
