/-!
# Indented outlines

Human-readable dumps are outlines: one line per entry, each indented by four spaces per level of
depth, with `label: value` lines for fields.
-/

set_option autoImplicit false

namespace Theming.Text.Outline

/-- The indentation of a depth: four spaces per level. -/
def indent (depth : Nat) : String := String.join (List.replicate depth "    ")

/-- A line of text at a depth. -/
def line (depth : Nat) (text : String) : String := indent depth ++ text ++ "\n"

/-- A `label: value` line at a depth. -/
def field (depth : Nat) (label value : String) : String := line depth (label ++ ": " ++ value)

end Theming.Text.Outline
