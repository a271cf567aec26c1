import Theming.Text.Naming

/-!
# Outcome statuses

Applying an assignment ends in one of four ways: the value was applied, the property path led
nowhere, the value did not fit the property, or it named no constant of the property's
enumeration.
-/

set_option autoImplicit false

namespace Theming.Style

open Theming.Text

/-- How applying one assignment ended. -/
inductive Status where
  | applied
  | unresolvedPath
  | coercionFailed
  | unknownEnumValue
  deriving Repr, BEq, DecidableEq, Inhabited

namespace Status

/-- The name of a status. -/
def name : Status → String
  | applied => "applied"
  | unresolvedPath => "unresolvedPath"
  | coercionFailed => "coercionFailed"
  | unknownEnumValue => "unknownEnumValue"

/-- The names of the statuses. -/
def naming : Naming := ⟨"Status", [applied, unresolvedPath, coercionFailed, unknownEnumValue].map name⟩

end Status

end Theming.Style
