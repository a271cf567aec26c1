import Theming.Text.Naming

/-!
# Output formats

Listings are printed as plain text or as YAML.
-/

set_option autoImplicit false

namespace Theming.Config

open Theming.Text

/-- The formats of printed listings. -/
inductive OutputFormat where
  | text
  | yaml
  deriving Repr, BEq, DecidableEq, Inhabited

namespace OutputFormat

/-- The name of a format. -/
def name : OutputFormat → String
  | text => "text"
  | yaml => "yaml"

/-- The names of the formats. -/
def naming : Naming := ⟨"OutputFormat", ["text", "yaml"]⟩

end OutputFormat

end Theming.Config
