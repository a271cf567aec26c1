import Theming.Style.Apply
import Theming.Sheet.Parse
import Theming.Text.Slug
import Theming.Text.Encoding

/-!
# Themes

A theme is a parsed style sheet ready to be applied to objects, together with the catalogs of
the objects it styles and the engine that coerces its values.

A theme is named after its file: the last element of the path, without its extension, made into
a slug (`Leather Theme.sct` is `leather-theme`). A path with no usable name gives `theme`.

Loading decodes the text by its byte order mark and parses it under the path's name; a syntax
error makes the load fail with `unable to load theme "path": …`, wrapping the error.

Loading logs as `theme.parser` (`Parsing theme`, a `Theme warning` for each warning, then
`Parsed theme` or `Theme parsing failed`) and then as `theme` (each warning again as a warning
entry, and `Theme loaded`).
-/

set_option autoImplicit false

namespace Theming.Theme

open Theming.Style Theming.Sheet Theming.Value Theming.Text

/-- The theme name of a file path. -/
def themeName (path : String) : String :=
  let base := Theming.System.PathName.base path
  if base == "." || base == "/" then "theme"
  else
    let slug := Slug.make (Theming.System.PathName.stem base)
    if slug.isEmpty then "theme" else slug

/-- A loaded theme. -/
structure Theme (α : Type) where
  path : String
  name : String
  sheet : StyleSheet
  registry : Registry α
  engine : Engine

namespace Theme

variable {α : Type}

/-- The logger of themes. -/
def themeLogger : String := "theme"

/-- The logger of the theme parser. -/
def parserLogger : String := "theme.parser"

/-- Loads theme text held in memory, traced; the path names it in messages. -/
def loadTraced (data : List UInt8) (path : String) (registry : Registry α) (engine : Engine) :
    Traced (Except Fault (Theme α)) := do
  Trace.note (.debug parserLogger "Parsing theme")
  match StyleSheet.parse (Encoding.decodeMarked data) path with
  | .error e =>
    Trace.note (.debug parserLogger "Theme parsing failed")
    pure (.error (.load path (.parse e)))
  | .ok sheet =>
    for _ in sheet.warnings do Trace.note (.debug parserLogger "Theme warning")
    Trace.note (.debug parserLogger "Parsed theme")
    for _ in sheet.warnings do Trace.note (.warn themeLogger "Theme warning")
    Trace.note (.debug themeLogger "Theme loaded")
    pure (.ok { path, name := themeName path, sheet, registry, engine })

/-- Loads theme text held in memory; the path names it in messages. -/
def load (data : List UInt8) (path : String) (registry : Registry α) (engine : Engine) :
    Except Fault (Theme α) :=
  ((loadTraced data path registry engine).run {}).run.1

/-- Whether a style is defined. -/
def hasStyle (t : Theme α) (styleName : String) : Bool := (t.sheet.style? styleName).isSome

variable [Styleable α]

/-- Applies the assignments of a named style to a target, traced; with names, only those whose
top-level property is one of them. -/
def applyTraced (t : Theme α) (target : α) (styleName : String) (only : Option (List String)) :
    Traced (α × Option (List Outcome)) :=
  Theming.Style.applyStyleTraced t.registry t.engine (some t.sheet) target styleName only

/-- Applies every assignment of a named style to a target. An unknown style does nothing and
gives no outcomes. -/
def applyStyle (t : Theme α) (target : α) (styleName : String) : α × Option (List Outcome) :=
  Theming.Style.applyStyle t.registry t.engine (some t.sheet) target styleName none

/-- Applies the assignments of a named style whose top-level property is one of the names;
without names nothing is applied. -/
def applyStyleOnly (t : Theme α) (target : α) (styleName : String) (names : List String) :
    α × Option (List Outcome) :=
  Theming.Style.applyStyle t.registry t.engine (some t.sheet) target styleName (some names)

end Theme

end Theming.Theme
