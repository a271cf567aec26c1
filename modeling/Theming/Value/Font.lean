import Theming.Fault
import Theming.Resource.Provider
import Theming.Value.Image
import Theming.Text.Case
import Theming.Text.Printable
import Theming.Number.Read
import Theming.Text.Naming

/-!
# Fonts

A font is a family and a point size. Families are looked up in a font book, which knows the
system families, any extra ones, and a default family; lookups ignore letter case. A family the
book does not know is searched among the resources as `<family>.ttf`, `.otf`, `.woff` or
`.woff2`, whose bytes must look like a font.

A family that cannot be found either falls back to the default family (the font then remembers
the family that was asked for) or is an error, depending on the book's fallback policy.

Fonts are written in theme text as a family followed by a size, `Helvetica 12`; in a string the
size is the last blank-separated field and the family is the other fields joined by one space.
-/

set_option autoImplicit false

namespace Theming.Value

open Theming.Text Theming.Number Theming.Resource

/-- What to do with a family that cannot be found. -/
inductive FallbackPolicy where
  /-- Use the default family. -/
  | default
  /-- Fail. -/
  | fail
  deriving Repr, BEq, DecidableEq, Inhabited

namespace FallbackPolicy

/-- All policies in their numbering. -/
def all : List FallbackPolicy := [default, fail]

/-- The name of a policy. -/
def name : FallbackPolicy → String
  | default => "default"
  | fail => "fail"

/-- The names of the values, under the type name. -/
def naming : Theming.Text.Naming := ⟨"FallbackPolicy", all.map name⟩

end FallbackPolicy

/-- A font: the family used, the size, and whether it replaces the requested family. -/
structure Font where
  family : String
  size : Float
  fallback : Bool := false
  requested : String
  deriving Inhabited

/-- The written form `Family size`, followed by `(instead of Requested)` for a fallback. -/
def Font.render (f : Font) : String :=
  f.family ++ " " ++ plainText f.size ++ (if f.fallback then " (instead of " ++ f.requested ++ ")" else "")

/-- The families every font book knows. -/
def systemFamilies : List String := [
  "AmericanTypewriter", "AmericanTypewriter-Bold",
  "Arial", "ArialMT", "Arial-BoldMT", "Arial-ItalicMT",
  "Avenir-Book", "Avenir-Heavy", "Avenir-Medium",
  "Baskerville", "Baskerville-Bold",
  "Courier", "Courier-Bold", "Courier-BoldOblique", "Courier-Oblique",
  "CourierNewPSMT", "CourierNewPS-BoldMT",
  "Didot", "Futura-Medium", "Georgia", "Georgia-Bold", "GillSans",
  "Helvetica", "Helvetica-Bold", "Helvetica-BoldOblique", "Helvetica-Oblique",
  "HelveticaNeue", "HelveticaNeue-Bold", "HelveticaNeue-Light", "HelveticaNeue-Medium",
  "MarkerFelt-Thin", "Menlo-Regular", "Noteworthy-Light", "Optima-Regular",
  "Palatino-Roman", "Times-Roman", "Times-Bold", "TimesNewRomanPSMT",
  "TrebuchetMS", "Verdana", "Verdana-Bold", "Zapfino"]

/-- The family used when nothing else is configured. -/
def defaultFamily : String := "Helvetica"

/-- The file extensions tried, in order, when a family is searched among the resources. -/
def fontExtensions : List String := [".ttf", ".otf", ".woff", ".woff2"]

/-- A text without white space at either end. -/
def trimSpace (s : String) : String := Printable.trim s

/-- The fields of a text: its longest runs of characters that are not white space. -/
def fields (s : String) : List String :=
  let step (acc : List (List Char)) (c : Char) : List (List Char) :=
    if Printable.isSpace c then (match acc with
      | [] :: _ => acc
      | _ => [] :: acc)
    else (match acc with
      | cur :: rest => (c :: cur) :: rest
      | [] => [[c]])
  ((s.toList.foldl step [[]]).filter (!·.isEmpty)).reverse.map fun cs => String.ofList cs.reverse

/-- The known families, by their lower-case form, the default family and the policy. -/
structure FontBook where
  families : List (String × String)
  default : String
  policy : FallbackPolicy
  deriving Inhabited

namespace FontBook

/-- Registers families: each is trimmed, empty ones are skipped, and a family replaces an earlier
one with the same lower-case form. -/
def add (b : FontBook) (fs : List String) : FontBook :=
  let put (table : List (String × String)) (f : String) : List (String × String) :=
    let f := trimSpace f
    if f.isEmpty then table
    else (Case.lower f, f) :: table.filter (·.1 != Case.lower f)
  { b with families := fs.foldl put b.families }

/-- The book with the system families, the extra families and the default family (the standard
one when the given default is empty). -/
def make (default : String) (policy : FallbackPolicy) (extra : List String) : FontBook :=
  let default := if default.isEmpty then defaultFamily else default
  (({ families := [], default, policy } : FontBook).add systemFamilies |>.add extra).add [default]

/-- The book of a default engine: the standard default family, falling back to it. -/
def standard : FontBook := make "" .default []

/-- Whether an answer for a resource holds a font file. -/
def isFontAnswer : Fetched → Bool
  | .found data => Signature.isFont data
  | _ => false

/-- The family a name stands for, asking for resources through `fetch` (none when there are no
resources): a known family regardless of letter case, or the name itself when a font file of
that name is among the resources. Files are asked for one extension after the other, up to the
first that is a font. -/
def lookupWith {m : Type → Type} [Monad m] (b : FontBook) (family : String)
    (fetch : Option (String → m Fetched)) : m (Option String) :=
  match b.families.lookup (Case.lower family) with
  | some f => pure (some f)
  | none =>
    match fetch with
    | none => pure none
    | some ask => do
      let found ← fontExtensions.anyM fun ext => do return isFontAnswer (← ask (family ++ ext))
      pure (if found then some family else none)

/-- The font of a family and size, after the fallback policy for a family that is not found,
asking for resources through `fetch`. -/
def resolveWith {m : Type → Type} [Monad m] (b : FontBook) (family : String) (size : Float)
    (fetch : Option (String → m Fetched)) : m (Except Fault Font) := do
  match ← b.lookupWith family fetch with
  | some f => pure (.ok { family := f, size, requested := family })
  | none =>
    if b.policy == .fail then
      pure (.error (.context ("font family " ++ Quoted.quote family) (.plain "unknown font family")))
    else pure (.ok { family := b.default, size, fallback := true, requested := family })

/-- The family a name stands for, looking among the resources of a provider. -/
def lookup (b : FontBook) (family : String) (res : Option Provider) : Option String :=
  Id.run (b.lookupWith family (res.map fun p name => pure (p.fetch name)))

/-- The font of a family and size, looking among the resources of a provider. -/
def resolve (b : FontBook) (family : String) (size : Float) (res : Option Provider) :
    Except Fault Font :=
  Id.run (b.resolveWith family size (res.map fun p name => pure (p.fetch name)))

end FontBook

/-- Splits a font written as a string into its family and size. The size must be a positive
number (or not a number at all, which is not compared). -/
def parseFontSpec (s : String) : Except String (String × Float) :=
  let fs := fields s
  let quoted := Quoted.quote s
  match fs.getLast? with
  | none => .error ("font " ++ quoted ++ ": expected \"<family> <size>\"")
  | some last =>
    if fs.length < 2 then .error ("font " ++ quoted ++ ": expected \"<family> <size>\"")
    else
      match readFloat last with
      | .error e => .error ("font " ++ quoted ++ ": bad size: " ++ e.message "ParseFloat" last)
      | .ok size =>
        if size ≤ 0 then .error ("font " ++ quoted ++ ": size must be positive")
        else .ok (" ".intercalate fs.dropLast, size)

end Theming.Value
