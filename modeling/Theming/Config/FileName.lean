import Theming.Text.Printable

/-!
# File names from text

A file name is made from arbitrary text, such as an expanded name template: characters a file
name may not hold (the path separator `/`, the list separator `:` and NUL) are removed, white
space becomes `_`, and leading dots are dropped. Text left empty gives `_bad_file_name_`.
-/

set_option autoImplicit false

namespace Theming.Config

/-- The name given to text that leaves nothing usable. -/
def badFileName : String := "_bad_file_name_"

/-- What a character of the text becomes in a file name: nothing for a separator or NUL, `_` for
white space, itself otherwise. -/
def fileNameChar (c : Char) : Option Char :=
  if c == '/' || c == ':' || c.toNat == 0 then none
  else if Theming.Text.Printable.isSpace c then some '_'
  else some c

/-- A file name made from text. -/
def cleanFileName (s : String) : String :=
  let kept := s.toList.filterMap fileNameChar
  let out := kept.dropWhile (· == '.')
  if out.isEmpty then badFileName else String.ofList out

end Theming.Config
