import Theming.Archive.Tree
import Theming.Resource.Provider
import Theming.Text.Natural
import Theming.Text.Case

/-!
# Theme bundles

A bundle is a zip archive holding theme files (`.sct`, in any letter case) together with the
images and fonts they use. A file is taken for a bundle when its first bytes look like a zip
archive.

Opening a bundle refuses archives with an entry that could leave the bundle: an absolute name,
one starting with a backslash, or one with a `..` element. The themes of a bundle are its
non-folder entries with the theme extension, in natural order. A bundled theme finds its
resources first in its own folder inside the bundle, then at the bundle's root.
-/

set_option autoImplicit false

namespace Theming.Archive

open Theming.System Theming.Resource Theming.Text

/-- The extension of theme files. -/
def themeExtension : String := ".sct"

/-- An opened bundle: where it was found and its archive. -/
structure Bundle where
  path : String
  archive : Archive
  deriving Inhabited

/-- Whether a file whose content starts with these bytes is a bundle. -/
def isBundle (content : ByteArray) : Bool := looksLikeZip (content.extract 0 262)

/-- Whether an entry name stays inside the bundle. -/
def isSafeName (name : String) : Bool :=
  !PathName.isAbs name && !name.startsWith "\\" && !(PathName.elements name).contains ".."

/-- Whether two characters are the same ignoring case, as simple case folding has it. -/
def sameFolded (a b : Char) : Bool :=
  Case.lowerChar a == Case.lowerChar b ||
    (a == 'ſ' && Case.lowerChar b == 's') || (b == 'ſ' && Case.lowerChar a == 's')

/-- Whether an entry name has the theme extension, in any letter case. -/
def hasThemeExtension (name : String) : Bool :=
  let ext := PathName.ext name
  ext.length == themeExtension.length &&
    (ext.toList.zip themeExtension.toList).all fun (a, b) => sameFolded a b

namespace Bundle

/-- Opens the bundle read from a path. -/
def open_ (path : String) (content : ByteArray) : Except String Bundle := do
  let a ← read content
  match a.entries.find? (!isSafeName ·.name) with
  | some e =>
    throw ("bundle " ++ path ++ ", entry " ++ Quoted.quote e.name ++
      ": unsafe path (absolute or contains path traversal)")
  | none => pure ⟨path, a⟩

/-- The non-folder entries whose names start with the given text, in archive order. -/
def walk (b : Bundle) (lead : String) : List Entry :=
  b.archive.entries.filter fun e => !e.isFolder && e.name.startsWith lead

/-- The theme files of the bundle in natural order. -/
def themes (b : Bundle) : List String :=
  Natural.sort (((b.walk "").map (·.name)).filter hasThemeExtension)

/-- The content of a named entry. -/
def content (b : Bundle) (name : String) : Except String ByteArray :=
  (b.archive.readName name).mapError fun e => "bundle " ++ b.path ++ ": " ++ e.message

/-- Where a bundled theme finds its resources: its own folder inside the bundle, then the
bundle's root. -/
def resources (b : Bundle) (theme : String) : Provider :=
  let dir := PathName.dir theme
  if dir == "." then .archive b.archive
  else .chain [some (.within dir (.archive b.archive)), some (.archive b.archive)]

end Bundle

end Theming.Archive
