/-!
# Slash-separated paths

Paths are slash-separated, as on Unix, and handled lexically, without looking at any file
system:

* cleaning drops empty and `.` elements, lets `..` remove the element before it (it stays at the
  start of a relative path and vanishes at the root), keeps a leading slash, and turns an empty
  result into `.`;
* the directory of a path is the clean form of everything up to its last slash (`.` when there
  is none), its base is the last element once trailing slashes are gone, and its extension runs
  from the last dot of the last element;
* joining skips empty parts and cleans the result.

A path names something inside a tree when its clean form is `.`, or is relative and has no
empty, `.` or `..` element.
-/

set_option autoImplicit false

namespace Theming.System.PathName

/-- Splits a slash path into its elements. -/
def elements (p : String) : List String := (p.toList.splitOn '/').map String.ofList

/-- A path with its backslashes read as slashes. -/
def slashed (p : String) : String :=
  String.ofList (p.toList.map fun c => if c = '\\' then '/' else c)

/-- Puts one element on the elements kept so far, the last one first: empty and `.` elements are
dropped, and `..` removes the element before it, stays at the start of a relative path and
vanishes at the root. -/
def cleanStep (rooted : Bool) (acc : List String) (e : String) : List String :=
  if e.isEmpty || e == "." then acc
  else if e == ".." then
    match acc with
    | last :: rest => if last == ".." then e :: acc else rest
    | [] => if rooted then [] else [e]
  else e :: acc

/-- The elements of the clean form of a path. -/
def cleanParts (p : String) : List String :=
  ((elements p).foldl (cleanStep (p.startsWith "/")) []).reverse

/-- The path of some elements, after a slash when rooted; no elements at all make the root or
`.`. -/
def ofParts (rooted : Bool) (parts : List String) : String :=
  let body := "/".intercalate parts
  if rooted then "/" ++ body
  else if body.isEmpty then "." else body

/-- The clean form of a path. -/
def clean (p : String) : String := ofParts (p.startsWith "/") (cleanParts p)

/-- Whether a clean path names something inside a tree. -/
def isValid (p : String) : Bool :=
  p == "." || (!p.startsWith "/" && (elements p).all fun e => !e.isEmpty && e != "." && e != "..")

/-- Whether a path starts at the root. -/
def isAbs (p : String) : Bool := p.startsWith "/"

/-- The non-empty parts joined by slashes and cleaned; nothing at all gives the empty path. -/
def join (parts : List String) : String :=
  let kept := parts.filter (!·.isEmpty)
  if kept.isEmpty then "" else clean ("/".intercalate kept)

/-- Everything up to the last slash, cleaned. -/
def dir (p : String) : String :=
  clean (String.ofList (p.toList.reverse.dropWhile (· != '/')).reverse)

/-- The last element, ignoring trailing slashes: an empty path is `.` and a path of slashes
only is `/`. -/
def base (p : String) : String :=
  if p.isEmpty then "."
  else
    let trimmed := (p.toList.reverse.dropWhile (· == '/')).reverse
    if trimmed.isEmpty then "/"
    else String.ofList (trimmed.reverse.takeWhile (· != '/')).reverse

/-- The extension: from the last dot of the last element, or empty. -/
def ext (p : String) : String :=
  let last := p.toList.reverse.takeWhile (· != '/')
  match last.idxOf? '.' with
  | some i => String.ofList (last.take (i + 1)).reverse
  | none => ""

/-- A path without its extension. -/
def stem (p : String) : String :=
  String.ofList (p.toList.take (p.length - (ext p).length))

/-- The absolute clean form of a path seen from a working directory. -/
def absolute (cwd p : String) : String :=
  if isAbs p then clean p else join [cwd, p]

/-- The proper ancestors of an absolute clean path, outermost first, the root left out:
`/a/b/c` has `/a` and `/a/b`. -/
def ancestors (p : String) : List String :=
  let parts := ((elements p).filter (!·.isEmpty)).dropLast
  (List.range parts.length).map fun i => "/" ++ "/".intercalate (parts.take (i + 1))

/-- Whether `p` lies strictly below the directory `d` (both absolute and clean). -/
def isBelow (d p : String) : Bool :=
  if d == "/" then p != "/" && p.startsWith "/"
  else p.startsWith (d ++ "/")

/-- The path of `p` relative to a directory it lies below. -/
def relativeTo (d p : String) : String :=
  if d == "/" then String.ofList (p.toList.drop 1)
  else String.ofList (p.toList.drop (d.length + 1))

end Theming.System.PathName
