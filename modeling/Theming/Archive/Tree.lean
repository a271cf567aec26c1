import Theming.Archive.Zip
import Theming.System.PathName

/-!
# An archive as a tree of files

Seen as a tree, an archive's entries are files and folders named by their cleaned paths:
backslashes become slashes, the path is cleaned, a leading slash and leading `../` elements are
dropped. Folders that only appear on the way to an entry exist too.

An entry whose name was seen before is left out, and the one seen first is marked as
duplicated; so is a file whose name is also a folder on the way to another entry.

Opening a name in the tree:

* a name that is not a valid tree path is `invalid argument`;
* a name the tree does not have `file does not exist`;
* a duplicated name cannot be opened;
* a folder opens, but reading it fails with `is a directory`;
* a file is read and checked as the archive says.
-/

set_option autoImplicit false

namespace Theming.Archive

open Theming.System

/-- A name of the tree: the entry behind it (none for folders that are only on the way), whether
it is a folder, and whether it was given more than once. -/
structure Listed where
  name : String
  entry : Option Entry
  folder : Bool
  duplicate : Bool
  deriving Inhabited

/-- The tree name of an entry name. -/
def validName (name : String) : String :=
  let p := PathName.clean (PathName.slashed name)
  let p := if p.startsWith "/" then String.ofList (p.toList.drop 1) else p
  let rec strip : Nat → List Char → List Char
    | 0, cs => cs
    | fuel + 1, cs =>
      match cs with
      | '.' :: '.' :: '/' :: rest => strip fuel rest
      | _ => cs
  String.ofList (strip p.length p.toList)

/-- The folders on the way to a tree name, innermost first. -/
def foldersOf (name : String) : List String :=
  let parts := (PathName.elements name).dropLast
  (List.range parts.length).reverse.map fun i => "/".intercalate (parts.take (i + 1))

/-- The tree of an archive. -/
def listing (a : Archive) : List Listed :=
  let markDup (xs : List Listed) (name : String) : List Listed :=
    xs.map fun l => if l.name == name then { l with duplicate := true } else l
  let step (acc : List Listed × List String) (e : Entry) : List Listed × List String :=
    let (xs, ways) := acc
    let name := validName e.name
    if name.isEmpty then acc
    else if xs.any (·.name == name) then (markDup xs name, ways)
    else
      (xs ++ [{ name, entry := some e, folder := e.name.endsWith "/", duplicate := false }],
        ways ++ (foldersOf name).filter (!ways.contains ·))
  let (xs, ways) := a.entries.foldl step ([], [])
  ways.foldl (fun xs d =>
    match xs.find? (·.name == d) with
    | some l => if l.folder then xs else markDup xs d
    | none => xs ++ [{ name := d, entry := none, folder := true, duplicate := false }]) xs

/-- Why a name cannot be read from a tree. -/
inductive Unreadable where
  /-- The tree has no such name. -/
  | absent (message : String)
  /-- Anything else. -/
  | broken (message : String)
  deriving Inhabited

namespace Unreadable

/-- The message of a failed read. -/
def message : Unreadable → String
  | absent m => m
  | broken m => m

end Unreadable

/-- Reads a name from the tree of an archive. -/
def Archive.readName (a : Archive) (name : String) : Except Unreadable ByteArray :=
  if !PathName.isValid name || name.isEmpty then
    .error (.broken ("open " ++ name ++ ": invalid argument"))
  else if name == "." then .error (.broken "read ./: is a directory")
  else
    match (listing a).find? (·.name == name) with
    | none => .error (.absent ("open " ++ name ++ ": file does not exist"))
    | some l =>
      if l.duplicate then .error (.broken ("open " ++ name ++ ": duplicate entries in zip file"))
      else if l.folder then .error (.broken ("read " ++ l.name ++ ": is a directory"))
      else
        match l.entry with
        | none => .error (.broken ("read " ++ l.name ++ ": is a directory"))
        | some e => (a.content e).mapError Unreadable.broken

end Theming.Archive
