import Theming.Text.Quoted
import Theming.System.Volume
import Theming.Archive.Tree

/-!
# Resource providers

Styling needs named byte resources (images, fonts). A provider answers a name with the bytes, a
"not found", or some other failure. Providers combine:

* a table of named entries, each holding bytes or a failure text, found by exact name;
* a directory tree of files, found by a cleaned slash path (`a\b`, `./a`, `d/../a` all name
  `a`); a path that leaves the tree or is absolute is not found, and a directory is a failure;
* the provider that finds nothing, and one that always fails;
* a folder of a volume, found the same way, where a folder is also a failure;
* the tree of an archive, found the same way;
* another provider asked for names inside a folder of it;
* a chain, which asks its members in order (skipping absent ones) and gives the first answer that
  is not "not found";
* a cache in front of another provider, which gives the same answers.
-/

set_option autoImplicit false

namespace Theming.Resource

open Theming.Text.Quoted Theming.System

/-- The answer to a request for a named resource. -/
inductive Fetched where
  | found (data : List UInt8)
  | missing (name : String)
  | failed (message : String)
  deriving Repr, BEq, Inhabited

/-- Where resources come from. -/
inductive Provider where
  | table (entries : List (String × Except String (List UInt8)))
  | files (entries : List (String × List UInt8))
  | nothing
  | failing (message : String)
  | directory (volume : Theming.System.Volume) (dir : String)
  | archive (a : Theming.Archive.Archive)
  | within (dir : String) (inner : Provider)
  | chain (members : List (Option Provider))
  | cached (inner : Provider)
  deriving Inhabited


/-- Looks a name up in a directory tree of files. -/
def filesFetch (entries : List (String × List UInt8)) (name : String) : Fetched :=
  let clean := PathName.clean (PathName.slashed name)
  if name.isEmpty || !PathName.isValid clean then .missing name
  else
    match entries.lookup clean with
    | some data => .found data
    | none =>
      let dirPrefix := clean ++ "/"
      if clean == "." || entries.any (·.1.startsWith dirPrefix) then
        .failed ("unable to read resource " ++ quote name ++ ": read " ++ clean ++
          ": invalid argument")
      else .missing name

/-- The clean tree path of a requested name, when it is one. -/
def treePath? (name : String) : Option String :=
  let clean := PathName.clean (PathName.slashed name)
  if name.isEmpty || !PathName.isValid clean then none else some clean

/-- The failure of reading a resource that is there. -/
def unreadable (name message : String) : Fetched :=
  .failed ("unable to read resource " ++ quote name ++ ": " ++ message)

/-- Looks a name up in a folder of a volume. -/
def directoryFetch (v : Volume) (dir name : String) : Fetched :=
  match treePath? name with
  | none => .missing name
  | some clean =>
    if dir.isEmpty then unreadable name ("readfile " ++ clean ++ ": os: DirFS with empty root")
    else
      match v.find (dir ++ "/" ++ clean) with
      | .ok (.file data) => .found data.toList
      | .ok .device => .found []
      | .ok (.folder _) => unreadable name ("read " ++ clean ++ ": is a directory")
      | .error reason =>
        if reason == Volume.noEntry then .missing name
        else unreadable name ("open " ++ clean ++ ": " ++ reason)

/-- Looks a name up in the tree of an archive. -/
def archiveFetch (a : Theming.Archive.Archive) (name : String) : Fetched :=
  match treePath? name with
  | none => .missing name
  | some clean =>
    match a.readName clean with
    | .ok data => .found data.toList
    | .error (.absent _) => .missing name
    | .error (.broken m) => unreadable name m

/-- The answer of a provider to a name. -/
def Provider.fetch : Provider → String → Fetched
  | .table entries, name =>
    match entries.lookup name with
    | some (.ok data) => .found data
    | some (.error text) => .failed text
    | none => .missing name
  | .files entries, name => filesFetch entries name
  | .directory v dir, name => directoryFetch v dir name
  | .archive a, name => archiveFetch a name
  | .within dir inner, name => inner.fetch (PathName.join [dir, name])
  | .nothing, name => .missing name
  | .failing message, _ => .failed message
  | .chain members, name =>
    let rec go : List (Option Provider) → Fetched
      | [] => .missing name
      | none :: rest => go rest
      | some p :: rest =>
        match p.fetch name with
        | .missing _ => go rest
        | answer => answer
    go members
  | .cached inner, name => inner.fetch name

end Theming.Resource
