import Theming.System.Volume
import Theming.Archive.Zip

/-!
# Debug reports

A debug report is a zip archive gathering what helps to understand a run: the settings in
force, the theme files read, the outcomes of styling, rendered images and the logs. Entries are
gathered during the run and the archive is written when the run ends:

* data held in memory, named by the caller; a name given again gets the time of storing
  appended (`name-STAMP`), so nothing is lost;
* files named by path, read when the archive is written (the logs, which grow until the end);
* copies of files or folders taken when stored, so later changes do not show.

The archive starts with a `MANIFEST` listing every entry, then holds the entries in name order.
Empty data and files gone by the end are left out; a stored folder gives one entry for each
file below it.
-/

set_option autoImplicit false

namespace Theming.Program

open Theming.System

/-- What a report entry holds. -/
inductive Stored where
  /-- Data held in memory. -/
  | data (bytes : ByteArray)
  /-- A file read when the archive is written, by absolute path. -/
  | file (path : String)
  /-- A copy of a file, or of the files below a folder with their relative paths. -/
  | copy (single : Option ByteArray) (files : List (String × ByteArray))

/-- A report entry: where it came from, what it holds, and when it was stored. -/
structure ReportEntry where
  source : String := ""
  stored : Stored
  stamp : Nat := 0

/-- A report being gathered, with the file it will be written to. -/
structure Report where
  destination : String
  entries : List (String × ReportEntry) := []

namespace Report

/-- Whether an entry name is taken. -/
def has (r : Report) (name : String) : Bool := r.entries.any (·.1 == name)

/-- Sets an entry, replacing one of the same name. -/
def set (r : Report) (name : String) (e : ReportEntry) : Report :=
  { r with entries := (r.entries.filter (·.1 != name)) ++ [(name, e)] }

/-- A free name for an entry stored at a time. -/
def freeName (r : Report) (name : String) (stamp : Nat) : String :=
  if r.has name then name ++ "-" ++ toString stamp else name

/-- Stores data under a name. -/
def storeData (r : Report) (name : String) (data : ByteArray) (stamp : Nat) : Report :=
  r.set (r.freeName name stamp) { stored := .data data, stamp }

/-- Stores a file to be read when the archive is written. -/
def store (r : Report) (v : Volume) (name path : String) : Report :=
  r.set name { source := path, stored := .file (v.absolute path) }

/-- Stores a copy of a file or folder as it is now. -/
def storeCopy (r : Report) (v : Volume) (name path : String) (stamp : Nat) : Except String Report := do
  let node ← (v.stat path).mapError fun reason => Volume.failure "stat" (v.absolute path) reason
  let name := r.freeName name stamp
  match node with
  | .file data => pure (r.set name { source := path, stored := .copy (some data) [], stamp })
  | .folder _ => pure (r.set name { source := path, stored := .copy none (v.filesBelow path), stamp })
  | .device => throw ("unable to store " ++ path ++ ": not a file or directory")

/-- The entry names in order. -/
def names (r : Report) : List String := (r.entries.map (·.1)).mergeSort fun a b => decide (a ≤ b)

/-- The files an entry puts in the archive. -/
def entryFiles (v : Volume) (name : String) (e : ReportEntry) : List (String × ByteArray) :=
  match e.stored with
  | .data bytes => if bytes.isEmpty then [] else [(name, bytes)]
  | .file path =>
    match v.find path with
    | .ok (.file data) => [(name, data)]
    | .ok .device => []
    | .ok (.folder _) => (v.filesBelow path).map fun (rel, data) => (name ++ "/" ++ rel, data)
    | .error _ => []
  | .copy (some data) _ => [(name, data)]
  | .copy none files => files.map fun (rel, data) => (name ++ "/" ++ rel, data)

/-- The manifest: one line per entry with its time, name, source and content. -/
def manifest (r : Report) (v : Volume) : String :=
  String.join (r.names.filterMap fun name =>
    (r.entries.lookup name).map fun e =>
      let actual := match e.stored with
        | .file path => path
        | _ => if e.source.isEmpty then "" else v.absolute e.source
      toString e.stamp ++ "\t" ++ name ++ "\t" ++ e.source ++ " : " ++ actual ++ "\n")

/-- The members of the report's archive as the volume now is: the manifest, then the files of the
entries in name order. -/
def members (r : Report) (v : Volume) : List (String × ByteArray) :=
  let body := r.names.flatMap fun name =>
    match r.entries.lookup name with
    | some e => entryFiles v name e
    | none => []
  ("MANIFEST", (r.manifest v).toUTF8) :: body

/-- The archive of the report as the volume now is. -/
def archive (r : Report) (v : Volume) : ByteArray :=
  Theming.Archive.write (r.members v)

/-- Writes the archive to the report's file. -/
def close (r : Report) (v : Volume) : Except String Volume :=
  v.save r.destination (r.archive v) false

end Report

end Theming.Program
