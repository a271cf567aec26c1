import Theming.System.PathName

/-!
# A volume of files

The program reads and writes files; this module is the file system it sees. A volume maps
absolute clean paths to nodes: files holding bytes, folders (writable or not) and devices, which
read as empty and swallow what is written. The root is a folder that is always there. Relative
paths are taken from the working directory.

Failures read the way the system reports them: the operation, the path as the caller gave it and
the reason, as in `open a/b.txt: no such file or directory`:

* a missing node or a missing folder on the way is `no such file or directory`;
* a file on the way is `not a directory`;
* reading a folder opens it but fails to read: `read p: is a directory`;
* writing a folder is `is a directory`, creating in a folder that is not writable is
  `permission denied`.

New temporary files get names from a counter, made from a pattern whose last `*` is replaced.
-/

set_option autoImplicit false

namespace Theming.System

/-- What a path names. -/
inductive Node where
  | file (data : ByteArray)
  | folder (writable : Bool)
  | device
  deriving Inhabited

namespace Node

/-- Whether a node is a folder. -/
def isFolder : Node → Bool
  | folder _ => true
  | _ => false

/-- Whether a node is a regular file. -/
def isFile : Node → Bool
  | file _ => true
  | _ => false

end Node

/-- The files of a machine as the program sees them. -/
structure Volume where
  /-- Every node but the root, by absolute clean path. -/
  nodes : List (String × Node) := []
  /-- The working directory, absolute and clean. -/
  cwd : String := "/"
  /-- The folder of temporary files. -/
  temp : String := "/tmp"
  /-- The number of temporary names handed out so far. -/
  serial : Nat := 0
  deriving Inhabited

namespace Volume

/-- The reason text of a missing node. -/
def noEntry : String := "no such file or directory"
/-- The reason text of a file found where a folder is needed. -/
def notFolder : String := "not a directory"
/-- The reason text of a folder found where a file is needed. -/
def isFolderText : String := "is a directory"
/-- The reason text of writing where it is not allowed. -/
def denied : String := "permission denied"

/-- The failure text of an operation on a path. -/
def failure (op path reason : String) : String := op ++ " " ++ path ++ ": " ++ reason

/-- The absolute clean form of a path. -/
def absolute (v : Volume) (p : String) : String := PathName.absolute v.cwd p

/-- The node at an absolute clean path. -/
def node? (v : Volume) (abs : String) : Option Node :=
  if abs == "/" then some (.folder false) else v.nodes.lookup abs

/-- Finds the node a path names, or the reason it cannot be reached: every folder on the way
must be there. A trailing slash asks for a folder. -/
def find (v : Volume) (p : String) : Except String Node :=
  if p.isEmpty then .error noEntry
  else
    let abs := v.absolute p
    let blocked := (PathName.ancestors abs).findSome? fun a =>
      match v.node? a with
      | none => some noEntry
      | some n => if n.isFolder then none else some notFolder
    match blocked with
    | some reason => .error reason
    | none =>
      match v.node? abs with
      | none => .error noEntry
      | some n => if p.endsWith "/" && !n.isFolder then .error notFolder else .ok n

/-- Whether a path names a folder. -/
def isFolder (v : Volume) (p : String) : Bool :=
  match v.find p with
  | .ok n => n.isFolder
  | .error _ => false

/-- Whether a path names anything. -/
def exists? (v : Volume) (p : String) : Bool := (v.find p).toBool

/-- Describes the node at a path, failing the way `stat` does. -/
def stat (v : Volume) (p : String) : Except String Node :=
  (v.find p).mapError (failure "stat" p)

/-- The whole content of a file. -/
def load (v : Volume) (p : String) : Except String ByteArray :=
  match v.find p with
  | .error reason => .error (failure "open" p reason)
  | .ok (.folder _) => .error (failure "read" p isFolderText)
  | .ok .device => .ok ByteArray.empty
  | .ok (.file data) => .ok data

/-- Puts a node at an absolute clean path, replacing what was there. -/
def put (v : Volume) (abs : String) (n : Node) : Volume :=
  { v with nodes := (v.nodes.filter (·.1 != abs)) ++ [(abs, n)] }

/-- Removes the node at an absolute clean path and everything below it. -/
def erase (v : Volume) (abs : String) : Volume :=
  { v with nodes := v.nodes.filter fun (q, _) => q != abs && !PathName.isBelow abs q }

/-- Why a file cannot be created at a path: its folder must be there and writable. -/
def blockedCreate (v : Volume) (p : String) : Option String :=
  let abs := v.absolute p
  match v.find (PathName.dir abs) with
  | .error reason => some reason
  | .ok (.folder true) => none
  | .ok (.folder false) => some denied
  | .ok _ => some notFolder

/-- Opens a file for writing, creating it when missing: with `append` the bytes go after the
old content, otherwise they replace it. -/
def save (v : Volume) (p : String) (data : ByteArray) (append : Bool) :
    Except String Volume :=
  let abs := v.absolute p
  match v.find p with
  | .ok (.folder _) => .error (failure "open" p isFolderText)
  | .ok .device => .ok v
  | .ok (.file old) => .ok (v.put abs (.file (if append then old ++ data else data)))
  | .error reason =>
    if reason == notFolder then .error (failure "open" p reason)
    else
      match v.blockedCreate p with
      | some why => .error (failure "open" p why)
      | none => .ok (v.put abs (.file data))

/-- Creates a folder. -/
def makeFolder (v : Volume) (p : String) : Except String Volume :=
  match v.find p with
  | .ok _ => .error (failure "mkdir" p "file exists")
  | .error _ =>
    match v.blockedCreate p with
    | some why => .error (failure "mkdir" p why)
    | none => .ok (v.put (v.absolute p) (.folder true))

/-- The parent part of a path as written: everything before the last element, trailing slashes
and the element itself removed. -/
def parentText (p : String) : String :=
  let cs := (p.toList.reverse.dropWhile (· == '/')).dropWhile (· != '/')
  String.ofList (cs.dropWhile (· == '/')).reverse

/-- Creates a folder and the folders on the way to it; a folder already there is fine, anything
else in the way fails. -/
def makeFolders (v : Volume) (p : String) : Except String Volume :=
  let rec go (fuel : Nat) (v : Volume) (p : String) : Except String Volume :=
    match fuel with
    | 0 => .ok v
    | fuel + 1 =>
      match v.find p with
      | .ok n => if n.isFolder then .ok v else .error (failure "mkdir" p notFolder)
      | .error _ => do
        let parent := parentText p
        let v ← if parent.length > 0 then go fuel v parent else pure v
        match v.makeFolder p with
        | .ok v' => .ok v'
        | .error e => if v.isFolder p then .ok v else .error e
  go (p.length + 1) v p

/-- Removes a file or an empty folder. -/
def remove (v : Volume) (p : String) : Except String Volume :=
  match v.find p with
  | .error reason => .error (failure "remove" p reason)
  | .ok _ =>
    let abs := v.absolute p
    if v.nodes.any (PathName.isBelow abs ·.1) then .error (failure "remove" p "directory not empty")
    else .ok (v.erase abs)

/-- Creates a new empty file in the temporary folder with a name made from a pattern. -/
def createTemp (v : Volume) (pattern : String) : Except String (Volume × String) :=
  let parts := pattern.splitOn "*"
  let name :=
    if parts.length ≤ 1 then pattern ++ toString (v.serial + 1)
    else "*".intercalate parts.dropLast ++ toString (v.serial + 1) ++ parts.getLastD ""
  let path := PathName.join [v.temp, name]
  let v := { v with serial := v.serial + 1 }
  match v.blockedCreate path with
  | some why => .error (failure "open" path why)
  | none => .ok (v.put path (.file ByteArray.empty), path)

/-- Creates a new folder in the temporary folder with a name made from a prefix. -/
def createTempFolder (v : Volume) (pattern : String) : Except String (Volume × String) :=
  let path := PathName.join [v.temp, pattern ++ toString (v.serial + 1)]
  let v := { v with serial := v.serial + 1 }
  match v.blockedCreate path with
  | some why => .error (failure "mkdir" path why)
  | none => .ok (v.put path (.folder true), path)

/-- Whether `a` comes before `b` when both are walked folder by folder in name order. -/
def walkBefore (a b : String) : Bool :=
  let rec go : List String → List String → Bool
    | [], [] => false
    | [], _ => true
    | _, [] => false
    | x :: xs, y :: ys => if x == y then go xs ys else decide (x < y)
  go (PathName.elements a) (PathName.elements b)

/-- The regular files below a folder with their paths relative to it, in walking order. -/
def filesBelow (v : Volume) (dir : String) : List (String × ByteArray) :=
  let abs := v.absolute dir
  let found := v.nodes.filterMap fun (q, n) =>
    match n with
    | .file data => if PathName.isBelow abs q then some (PathName.relativeTo abs q, data) else none
    | _ => none
  found.mergeSort fun a b => walkBefore a.1 b.1

/-- A machine's usual folders around a working folder: a writable folder for temporary files, a
device that swallows what is written (`/dev/null`) and a folder of system information that
cannot be written to (`/proc`). -/
def machine (cwd : String) : Volume :=
  let base : List (String × Node) :=
    [("/tmp", .folder true), ("/dev", .folder false), ("/dev/null", .device), ("/proc", .folder false)]
  let own := (PathName.ancestors cwd ++ [cwd]).filter fun p => !base.any (·.1 == p)
  { cwd, nodes := base ++ own.map fun p => (p, .folder true) }

/-- Writes a file, creating the folders on the way. -/
def place (v : Volume) (p : String) (data : ByteArray) : Volume :=
  let abs := v.absolute p
  let v := match v.makeFolders (PathName.dir abs) with
    | .ok v => v
    | .error _ => v
  v.put abs (.file data)

/-- The files below a folder that are new or changed since an earlier state of the volume, with
their paths relative to the folder. -/
def changedBelow (before after : Volume) (dir : String) : List (String × ByteArray) :=
  (after.filesBelow dir).filter fun (rel, data) =>
    match before.find (PathName.join [after.absolute dir, rel]) with
    | .ok (.file old) => old.data != data.data
    | _ => true

end Volume

end Theming.System
