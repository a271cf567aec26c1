import Theming.Program.Report
import Theming.Config.Settings
import Theming.Value.Coerce

/-!
# Runs

A run of the program sees a world: the files, the environment variables and a clock; it
leaves behind what it wrote to its output, the lines its console log printed on the standard
and the error stream, and the changed files.

Along the run, a session holds the settings once loaded, the debug report once one is asked
for, the logs once they are set up, and what the resource cache remembers. Until the logs are
set up nothing is logged.

The console log shows entries from its lowest level up to warnings on the standard stream and
errors on the error stream; a file log appends every entry from its lowest level up, one line
each, to its file.
-/

set_option autoImplicit false

namespace Theming.Program

open Theming.System Theming.Log Theming.Value Theming.Resource

/-- The name the program's logs are written under. -/
def appName : String := "sct"

/-- Where log entries go. -/
structure LogSinks where
  /-- The lowest level the console shows; none for a silent console. -/
  console : Option Level := none
  /-- The file log: its path and lowest level. -/
  file : Option (String × Level) := none
  deriving Inhabited

/-- What a run sees and leaves. -/
structure World where
  volume : Volume
  environment : List (String × String) := []
  /-- Time in nanoseconds; it moves on each time it is read. -/
  clock : Nat := 1700000000000000000
  output : String := ""
  consoleOut : Array Entry := #[]
  consoleErr : Array Entry := #[]
  deriving Inhabited

/-- The state of a run. -/
structure Session where
  world : World
  settings : Option Config.Settings := none
  report : Option Report := none
  logs : Option LogSinks := none
  memo : List (String × Fetched) := []
  /-- Whether the run's failure went to the log already. -/
  errLogged : Bool := false
  deriving Inhabited

/-- A step of a run. -/
abbrev Run := StateM Session

namespace Run

/-- Writes to the program's output. -/
def say (text : String) : Run Unit :=
  modify fun s => { s with world.output := s.world.output ++ text }

/-- The files as they are now. -/
def volume : Run Volume := do pure (← get).world.volume

/-- Replaces the files. -/
def setVolume (v : Volume) : Run Unit := modify fun s => { s with world.volume := v }

/-- An environment variable. -/
def lookupVariable (name : String) : Run (Option String) := do
  pure ((← get).world.environment.lookup name)

/-- The time now, moving the clock on. -/
def now : Run Nat := do
  let s ← get
  set { s with world.clock := s.world.clock + 1000 }
  pure s.world.clock

/-- Sends a log entry to the sinks that take it. -/
def log (e : Entry) : Run Unit := do
  let s ← get
  match s.logs with
  | none => pure ()
  | some sinks =>
    match sinks.console with
    | some lowest =>
      if e.level == .error then modify fun s => { s with world.consoleErr := s.world.consoleErr.push e }
      else if e.level.atLeast lowest then
        modify fun s => { s with world.consoleOut := s.world.consoleOut.push e }
    | none => pure ()
    match sinks.file with
    | some (path, lowest) =>
      if e.level.atLeast lowest then
        match (← volume).save path (e.line appName ++ "\n").toUTF8 true with
        | .ok v => setVolume v
        | .error _ => pure ()
    | none => pure ()

/-- Whether logs are set up. -/
def logging : Run Bool := do pure (← get).logs.isSome

/-- Runs a traced computation with the resource cache of the session, logging its entries. -/
def traced {α : Type} (x : Traced α) : Run α := do
  let (a, t) := x.run { memo := (← get).memo }
  modify fun s => { s with memo := t.memo }
  for e in t.entries do log e
  pure a

/-- Stores data in the debug report, when there is one. -/
def storeData (name : String) (data : ByteArray) : Run Unit := do
  match (← get).report with
  | some r =>
    let stamp ← now
    modify fun s => { s with report := some (r.storeData name data stamp) }
  | none => pure ()

/-- Stores a file in the debug report by path, when there is a report. -/
def storeFile (name path : String) : Run Unit := do
  match (← get).report with
  | some r =>
    let v ← volume
    modify fun s => { s with report := some (r.store v name path) }
  | none => pure ()

/-- Stores a copy of a file or folder in the debug report, when there is one. -/
def storeCopy (name path : String) : Run (Except String Unit) := do
  match (← get).report with
  | some r =>
    let stamp ← now
    match r.storeCopy (← volume) name path stamp with
    | .ok r => do modify fun s => { s with report := some r }; pure (.ok ())
    | .error e => pure (.error e)
  | none => pure (.ok ())

end Run

end Theming.Program
