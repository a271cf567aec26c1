import Theming.Program.Commands

/-!
# The program

`sct` checks, inspects and applies themes. Its global flags load settings from a file
(`--config`), point at a resource folder (`--resources`, overriding the settings) and ask for a
debug run (`--debug`): everything logged to the log file and a report archive made. Besides the
theme commands it has `dumpconfig`, which writes the settings in force, or the default ones, to
the output or to a file.

A run goes through the command line first: flag problems end it at once, unreported, and help
and the version are printed without anything else happening. Otherwise, when there are
arguments, the run is set up:

1. settings are loaded, then the resource folder of the command line is checked and taken;
2. with `--debug`, the report file is created (in the temporary folder when its place cannot
   be written) and the settings are stored in it;
3. the logs are set up. The console log takes `normal` (info and up) or `debug` (everything),
   errors going to the error stream. The file log, at `debug` and overwriting for a debug run,
   writes to its destination, or to a temporary file when that cannot be opened (which is
   logged); a panic log is opened next to it and stored in the report with the log.

Then the command runs; with no command the program prints its help, or logs that the command is
unknown. A failure of setting up or of the command is logged (`Program ended with error`),
which the run remembers. The run ends by closing the report and removing an empty panic log.
-/

set_option autoImplicit false

namespace Theming.Program

open Theming.System Theming.Cli Theming.Log
open Theming.Config (Settings)

/-- The version of the program. -/
def buildVersion : String := "dev"

/-- The revision the program was built from. -/
def buildRevision : String := "unknown"

/-- The text after the help of `dumpconfig`. -/
def dumpHelpSuffix : String :=
  "\n\nDESTINATION:\n    file name to write configuration to, if absent - STDOUT\n\n" ++
  "Produces file with actual \"active\" configuration values which is composition of\n" ++
  "default values, values from configuration file and command line overrides\n" ++
  "(--resources). To see configuration embedded into the program use --default.\n"

/-- The `dumpconfig` command. -/
def dumpCommand : Command :=
  { name := "dumpconfig", usage := "Dumps either default or actual configuration (YAML)",
    argsUsage := "DESTINATION", helpSuffix := dumpHelpSuffix,
    flags := [{ name := "default", usage := "output default embedded configuration", kind := .switch }] }

/-- The program's command line, with the name of the runtime it runs on. -/
def programApp (runtime : String) : App :=
  { name := appName, usage := "checks and applies declarative style sheets (themes)",
    version := buildVersion ++ " (" ++ runtime ++ ") : " ++ buildRevision, offersHelp := false,
    flags := [
      { name := "config", aliases := ["c"], usage := "load configuration from \x60FILE\x60 (YAML)" },
      { name := "resources", aliases := ["r"],
        usage := "search \x60DIR\x60 for theme resources, overrides configuration" },
      { name := "debug", aliases := ["d"], kind := .switch,
        usage := "log everything and produce report archive to help troubleshooting" }],
    commands := themeCommands ++ [dumpCommand] }

/-- The variable naming the default font family. -/
def fontVariable : String := "SCT_DEFAULT_FONT"

/-- Opens a log file for writing, creating it; `append` keeps what it holds. -/
def openLogFile (v : Volume) (path : String) (append : Bool) : Except String Volume :=
  v.save path ByteArray.empty append

/-- Opens a log file at its place, or a new temporary file when that fails; gives the path
opened and whether it is the temporary one. -/
def openLogOrTemp (path pattern : String) (append : Bool) : Run (Except String (String × Bool)) := do
  let v ← Run.volume
  match openLogFile v path append with
  | .ok v => Run.setVolume v; pure (.ok (path, false))
  | .error e =>
    match v.createTemp pattern with
    | .ok (v, temp) => Run.setVolume v; pure (.ok (temp, true))
    | .error _ => pure (.error e)

/-- The level a log setting names. -/
def levelOf (level : String) (normal : Level) : Option Level :=
  match level with
  | "debug" => some .debug
  | "normal" => some normal
  | _ => none

/-- The warning that the log file went to a temporary file, written before the logger has the
program's name. -/
def redirectedEntry : Entry :=
  { level := .warn, logger := "", message := "Log file was redirected to new location", unnamed := true }

/-- Sets up the logs. -/
def prepareLogs (s : Settings) (debugRun : Bool) : Run (Except String Unit) := do
  let console := levelOf s.logging.console.level .info
  let file := s.logging.file
  let (level, mode) := if debugRun then ("debug", "overwrite") else (file.level, file.mode)
  match levelOf level .info with
  | none =>
    modify fun st => { st with logs := some { console } }
    pure (.ok ())
  | some fileLevel =>
    let append := mode == "append"
    let panicPath := PathName.join [PathName.dir file.destination, appName ++ "-panic.log"]
    match ← openLogOrTemp panicPath (appName ++ "-panic.*.log") append with
    | .ok (path, _) => Run.storeFile "panic.log" path
    | .error _ => pure ()
    match ← openLogOrTemp file.destination (appName ++ ".*.log") append with
    | .error e =>
      pure (.error ("unable to access file log destination (" ++ file.destination ++ "): " ++ e))
    | .ok (path, redirected) =>
      Run.storeFile "final.log" path
      modify fun st => { st with logs := some { console, file := some (path, fileLevel) } }
      if redirected then Run.log redirectedEntry
      pure (.ok ())

/-- Creates the report file, in the temporary folder when its place cannot be written. -/
def prepareReport (s : Settings) : Run (Except String Unit) := do
  let v ← Run.volume
  let destination := s.reporting.destination
  let created : Except String (Volume × String) :=
    match v.save destination ByteArray.empty false with
    | .ok v => .ok (v, destination)
    | .error _ => v.createTemp (appName ++ "-report.*.zip")
  match created with
  | .error e => pure (.error ("unable to create report: " ++ e))
  | .ok (v, path) =>
    Run.setVolume v
    modify fun st => { st with report := some (Report.mk (v.absolute path) []) }
    pure (.ok ())

/-- Sets a run up before its command: settings, resource folder, report and logs. Nothing is
done without arguments. -/
def setup (rootArgs : List String) (flags : FlagValues) : Run (Except Fault Unit) := do
  if rootArgs.isEmpty then return .ok ()
  let configFile := flags.text "config"
  let font ← Run.lookupVariable fontVariable
  match Config.loadSettings (← Run.volume) font configFile with
  | .error e => return .error (.plain ("unable to prepare configuration: " ++ e))
  | .ok (s, v) =>
  Run.setVolume v
  let dir := flags.text "resources"
  let s ← if dir.isEmpty then pure s
    else if !v.isFolder dir then
      return .error (.plain ("resources directory '" ++ dir ++ "' is not accessible"))
    else pure { s with theme.resources.dir := PathName.clean dir }
  modify fun st => { st with settings := some s }
  let debugRun := flags.switch "debug"
  if debugRun then
    match ← prepareReport s with
    | .error e => return .error (.plain ("unable to prepare debug report: " ++ e))
    | .ok () => Run.storeData "config/actual.yaml" s.dump.toUTF8
  match ← prepareLogs s debugRun with
  | .error e => return .error (.plain ("unable to prepare logs: " ++ e))
  | .ok () =>
  Run.log (.debug "" "Program started")
  if debugRun then Run.log (.info "" "Creating debug report")
  if configFile.isEmpty then Run.log (.debug "" "Using defaults (no configuration file)")
  return .ok ()

/-- Removes the panic log next to a log file when it is empty. -/
def removeEmptyPanicLog (logFile : String) : Run (Except Fault Unit) := do
  if logFile.isEmpty then return .ok ()
  let path := PathName.join [PathName.dir logFile, appName ++ "-panic.log"]
  let v ← Run.volume
  match v.stat path with
  | .ok (.file data) =>
    if !data.isEmpty then return .ok ()
    match v.remove path with
    | .ok v => Run.setVolume v; return .ok ()
    | .error e =>
      return .error (.plain ("unable to remove empty panic log file '" ++ path ++ "': " ++ e))
  | _ => return .ok ()

/-- Ends a run: the report is written and an empty panic log removed. -/
def teardown : Run (Option Fault) := do
  Run.log (.debug "" "Program ended")
  let st ← get
  let closing ← match st.report with
    | some r =>
      match r.close st.world.volume with
      | .ok v => do Run.setVolume v; pure none
      | .error e => pure (some (Fault.plain ("unable to close debug report: " ++ e)))
    | none => pure none
  let removing ← match st.settings with
    | some s => do
      match ← removeEmptyPanicLog s.logging.file.destination with
      | .ok () => pure none
      | .error f => pure (some f)
    | none => pure none
  match closing, removing with
  | some a, some b => pure (some (.joined [a, b]))
  | some a, none => pure (some a)
  | none, b => pure b

/-- Logs the failure of a run, when logs are set up, and remembers that it was logged. -/
def logFailure : Run Unit := do
  if ← Run.logging then
    Run.log (.error "" "Program ended with error")
    modify fun st => { st with errLogged := true }

/-- Tells that a command is unknown, when logs are set up. -/
def unknownCommand : Run Unit := Run.log (.warn "" "Unknown command, nothing to do")

/-- Writes the settings in force, or the default ones, to the output or to a file. -/
def dumpConfig (args : List String) (flags : FlagValues) : Action := do
  if args.length > 1 then Run.log (.warn "" "Malformed command line, too many destinations")
  let data ← if flags.switch "default" then do
      let font ← Run.lookupVariable fontVariable
      pure ((Config.defaultDocument (Config.defaultFamilyFrom font)).emit 4)
    else pure (← settings).dump
  let file := args.headD ""
  if file.isEmpty then
    Run.log (.debug "" "Outputting configuration")
    Run.say data
    return .ok ()
  Run.log (.info "" "Outputting configuration")
  match (← Run.volume).save file data.toUTF8 false with
  | .ok v => Run.setVolume v; return .ok ()
  | .error e => return .error (.plain ("unable to write configuration: " ++ e))

/-- Runs a command of the program. -/
def runCommand (c : Command) (args : List String) (flags : FlagValues) : Action :=
  if c.name == dumpCommand.name then dumpConfig args flags else runThemeCommand c args flags

/-- Ends a run that got this far: a failure is logged, the run torn down, and the failures of
both given. -/
def finish (failure : Option Fault) : Run (Option Fault) := do
  if failure.isSome then logFailure
  let ending ← teardown
  if failure.isNone && ending.isSome then logFailure
  match failure, ending with
  | some a, some b => pure (some (.joined [a, b]))
  | some a, none => pure (some a)
  | none, b => pure b

/-- Runs the program on a command line; gives its failure. -/
def runProgram (runtime : String) (args : List String) : Run (Option Fault) := do
  let app := programApp runtime
  match app.route args with
  | .usageError _ message _ => pure (some (.plain message))
  | .rootHelp topic _ =>
    match topic.bind app.command? with
    | some c => Run.say (app.commandHelp c false)
    | none => if topic.isNone then Run.say app.help else unknownCommand
    pure none
  | .version _ => Run.say app.versionText; pure none
  | .commandHelp c topic _ =>
    match topic with
    | none => Run.say (app.commandHelp c true); pure none
    | some t => pure (some (noHelpTopic t))
  | .root args flags =>
    match ← setup args flags with
    | .error f => finish (some f)
    | .ok () =>
      match args with
      | [] => Run.say app.help
      | _ => unknownCommand
      finish none
  | .run c args rootArgs flags =>
    match ← setup rootArgs flags with
    | .error f => finish (some f)
    | .ok () =>
      match ← runCommand c args flags with
      | .error f => finish (some f)
      | .ok () => finish none

/-- Runs the program in a world; gives its failure and the session at the end. -/
def runProgramIn (w : World) (runtime : String) (args : List String) : Option Fault × Session :=
  (runProgram runtime args).run { world := w }

end Theming.Program
