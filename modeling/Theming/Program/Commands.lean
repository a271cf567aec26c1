import Theming.Program.Inspect
import Theming.Config.Load
import Theming.Cli.Help

/-!
# The theme commands

The command line of the theme commands (`check`, `styles`, `tokens`, `apply`), and a program
made of them alone: settings loaded beforehand, nothing logged, no report. In that program a
flag problem is told on the output (`Incorrect Usage: …`), help on an unknown topic fails
(`No help topic for 'X'`) and a `help` command gives help on the program or on a command.
-/

set_option autoImplicit false

namespace Theming.Program

open Theming.System Theming.Cli

/-- The `check` command. -/
def checkCommand : Command :=
  { name := "check", usage := "Loads theme file(s) and reports syntax errors", argsUsage := "THEME..." }

/-- The `styles` command. -/
def stylesCommand : Command :=
  { name := "styles", usage := "Lists styles of the theme or prints assignments of requested styles",
    argsUsage := "THEME [STYLE...]" }

/-- The `tokens` command. -/
def tokensCommand : Command :=
  { name := "tokens", usage := "Prints token stream of the theme file", argsUsage := "THEME" }

/-- The text after the help of `apply`. -/
def applyHelpSuffix : String :=
  "\nTHEME:\n    path to theme file, images and fonts are looked up next to it and then in\n" ++
  "    configured resources directory\n\nSTYLE:\n    name of the style block to apply\n\n" ++
  "Failed assignments do not stop application, every assignment is reported with\n" ++
  "its outcome followed by the resulting widget state.\n"

/-- The `apply` command. -/
def applyCommand : Command :=
  { name := "apply", usage := "Applies style to a sample widget and reports results",
    argsUsage := "THEME STYLE", helpSuffix := applyHelpSuffix,
    flags := [
      { name := "widget", aliases := ["w"],
        usage := "sample widget \x60KIND\x60 (" ++ ", ".intercalate Theming.Widget.WidgetKind.naming.names ++
          "), default from configuration" },
      { name := "only", usage := "apply only assignments to top level properties \x60NAMES\x60", kind := .texts },
      { name := "output", aliases := ["o"],
        usage := "results \x60FORMAT\x60 (" ++ ", ".intercalate Config.OutputFormat.naming.names ++
          "), default from configuration" },
      { name := "render", usage := "render widget background to PNG \x60FILE\x60 (or into directory)" }] }

/-- The theme commands. -/
def themeCommands : List Command := [checkCommand, stylesCommand, tokensCommand, applyCommand]

/-- Runs a theme command. -/
def runThemeCommand (c : Command) (args : List String) (flags : FlagValues) : Action :=
  match c.name with
  | "check" => check args
  | "styles" => styles args
  | "tokens" => tokens args
  | "apply" => apply args flags
  | _ => pure (.ok ())

/-- The program of the theme commands alone. -/
def themeApp : App := { name := appName, commands := themeCommands }

/-- The failure of help on an unknown topic. -/
def noHelpTopic (topic : String) : Fault := .plain ("No help topic for '" ++ topic ++ "'")

/-- Help on a topic of the theme program, or on the program. -/
def themeHelp (topic : Option String) : Run (Option Fault) := do
  match topic with
  | none => Run.say themeApp.help; pure none
  | some t =>
    match themeApp.command? t with
    | some c => Run.say (themeApp.commandHelp c false); pure none
    | none => pure (some (noHelpTopic t))

/-- Runs the theme program on a command line, with settings loaded; gives its failure. -/
def runThemeProgram (args : List String) : Run (Option Fault) := do
  match themeApp.route args with
  | .usageError _ message _ =>
    Run.say ("Incorrect Usage: " ++ message ++ "\n\n")
    pure (some (.plain message))
  | .rootHelp topic _ => themeHelp topic
  | .version _ => pure none
  | .commandHelp c topic _ =>
    match topic with
    | none => Run.say (themeApp.commandHelp c true); pure none
    | some t => pure (some (noHelpTopic t))
  | .root args _ => themeHelp args.head?
  | .run c args _ flags =>
    if c.name == helpCommand.name then themeHelp args.head?
    else
      match ← runThemeCommand c args flags with
      | .ok () => pure none
      | .error f => pure (some f)

/-- Runs the theme program in a world, loading the settings file when a path is given. -/
def runThemeProgramIn (w : World) (settingsPath : String) (args : List String) :
    Except String (Option Fault × Session) :=
  let font := w.environment.lookup "SCT_DEFAULT_FONT"
  match Config.loadSettings w.volume font settingsPath with
  | .error e => .error e
  | .ok (s, v) =>
    let session : Session := { world := { w with volume := v }, settings := some s, logs := some {} }
    .ok ((runThemeProgram args).run session)

end Theming.Program
