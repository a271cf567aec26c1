import Theming.Config.Decode
import Theming.Config.FileName
import Theming.System.Volume
import Theming.Text.Template
import Theming.Text.Quoted
import Theming.Text.Encoding
import Theming.Text.Utf8
import Theming.Widget.Kinds

/-!
# Loading settings

Settings are the defaults, with a settings file laid over them when one is given. The result is
then made ready and checked:

* paths are cleaned, and the folders that will hold the log files and the report are created;
* every field is checked against its rule, and all failures are reported, one per line, as
  `Key: 'Config.Section.Field' Error:Field validation for 'Field' failed on the 'rule' tag`;
* the widget must be one the program can build, and the render name template must parse.

The rules: the version is 1 (`eq`); the resource folder, when given, is a folder (`dir`); the
default font family, each extra family, the widget, the template, the log levels and the report
destination are not empty (`required`); log levels are `none`, `debug` or `normal` and log
modes, when given, `append` or `overwrite` (`oneof`); log destinations, when given, and the
report destination name a file (`filepath`): not a folder, not blank, not ending with `/`.
-/

set_option autoImplicit false

namespace Theming.Config

open Theming.System Theming.Text

/-- The failure of a field's rule. -/
def ruleFailure (key field rule : String) : String :=
  "Key: 'Config." ++ key ++ "' Error:Field validation for '" ++ field ++ "' failed on the '" ++
    rule ++ "' tag"

/-- Whether a path may name a file: a file that is there, or a name that is not a folder, not
blank, not ending with a slash and free of NUL. -/
def isFilePath (v : Volume) (p : String) : Bool :=
  match v.stat p with
  | .ok n => !n.isFolder
  | .error _ =>
    !(p.trimAscii.toString.isEmpty) && !p.endsWith "/" && !p.contains (Char.ofNat 0)

/-- Cleans a path that is not empty. -/
def cleanPath (p : String) : String := if p.isEmpty then p else PathName.clean p

/-- Creates the folder that will hold a file, when a file is named. -/
def prepareFolderFor (v : Volume) (file : String) : Except String Volume :=
  if file.isEmpty then .ok v else v.makeFolders (PathName.dir file)

/-- Cleans the paths of settings and creates the folders of the files they name. -/
def Settings.sanitize (s : Settings) (v : Volume) : Except String (Settings × Volume) := do
  let s := { s with
    theme.resources.dir := cleanPath s.theme.resources.dir
    logging.file.destination := cleanPath s.logging.file.destination
    logging.console.destination := cleanPath s.logging.console.destination
    reporting.destination := cleanPath s.reporting.destination }
  let v ← prepareFolderFor v s.logging.file.destination
  let v ← prepareFolderFor v s.logging.console.destination
  let v ← prepareFolderFor v s.reporting.destination
  pure (s, v)

/-- The rule failures of the settings of one log. -/
def LoggerSettings.failures (l : LoggerSettings) (v : Volume) (key : String) : List String :=
  (if l.level.isEmpty then [ruleFailure (key ++ ".Level") "Level" "required"]
   else if !(["none", "debug", "normal"].contains l.level) then
     [ruleFailure (key ++ ".Level") "Level" "oneof"]
   else []) ++
  (if !l.destination.isEmpty && !isFilePath v l.destination then
     [ruleFailure (key ++ ".Destination") "Destination" "filepath"] else []) ++
  (if !l.mode.isEmpty && !(["append", "overwrite"].contains l.mode) then
     [ruleFailure (key ++ ".Mode") "Mode" "oneof"] else [])

/-- The rule failures of settings, in field order. -/
def Settings.failures (s : Settings) (v : Volume) : List String :=
  (if s.version != 1 then [ruleFailure "Version" "Version" "eq"] else []) ++
  (if !s.theme.resources.dir.isEmpty && !v.isFolder s.theme.resources.dir then
     [ruleFailure "Theme.Resources.Dir" "Dir" "dir"] else []) ++
  (if s.theme.fonts.default.isEmpty then [ruleFailure "Theme.Fonts.Default" "Default" "required"]
   else []) ++
  ((List.range s.theme.fonts.extra.length).filterMap fun i =>
    if (s.theme.fonts.extra.getD i "").isEmpty then
      let field := "Extra[" ++ toString i ++ "]"
      some (ruleFailure ("Theme.Fonts." ++ field) field "required")
    else none) ++
  (if s.apply.widget.isEmpty then [ruleFailure "Apply.Widget" "Widget" "required"] else []) ++
  (if s.apply.renderNameTemplate.isEmpty then
     [ruleFailure "Apply.RenderNameTemplate" "RenderNameTemplate" "required"] else []) ++
  s.logging.file.failures v "Logging.FileLogger" ++
  s.logging.console.failures v "Logging.ConsoleLogger" ++
  (if s.reporting.destination.isEmpty then
     [ruleFailure "Reporting.Destination" "Destination" "required"]
   else if !isFilePath v s.reporting.destination then
     [ruleFailure "Reporting.Destination" "Destination" "filepath"]
   else [])

/-- The checks no field rule expresses: the widget and the render name template. -/
def Settings.check (s : Settings) : Except String Unit := do
  if !Theming.Widget.WidgetKind.naming.names.contains s.apply.widget then
    throw ("apply.widget: unknown widget " ++ Quoted.quote s.apply.widget ++ ", expected one of " ++
      ", ".intercalate Theming.Widget.WidgetKind.naming.names)
  match Template.parse "render" s.apply.renderNameTemplate with
  | .error e => throw ("apply.render_name_template: " ++ e)
  | .ok _ => pure ()

/-- Makes settings ready and checks them. -/
def Settings.finish (s : Settings) (v : Volume) : Except String (Settings × Volume) := do
  let (s, v) ← s.sanitize v
  let failures := s.failures v
  if !failures.isEmpty then throw ("\n".intercalate failures)
  s.check
  pure (s, v)

/-- Loads the settings: the defaults, with the default font family from the environment, and
the settings file when a path is given. Folders for log files and the report may be created. -/
def loadSettings (v : Volume) (fontVariable : Option String) (path : String) :
    Except String (Settings × Volume) :=
  let defaults := Settings.defaults (defaultFamilyFrom fontVariable)
  if path.isEmpty then
    (defaults.finish v).mapError ("failed to process configuration template: " ++ ·)
  else do
    let data ← (v.load path).mapError ("failed to read config file: " ++ ·)
    let text := Utf8.toText (Encoding.decodeMarked data.toList)
    let wrap (e : String) : String := "failed to process configuration file '" ++ path ++ "': " ++ e
    let s ← (defaults.decode text).mapError fun e => wrap ("failed to decode configuration data: " ++ e)
    (s.finish v).mapError wrap

end Theming.Config
