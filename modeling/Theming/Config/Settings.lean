import Theming.Config.OutputFormat
import Theming.Value.Font
import Theming.Yaml.Emit

/-!
# Settings

The program's settings, in sections:

* `theme`: the resource folder searched after the theme's own folder and whether loaded
  resources are cached; the default font family, the fallback policy and extra known families;
* `apply`: the widget styled when none is named, the output format, and the template naming
  rendered images;
* `logging`: a file log and the console log, each with a level (`none`, `debug`, `normal`), a
  destination and a mode (`append`, `overwrite`);
* `reporting`: where the debug report goes;

and a version, which must be 1.

The defaults come from a commented document whose default font family is taken from the
environment (`Helvetica` when it gives none). Settings are written back as YAML in the order
above; the resource folder, log destinations and modes are left out when empty.
-/

set_option autoImplicit false

namespace Theming.Config

open Theming.Value Theming.Yaml

/-- Font settings. -/
structure FontSettings where
  default : String
  fallback : FallbackPolicy := .default
  extra : List String := []
  deriving Inhabited

/-- Resource settings. -/
structure ResourceSettings where
  /-- The folder searched after the folder of the theme file; empty for none. -/
  dir : String := ""
  cache : Bool := true
  deriving Inhabited

/-- Theme settings. -/
structure ThemeSettings where
  resources : ResourceSettings := {}
  fonts : FontSettings
  deriving Inhabited

/-- Settings of the apply command. -/
structure ApplySettings where
  widget : String := "view"
  output : OutputFormat := .text
  renderNameTemplate : String := "\x7b\x7b .Theme \x7d\x7d-\x7b\x7b .Style \x7d\x7d.png"
  deriving Inhabited

/-- Settings of one log. -/
structure LoggerSettings where
  level : String
  destination : String := ""
  mode : String := ""
  deriving Inhabited

/-- Settings of the logs. -/
structure LoggingSettings where
  file : LoggerSettings := { level := "none", destination := "sct.log", mode := "overwrite" }
  console : LoggerSettings := { level := "normal" }
  deriving Inhabited

/-- Settings of the debug report. -/
structure ReportSettings where
  destination : String := "sct-report.zip"
  deriving Inhabited

/-- All settings. -/
structure Settings where
  version : Int := 1
  theme : ThemeSettings
  apply : ApplySettings := {}
  logging : LoggingSettings := {}
  reporting : ReportSettings := {}
  deriving Inhabited

/-- The family used when the environment names none. -/
def standardFontFamily : String := "Helvetica"

/-- The default font family for a value of the environment variable naming it. -/
def defaultFamilyFrom (env : Option String) : String :=
  match env with
  | some s => if s.isEmpty then standardFontFamily else s
  | none => standardFontFamily

/-- The default settings with a default font family. -/
def Settings.defaults (family : String) : Settings :=
  { theme := { fonts := { default := family } } }

/-- The font book the font settings describe. -/
def FontSettings.book (f : FontSettings) : FontBook := FontBook.make f.default f.fallback f.extra

/-- A key with comment lines above it. -/
def commented (key : String) (lines : List String) (value : Node) : Node × Node :=
  (Node.withComment (Node.str key) lines, value)

/-- The default settings as the commented document they come from, with a default font family. -/
def defaultDocument (family : String) : Node :=
  let plain (s : String) : Node := .scalar {} s .plain
  let mapping (es : List (Node × Node)) : Node := .mapping {} es false
  mapping [
    commented "version" [" Configuration of sct - theme checking and styling tool."] (plain "1"),
    (Node.str "theme", mapping [
      (Node.str "resources", mapping [
        commented "dir" [" Directory with images and fonts searched when resource is not found",
          " next to the theme file."] (.scalar {} "" .double),
        commented "cache" [" Keep loaded resources in memory for the duration of a run."] (plain "true")]),
      (Node.str "fonts", mapping [
        commented "default" [" Family used in place of unknown fonts when fallback is \"default\"."]
          (.scalar {} family .single),
        commented "fallback" [" What to do with unknown font families: default or fail."] (plain "default"),
        commented "extra" [" Font families known in addition to standard system ones."]
          (.sequence {} [] true)])]),
    (Node.str "apply", mapping [
      commented "widget" [" Widget styled when apply command has no --widget flag."] (plain "view"),
      commented "output" [" Format of apply command results: text or yaml."] (plain "text"),
      commented "render_name_template" [" Name of rendered image, expanded for every render request."]
        (.scalar {} "\x7b\x7b .Theme \x7d\x7d-\x7b\x7b .Style \x7d\x7d.png" .double)]),
    (Node.str "logging", mapping [
      (Node.str "console", mapping [(Node.str "level", plain "normal")]),
      (Node.str "file", mapping [
        (Node.str "level", plain "none"),
        (Node.str "destination", plain "sct.log"),
        (Node.str "mode", plain "overwrite")])]),
    (Node.str "reporting", mapping [(Node.str "destination", plain "sct-report.zip")])]

/-- A field that is left out when empty. -/
def omitEmpty (key value : String) : List (String × Node) :=
  if value.isEmpty then [] else [(key, stringNode value)]

/-- The settings of a log as a mapping. -/
def LoggerSettings.toYaml (l : LoggerSettings) : Node :=
  Node.map ([("level", stringNode l.level)] ++ omitEmpty "destination" l.destination ++
    omitEmpty "mode" l.mode)

/-- Settings as a YAML mapping. -/
def Settings.toYaml (s : Settings) : Node :=
  Node.map [
    ("version", .scalar {} (toString s.version) .plain),
    ("theme", Node.map [
      ("resources", Node.map (omitEmpty "dir" s.theme.resources.dir ++
        [("cache", .scalar {} (if s.theme.resources.cache then "true" else "false") .plain)])),
      ("fonts", Node.map [
        ("default", stringNode s.theme.fonts.default),
        ("fallback", stringNode s.theme.fonts.fallback.name),
        ("extra", Node.seq (s.theme.fonts.extra.map stringNode))])]),
    ("apply", Node.map [
      ("widget", stringNode s.apply.widget),
      ("output", stringNode s.apply.output.name),
      ("render_name_template", stringNode s.apply.renderNameTemplate)]),
    ("logging", Node.map [
      ("file", s.logging.file.toYaml),
      ("console", s.logging.console.toYaml)]),
    ("reporting", Node.map [("destination", stringNode s.reporting.destination)])]

/-- Settings written as YAML. -/
def Settings.dump (s : Settings) : String := s.toYaml.emit 4

end Theming.Config
