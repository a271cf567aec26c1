import Theming.Program.Session
import Theming.Theme.Theme
import Theming.Widget.Registry
import Theming.Widget.Render
import Theming.Widget.Yaml
import Theming.Archive.Bundle
import Theming.Cli.Command
import Theming.Text.Template
import Theming.Text.Natural
import Theming.Config.FileName
import Theming.Picture.PngWrite
import Theming.Picture.JpegWrite
import Theming.Picture.BmpWrite
import Theming.Picture.GifWrite
import Theming.Picture.TiffWrite
import Theming.Sheet.TokenStream
import Theming.Sheet.Position

/-!
# Working with theme files

The commands that read themes:

* `check THEME...` loads every theme, every theme of a bundle too, and tells for each whether
  it loaded (`NAME: ok, N styles`, then its warnings) or why not (the failure, and for a
  syntax error the line of the text with a caret under the column). The run fails when one
  theme did, telling how many of how many;
* `styles THEME [STYLE...]` lists the styles in natural order with their number of
  assignments, or prints the assignments of the styles named;
* `tokens THEME` prints the tokens of the theme's text, one a line with its position;
* `apply THEME STYLE` styles a sample widget (`--widget`, from the settings by default) and
  reports every assignment's outcome and the widget's state, as text or YAML (`--output`);
  `--only` keeps the assignments to some top-level properties and `--render` draws the widget
  to a picture, whose name comes from the settings' template when a folder is given.

A theme is a file, or a theme inside a bundle (`bundle.zip:path/in/bundle.sct`); a bundle
holding a single theme may be named by itself. A theme file finds its resources in its own
folder, a bundled theme in the bundle; then both look in the configured resource folder.
-/

set_option autoImplicit false

namespace Theming.Program

open Theming.System Theming.Resource Theming.Value Theming.Widget Theming.Style Theming.Sheet
open Theming.Text Theming.Archive Theming.Yaml Theming.Picture
open Theming.Config (Settings)

/-- What a command does: a step of the run that may fail. -/
abbrev Action := Run (Except Fault Unit)

/-- A theme styling widgets. -/
abbrev WidgetTheme := Theming.Theme.Theme Styled

/-- The settings of the run; the defaults before any are loaded. -/
def settings : Run Settings := do
  pure ((← get).settings.getD (Settings.defaults Config.standardFontFamily))

/-- Resources in the configured folder, when one is set. -/
def configuredResources (s : Settings) (v : Volume) : List (Option Provider) :=
  if s.theme.resources.dir.isEmpty then [] else [some (.directory v s.theme.resources.dir)]

/-- Resources behind a cache, when the settings keep one. -/
def cachedIf (s : Settings) (p : Provider) : Provider :=
  if s.theme.resources.cache then .cached p else p

/-- Loads a theme's text under a name, with resources. -/
def buildTheme (data : ByteArray) (path : String) (resources : Provider) :
    Run (Except Fault WidgetTheme) := do
  let s ← settings
  Run.traced (Theming.Theme.Theme.loadTraced data.toList path registry
    { resources, fonts := s.theme.fonts.book })

/-- Loads a theme file; with a debug report, a copy of the file goes in it. -/
def loadThemeFile (path : String) : Run (Except Fault WidgetTheme) := do
  let copied ← Run.storeCopy ("themes/" ++ Theming.Theme.themeName path ++ PathName.ext path) path
  if copied matches .error _ then Run.log (.debug "" "Unable to store theme in report")
  let v ← Run.volume
  match v.load path with
  | .error e => pure (.error (.load path (.plain e)))
  | .ok data =>
    let s ← settings
    buildTheme data path
      (cachedIf s (.chain ([some (.directory v (PathName.dir path))] ++ configuredResources s v)))

/-- Loads a theme of a bundle; with a debug report, its text goes in it. -/
def loadBundledTheme (b : Bundle) (name : String) : Run (Except Fault WidgetTheme) := do
  let shown := b.path ++ ":" ++ name
  match b.content name with
  | .error e => pure (.error (.load shown (.plain e)))
  | .ok data =>
    Run.storeData ("themes/" ++ PathName.base b.path ++ "/" ++ name) data
    let s ← settings
    let v ← Run.volume
    let inner := b.resources name
    let res := if s.theme.resources.dir.isEmpty then inner
      else .chain ([some inner] ++ configuredResources s v)
    buildTheme data shown (cachedIf s res)

/-- Whether a path holds a bundle. -/
def isBundleAt (v : Volume) (path : String) : Bool :=
  match v.load path with
  | .ok data => isBundle data
  | .error _ => false

/-- Opens the bundle at a path. -/
def openBundle (v : Volume) (path : String) : Except String Bundle := do
  Bundle.open_ path (← v.load path)

/-- Reads a theme argument as a bundle's path and a theme's name in it, split at the last colon,
when what stands before that colon is a bundle; otherwise the whole argument names a file or a
bundle, with no theme name. -/
def splitThemeArgument (v : Volume) (arg : String) : String × String :=
  let chars := arg.toList
  match (List.range chars.length).reverse.find? fun i => chars[i]? == some ':' with
  | some i =>
    let head := String.ofList (chars.take i)
    if i > 0 && isBundleAt v head then (head, String.ofList (chars.drop (i + 1))) else (arg, "")
  | none => (arg, "")

/-- Loads the theme named on the command line: a file, a bundle with one theme, or a theme of a
bundle. -/
def openTheme (arg : String) : Run (Except Fault WidgetTheme) := do
  let v ← Run.volume
  let (path, name) := splitThemeArgument v arg
  if !isBundleAt v path then loadThemeFile path
  else
    match openBundle v path with
    | .error e => pure (.error (.load path (.plain e)))
    | .ok b =>
      if name.isEmpty then
        match b.themes with
        | [only] => loadBundledTheme b only
        | names =>
          pure (.error (.plain ("bundle " ++ path ++ " has " ++ toString names.length ++
            " themes, name one of them as " ++ path ++ ":THEME (" ++ ", ".intercalate names ++ ")")))
      else loadBundledTheme b name

/-- Prints a failure, and for a syntax error the line of the text with a caret under the
column. -/
def printFailure (f : Fault) : Run Unit := do
  Run.say (f.message ++ "\n")
  match f.syntaxError? with
  | some e =>
    if !e.context.isEmpty then
      Run.say ("    " ++ e.context ++ "\n" ++ "    " ++
        String.ofList (List.replicate (e.column - 1) ' ') ++ "^\n")
  | none => pure ()

/-- Reports one loaded theme, or its failure, gathering failures. -/
def reportLoad (shown : String) (result : Except Fault WidgetTheme) (failures : List Fault) :
    Run (List Fault) := do
  match result with
  | .error f =>
    Run.log (.debug "check" "Theme failed")
    printFailure f
    pure (failures ++ [f])
  | .ok t =>
    Run.say (shown ++ ": ok, " ++ toString t.sheet.size ++ " styles\n")
    for w in t.sheet.warnings do Run.say ("    warning: " ++ w ++ "\n")
    pure failures

/-- Checks the themes of the arguments. -/
def check (args : List String) : Action := do
  if args.isEmpty then return .error (.plain "no theme files have been specified")
  let mut failures : List Fault := []
  let mut total := 0
  for path in args do
    let v ← Run.volume
    if !isBundleAt v path then
      total := total + 1
      failures ← reportLoad path (← loadThemeFile path) failures
    else
      match openBundle v path with
      | .error e =>
        total := total + 1
        failures ← reportLoad path (.error (.plain e)) failures
      | .ok b =>
        let names := b.themes
        if names.isEmpty then Run.log (.warn "check" "Bundle has no themes")
        for name in names do
          total := total + 1
          failures ← reportLoad (path ++ ":" ++ name) (← loadBundledTheme b name) failures
  if failures.isEmpty then return .ok ()
  return .error (.context (toString failures.length ++ " of " ++ toString total ++ " themes have errors")
    (.joined failures))

/-- Lists the styles of a theme, or prints the assignments of the styles named. -/
def styles (args : List String) : Action := do
  match args with
  | [] => return .error (.plain "no theme file has been specified")
  | path :: names =>
    if path.isEmpty then return .error (.plain "no theme file has been specified")
    match ← openTheme path with
    | .error f => return .error f
    | .ok t =>
      if names.isEmpty then
        for name in Natural.sort t.sheet.names do
          let count := ((t.sheet.style? name).getD []).length
          Run.say (name ++ " (" ++ toString count ++ ")\n")
      else
        for name in names do
          if !t.hasStyle name then Run.log (.warn "styles" "Style not found")
        Run.say (t.sheet.dump names)
      return .ok ()

/-- A text padded with blanks to a width, on the left or on the right. -/
def padded (s : String) (width : Nat) (left : Bool) : String :=
  let fill := String.ofList (List.replicate (width - s.length) ' ')
  if left then fill ++ s else s ++ fill

/-- Prints the tokens of a theme file. -/
def tokens (args : List String) : Action := do
  let path := args.headD ""
  if path.isEmpty then return .error (.plain "no theme file has been specified")
  match (← Run.volume).load path with
  | .error e => return .error (.plain ("unable to read theme: " ++ e))
  | .ok raw =>
    let data := Encoding.decodeMarked raw.toList
    Run.storeData "tokens/source.sct" ⟨data.toArray⟩
    let stream := TokenStream.ofBytes data path
    for t in stream.tokens do
      let (line, col) := Position.lineColumn data t.offset
      Run.say (padded (toString line) 4 true ++ ":" ++ padded (toString col) 3 false ++ " " ++
        padded t.kind.name 10 false ++ " " ++ t.describe ++ "\n")
    match stream.failure with
    | some e => return .error (.parse e)
    | none => return .ok ()

/-- Indents the lines of a text that are not empty. -/
def indentLines (s : String) (lead : String) : String :=
  "\n".intercalate ((s.splitOn "\n").map fun l => if l.isEmpty then l else lead ++ l)

/-- An outcome as the apply report's YAML has it. -/
def outcomeNode (o : Outcome) : Yaml.Node :=
  let value := (o.value.map (·.render)).getD ""
  let failure := (o.fault.map (·.message)).getD ""
  Yaml.Node.map ([("path", stringNode o.path.render), ("line", intNode o.line),
    ("status", stringNode o.status.name)] ++
    (if value.isEmpty then [] else [("value", stringNode value)]) ++
    (if failure.isEmpty then [] else [("error", stringNode failure)]))

/-- What applying a style gave: the theme, style and widget kind, the outcomes and the
widget. -/
structure Applied where
  theme : String
  style : String
  kind : String
  outcomes : List Outcome
  result : Widget

/-- The apply report as YAML. -/
def Applied.toYaml (a : Applied) : Yaml.Node :=
  Yaml.Node.map [("theme", stringNode a.theme), ("style", stringNode a.style),
    ("widget", stringNode a.kind), ("outcomes", Yaml.Node.seq (a.outcomes.map outcomeNode)),
    ("result", a.result.toYaml)]

/-- The apply report as data for templates. -/
def Applied.datum (a : Applied) : Datum :=
  .record "*inspect.applyDoc" [("Theme", .text a.theme), ("Style", .text a.style),
    ("Widget", .text a.kind), ("Outcomes", .shown "[]inspect.outcomeDoc" ""),
    ("Result", .shown a.result.typeName "")]

/-- The name of a rendered picture from the template of the settings. -/
def renderName (template : String) (a : Applied) : Except String String := do
  let t ← (Template.parse "render_name_template" template).mapError ("bad render name template: " ++ ·)
  let out ← (t.execute a.datum).mapError ("unable to expand render name template: " ++ ·)
  let name := Config.cleanFileName out
  pure (if (PathName.ext name).isEmpty then name ++ ".png" else name)

/-- The file a render writes: a file named by the template inside the destination when that is a
folder, the destination itself otherwise. -/
def renderPath (v : Volume) (template : String) (a : Applied) (dst : String) :
    Except String String :=
  if v.isFolder dst then (renderName template a).map fun name => PathName.join [dst, name]
  else pure dst

/-- The picture formats by file extension. -/
inductive PictureFormat where
  | png
  | jpeg
  | gif
  | tiff
  | bmp
  deriving BEq

/-- The picture format a file name asks for. -/
def PictureFormat.ofPath (path : String) : Option PictureFormat :=
  match (Case.lower (PathName.ext path)).drop 1 |>.toString with
  | "png" => some .png
  | "jpg" | "jpeg" => some .jpeg
  | "gif" => some .gif
  | "tif" | "tiff" => some .tiff
  | "bmp" => some .bmp
  | _ => none

/-- A canvas written in a format; JPEG at quality 95, GIF dithered to the Plan 9 palette, TIFF
compressed with zlib. -/
def PictureFormat.encode (f : PictureFormat) (c : Canvas) : ByteArray :=
  match f with
  | .jpeg => JpegWrite.write c 95
  | .gif => GifWrite.write c
  | .bmp => BmpWrite.write c
  | .tiff => TiffWrite.write c
  | .png => Png.write c

/-- Draws the widget to a picture file. -/
def render (a : Applied) (dst : String) : Action := do
  let v ← Run.volume
  let s ← settings
  let dst ← match renderPath v s.apply.renderNameTemplate a dst with
    | .ok path => pure path
    | .error e => return .error (.plain e)
  match a.result.render with
  | .error f => return .error (.context ("unable to render " ++ a.kind) f)
  | .ok canvas =>
    match PictureFormat.ofPath dst with
    | none => return .error (.plain "unable to save rendered image: imaging: unsupported image format")
    | some format =>
      match v.save dst (format.encode canvas) false with
      | .error e => return .error (.plain ("unable to save rendered image: " ++ e))
      | .ok v =>
        Run.setVolume v
        Run.storeFile ("render/" ++ PathName.base dst) dst
        Run.log (.info "apply" "Widget rendered")
        return .ok ()

/-- Applies a style to a sample widget and reports the outcomes and the widget. -/
def apply (args : List String) (flags : Cli.FlagValues) : Action := do
  if args.length < 2 then return .error (.plain "theme file and style name must be specified")
  if args.length > 2 then Run.log (.warn "apply" "Malformed command line, too many arguments")
  let path := args.headD ""
  let styleName := (args.drop 1).headD ""
  let s ← settings
  let kind := if (flags.text "widget").isEmpty then s.apply.widget else flags.text "widget"
  match Widget.ofName kind with
  | .error e => return .error (.plain e)
  | .ok w =>
  let format ← if flags.isSet "output" then
      match Config.OutputFormat.naming.parse (flags.text "output") with
      | .ok i => pure (if i == 1 then Config.OutputFormat.yaml else .text)
      | .error e => return .error (.plain ("unknown output format: " ++ e))
    else pure s.apply.output
  match ← openTheme path with
  | .error f => return .error f
  | .ok t =>
  if !t.hasStyle styleName then Run.log (.warn "apply" "Style not found, nothing to apply")
  let only := if flags.isSet "only" then some (flags.texts "only") else none
  let (styled, outs) ← Run.traced (t.applyTraced (.widget w) styleName only)
  let outs := outs.getD []
  let w := (styled.widget?).getD w
  if !(Outcomes.failed outs).isEmpty then Run.log (.warn "apply" "Some assignments were not applied")
  Run.storeData ("outcomes/" ++ t.name ++ "-" ++ styleName ++ ".txt") (Outcomes.report outs).toUTF8
  let a : Applied := { theme := t.name, style := styleName, kind, outcomes := outs, result := w }
  if format == .yaml then Run.say (a.toYaml.emit 2)
  else
    Run.say (if outs.isEmpty then "nothing applied\n" else Outcomes.report outs ++ "\n")
    Run.say ("\n" ++ kind ++ ":\n" ++ indentLines (w.toYaml.emit 4) "    ")
  let dst := flags.text "render"
  if dst.isEmpty then return .ok ()
  render a dst

end Theming.Program
