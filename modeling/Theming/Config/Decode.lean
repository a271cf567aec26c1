import Theming.Config.Settings
import Theming.Yaml.Parse

/-!
# Reading settings from YAML

A YAML document is laid over existing settings: each key of a mapping sets the field of that
name and leaves the others as they were. A null value leaves a field as it was (an empty list
for the extra font families). Texts take any scalar; truth values take `true`, `false` and the
old words `yes`, `no`, `on`, `off` (and their forms) when unquoted; integers take integers and
doubles, whose fraction is dropped; the output format and the fallback policy take the names of
their values.

Decoding goes on past problems of a field and reports them all together, one per line, in
document order:

* `line N: field K not found in type T` for a key that names no field;
* `line N: field K already set in type T` for a key given twice;
* `line N: cannot unmarshal !!tag `text` into T` for a value of the wrong kind (texts longer
  than 10 bytes shortened to 7 and `...`; no text for collections).

A name that is not one of an enumeration's values stops decoding at once with its own message,
and a text without a document gives `EOF`.
-/

set_option autoImplicit false

namespace Theming.Config

open Theming.Value Theming.Yaml

/-- Decoding: problems gathered so far, or one that stops decoding. -/
abbrev Decoding := StateT (List String) (Except String)

/-- The tag of a node: its explicit tag, `!!str` for quoted and block scalars, the type a plain
scalar resolves to, and `!!seq` or `!!map` for collections. -/
def tagOf : Node → String
  | .scalar m v s =>
    if !m.tag.isEmpty then m.tag
    else if s == .plain then (resolve v).tag else "!!str"
  | .sequence m _ _ => if m.tag.isEmpty then "!!seq" else m.tag
  | .mapping m _ _ => if m.tag.isEmpty then "!!map" else m.tag

/-- Whether a node is a null scalar. -/
def isNull (n : Node) : Bool :=
  match n with
  | .scalar _ _ _ => tagOf n == "!!null"
  | _ => false

/-- Notes a problem of a field. -/
def note (problem : String) : Decoding Unit := modify (· ++ [problem])

/-- The first bytes of a text; each byte of a character cut in two shows as a replacement
character. -/
def firstBytes (n : Nat) (s : String) : String :=
  let rec go : List Char → Nat → List Char → List Char
    | [], _, acc => acc.reverse
    | c :: rest, room, acc =>
      if c.utf8Size ≤ room then go rest (room - c.utf8Size) (c :: acc)
      else acc.reverse ++ List.replicate room (Char.ofNat 0xFFFD)
  String.ofList (go s.toList n [])

/-- The problem of a value of the wrong kind for a type. -/
def kindProblem (n : Node) (typeName : String) : String :=
  let tag := tagOf n
  let shown :=
    if tag == "!!seq" || tag == "!!map" then ""
    else
      let v := n.value
      if v.utf8ByteSize > 10 then " `" ++ firstBytes 7 v ++ "...`"
      else " `" ++ v ++ "`"
  "line " ++ toString n.line ++ ": cannot unmarshal " ++ tag ++ shown ++ " into " ++ typeName

/-- A text field. -/
def decodeText (n : Node) (old : String) : Decoding String :=
  match n with
  | .scalar _ v _ => pure (if isNull n then old else v)
  | _ => do note (kindProblem n "string"); pure old

/-- The old truth words and their values. -/
def oldTruthWords : List (String × Bool) :=
  [("y", true), ("Y", true), ("yes", true), ("Yes", true), ("YES", true), ("on", true),
   ("On", true), ("ON", true), ("n", false), ("N", false), ("no", false), ("No", false),
   ("NO", false), ("off", false), ("Off", false), ("OFF", false)]

/-- A truth value field. -/
def decodeBool (n : Node) (old : Bool) : Decoding Bool :=
  match n with
  | .scalar _ v s =>
    if isNull n then pure old
    else
      match (if tagOf n == "!!bool" then resolve v else .str) with
      | .bool b => pure b
      | _ =>
        match (if s == .plain then oldTruthWords.lookup v else none) with
        | some b => pure b
        | none => do note (kindProblem n "bool"); pure old
  | _ => do note (kindProblem n "bool"); pure old

/-- The largest 64-bit signed integer, plus one. -/
def int64Bound : Int := Int.pow 2 63

/-- A double made an integer: the fraction dropped, out of range values at the lowest. -/
def truncateDouble (x : Float) : Int :=
  let t := if x ≥ 0 then x.floor else x.ceil
  if t < -9223372036854775808.0 || t ≥ 9223372036854775808.0 then -int64Bound
  else if t ≥ 0 then (t.toUInt64.toNat : Int) else -(((-t).toUInt64.toNat : Nat) : Int)

/-- An integer field. -/
def decodeInt (n : Node) (old : Int) : Decoding Int :=
  match n with
  | .scalar _ v _ =>
    if isNull n then pure old
    else
      let tag := tagOf n
      match (if tag == "!!int" || tag == "!!float" then resolve v else .str) with
      | .int i =>
        if -int64Bound ≤ i && i < int64Bound then pure i
        else do note (kindProblem n "int"); pure old
      | .float x =>
        if x ≤ 9223372036854775808.0 then pure (truncateDouble x)
        else do note (kindProblem n "int"); pure old
      | _ => do note (kindProblem n "int"); pure old
  | _ => do note (kindProblem n "int"); pure old

/-- A field holding a value of an enumeration, read from its name; a name that is not one of
the values stops decoding. -/
def decodeNamed {α : Type} (n : Node) (typeName : String) (parse : String → Except String α)
    (old : α) : Decoding α :=
  match n with
  | .scalar _ v _ =>
    if isNull n then pure old
    else
      match parse v with
      | .ok x => pure x
      | .error e => throw e
  | _ => do note (kindProblem n typeName); pure old

/-- A list of texts; null items are dropped. -/
def decodeTexts (n : Node) (old : List String) : Decoding (List String) :=
  match n with
  | .sequence _ items _ =>
    items.foldlM (fun acc item =>
      match item with
      | .scalar _ v _ => pure (if isNull item then acc else acc ++ [v])
      | _ => do note (kindProblem item "string"); pure acc) []
  | .scalar _ _ _ => if isNull n then pure [] else do note (kindProblem n "[]string"); pure old
  | _ => do note (kindProblem n "[]string"); pure old

/-- How one field of a record is read. -/
abbrev FieldReader (σ : Type) := Node → σ → Decoding σ

/-- A record read from a mapping, field by field; unknown and repeated keys are problems. -/
def decodeRecord {σ : Type} (typeName : String) (fields : List (String × FieldReader σ))
    (n : Node) (old : σ) : Decoding σ :=
  match n with
  | .mapping _ entries _ => do
    let (value, _) ← entries.foldlM (fun (acc : σ × List String) (k, v) => do
      let (cur, done) := acc
      let key := k.value
      match fields.lookup key with
      | none =>
        note ("line " ++ toString k.line ++ ": field " ++ key ++ " not found in type " ++ typeName)
        pure (cur, done)
      | some read =>
        if done.contains key then
          note ("line " ++ toString k.line ++ ": field " ++ key ++ " already set in type " ++ typeName)
          pure (cur, done)
        else do
          let cur ← read v cur
          pure (cur, done ++ [key])) (old, [])
    pure value
  | _ => if isNull n then pure old else do note (kindProblem n typeName); pure old

/-- Reading font settings. -/
def fontFields : List (String × FieldReader FontSettings) :=
  [("default", fun n s => do pure { s with default := ← decodeText n s.default }),
   ("fallback", fun n s => do
      pure { s with fallback := ← decodeNamed n "value.FallbackPolicy" (fun t =>
        (FallbackPolicy.naming.parse t).map fun i => if i == 1 then .fail else .default) s.fallback }),
   ("extra", fun n s => do pure { s with extra := ← decodeTexts n s.extra })]

/-- Reading resource settings. -/
def resourceFields : List (String × FieldReader ResourceSettings) :=
  [("dir", fun n s => do pure { s with dir := ← decodeText n s.dir }),
   ("cache", fun n s => do pure { s with cache := ← decodeBool n s.cache })]

/-- Reading theme settings. -/
def themeFields : List (String × FieldReader ThemeSettings) :=
  [("resources", fun n s => do
      pure { s with resources := ← decodeRecord "config.ResourcesConfig" resourceFields n s.resources }),
   ("fonts", fun n s => do
      pure { s with fonts := ← decodeRecord "config.FontsConfig" fontFields n s.fonts })]

/-- Reading apply settings. -/
def applyFields : List (String × FieldReader ApplySettings) :=
  [("widget", fun n s => do pure { s with widget := ← decodeText n s.widget }),
   ("output", fun n s => do
      pure { s with output := ← decodeNamed n "config.OutputFormat" (fun t =>
        (OutputFormat.naming.parse t).map fun i => if i == 1 then .yaml else .text) s.output }),
   ("render_name_template", fun n s => do
      pure { s with renderNameTemplate := ← decodeText n s.renderNameTemplate })]

/-- Reading the settings of one log. -/
def loggerFields : List (String × FieldReader LoggerSettings) :=
  [("level", fun n s => do pure { s with level := ← decodeText n s.level }),
   ("destination", fun n s => do pure { s with destination := ← decodeText n s.destination }),
   ("mode", fun n s => do pure { s with mode := ← decodeText n s.mode })]

/-- Reading log settings. -/
def loggingFields : List (String × FieldReader LoggingSettings) :=
  [("file", fun n s => do pure { s with file := ← decodeRecord "config.LoggerConfig" loggerFields n s.file }),
   ("console", fun n s => do
      pure { s with console := ← decodeRecord "config.LoggerConfig" loggerFields n s.console })]

/-- Reading report settings. -/
def reportFields : List (String × FieldReader ReportSettings) :=
  [("destination", fun n s => do pure { s with destination := ← decodeText n s.destination })]

/-- Reading all settings. -/
def settingsFields : List (String × FieldReader Settings) :=
  [("version", fun n s => do pure { s with version := ← decodeInt n s.version }),
   ("theme", fun n s => do pure { s with theme := ← decodeRecord "config.ThemeConfig" themeFields n s.theme }),
   ("apply", fun n s => do pure { s with apply := ← decodeRecord "config.ApplyConfig" applyFields n s.apply }),
   ("logging", fun n s => do
      pure { s with logging := ← decodeRecord "config.LoggingConfig" loggingFields n s.logging }),
   ("reporting", fun n s => do
      pure { s with reporting := ← decodeRecord "config.ReporterConfig" reportFields n s.reporting })]

/-- Lays a YAML text over settings. -/
def Settings.decode (text : String) (base : Settings) : Except String Settings := do
  match parseDocument text with
  | .error p => throw p.message
  | .ok none => throw "EOF"
  | .ok (some doc) =>
    let (s, problems) ← (decodeRecord "config.Config" settingsFields doc base).run []
    if problems.isEmpty then pure s
    else throw ("yaml: unmarshal errors:\n  " ++ "\n  ".intercalate problems)

end Theming.Config
