import Theming.Value.Value
import Theming.Value.Decoding
import Theming.Sheet.RawValue
import Theming.Log.Entry

/-!
# Coercion

The coercion engine turns a written value into a typed value for a destination type. It reads
images and fonts through a resource provider and resolves font families with a font book.

* `nil` fits only a destination that accepts it, and clears it.
* Texts take strings and names.
* Reals and integers take numbers, and names of constants of the destination's enumeration;
  integers drop the fraction.
* Enumerations take names of their constants, and whole numbers that are among their values.
* Truth values take truth literals; rectangles take `CGRect` with four numbers and sizes
  `CGSize` with two.
* Colors (plain or graphics) take color names, `#hex` literals, `rgb` with three or four
  channels, and strings naming an image whose average color they take as a pattern.
* Images and views take strings and images with cap insets, naming an image resource.
* Fonts take fonts (family and positive size) and strings holding a family and size.

Everything else is a coercion failure, which names the destination type, the written kind and,
when there is one, the underlying cause.

Coercions run traced: an engine whose provider is a cache remembers, across coercions, the
resources found and the names not found (other failures are asked again), and every step leaves
log entries: `Resource cached` when the cache takes a new answer, `Image loaded`, `Font family
not found, using default`, and `Unable to coerce value` for each coercion failure. The plain
coercion is the traced one run from an empty trace.
-/

set_option autoImplicit false

namespace Theming.Value

open Theming.Text Theming.Number Theming.Sheet Theming.Resource

/-- The resources and the font book a coercion uses. -/
structure Engine where
  resources : Provider := .nothing
  fonts : FontBook := FontBook.standard
  deriving Inhabited

/-- What coercions leave behind: the answers the engine's cache remembers, and log entries. -/
structure Trace where
  memo : List (String × Fetched) := []
  entries : Array Theming.Log.Entry := #[]
  deriving Inhabited

/-- A computation that leaves a trace. -/
abbrev Traced := StateM Trace

/-- Adds a log entry to the trace. -/
def Trace.note (e : Theming.Log.Entry) : Traced Unit :=
  modify fun t => { t with entries := t.entries.push e }

/-- The logger of coercions. -/
def coerceLogger : String := "theme.coerce"

/-- The logger of resource caches. -/
def cacheLogger : String := "resources"

/-- The bytes of a named resource, or the fault of not getting them. -/
def fetchedData : Fetched → Except Fault (List UInt8)
  | .found data => .ok data
  | .missing missing => .error (.notFound missing)
  | .failed message => .error (.plain message)

/-- The bytes of a named resource of a provider, or the fault of not getting them. -/
def fetchData (p : Provider) (name : String) : Except Fault (List UInt8) :=
  fetchedData (p.fetch name)

namespace Engine

/-- Asks the engine's resources for a name. A cache at the top answers from the trace when it
can, and otherwise remembers what its provider found or did not find. -/
def fetch (e : Engine) (name : String) : Traced Fetched :=
  match e.resources with
  | .cached inner => do
    match (← get).memo.lookup name with
    | some answer => pure answer
    | none =>
      let answer := inner.fetch name
      match answer with
      | .failed _ => pure answer
      | _ =>
        modify fun t => { t with memo := t.memo ++ [(name, answer)] }
        Trace.note (.debug cacheLogger "Resource cached")
        pure answer
  | p => pure (p.fetch name)

/-- The failure to fit a written value to a type, with an optional cause. -/
def mismatch (raw : RawValue) (dst : ValueType) (cause : Option Fault) : Fault :=
  .coercion dst raw.kind "" cause

/-- The value of a name in the destination's enumeration. -/
def constant (raw : RawValue) (dst : ValueType) : Except Fault Int :=
  match dst.enumeration with
  | none => .error (mismatch raw dst none)
  | some e =>
    match e.lookup? raw.text with
    | some v => .ok v
    | none => .error (.unknownEnum e.name raw.text "")

/-- The image a written value names, with its cap insets when four are given. -/
def image (e : Engine) (raw : RawValue) : Traced (Except Fault Image) := do
  let answer ← e.fetch raw.text
  let result : Except Fault Image := do
    let data ← fetchedData answer
    let img ← (Image.ofBytes raw.text data).mapError Fault.plain
    match raw.insets with
    | [t, l, b, r] => pure (img.withInsets ⟨t, l, b, r⟩)
    | _ => pure img
  if result matches .ok _ then Trace.note (.debug coerceLogger "Image loaded")
  pure result

/-- A color destination. -/
def color (e : Engine) (raw : RawValue) (dst : ValueType) : Traced (Except Fault Value) :=
  match raw.kind with
  | .ident =>
    pure <| match Color.ofName? raw.text with
    | some c => .ok (.color c)
    | none => .error (mismatch raw dst (some (.plain ("unknown color name " ++ Quoted.quote raw.text))))
  | .color =>
    pure <| if raw.isHex then
      match Color.ofHex raw.text with
      | .ok c => .ok (.color c)
      | .error err => .error (mismatch raw dst (some (.plain err.message)))
    else
      match raw.numbers with
      | [r, g, b] => .ok (.color (Color.ofBytes r g b 255))
      | [r, g, b, a] => .ok (.color (Color.ofBytes r g b a))
      | ns => .error (mismatch raw dst
          (some (.plain ("rgb takes 3 or 4 channels, got " ++ toString ns.length))))
  | .string => do
    match ← e.image raw with
    | .error err => pure (.error (mismatch raw dst (some err)))
    | .ok img =>
      pure <| match Color.ofPattern img with
      | .ok c => .ok (.color c)
      | .error err => .error (mismatch raw dst (some (.plain err)))
  | _ => pure (.error (mismatch raw dst none))

/-- A font destination. -/
def font (e : Engine) (raw : RawValue) (dst : ValueType) : Traced (Except Fault Value) := do
  let spec : Except Fault (String × Float) := match raw.kind with
    | .string =>
      match parseFontSpec raw.text with
      | .ok spec => .ok spec
      | .error err => .error (mismatch raw dst (some (.plain err)))
    | .font =>
      if raw.number ≤ 0 then
        .error (mismatch raw dst (some (.plain ("font " ++ Quoted.quote raw.render ++ ": size must be positive"))))
      else .ok (raw.text, raw.number)
    | _ => .error (mismatch raw dst none)
  match spec with
  | .error err => pure (.error err)
  | .ok (family, size) =>
    match ← e.fonts.resolveWith family size (some e.fetch) with
    | .ok f =>
      if f.fallback then Trace.note (.debug coerceLogger "Font family not found, using default")
      pure (.ok (.font f))
    | .error err => pure (.error (mismatch raw dst (some err)))

/-- Whether a double has no fraction, read from its bits: an infinity, or a finite double whose
significand has no bits below the binary point. Not-a-number is not whole. -/
def isWhole (x : Float) : Bool :=
  let bits : Nat := x.toBits.toNat
  let biased : Nat := bits / Nat.pow 2 52 % 2048
  let fraction : Nat := bits % Nat.pow 2 52
  if biased = 2047 then fraction == 0
  else
    let m : Nat := if biased = 0 then fraction else fraction + Nat.pow 2 52
    decide (1075 ≤ biased) || m % Nat.pow 2 (1075 - max biased 1) == 0

/-- Coerces a written value to a destination type, without noting failures. -/
def coerceStep (e : Engine) (raw : RawValue) (dst : ValueType) : Traced (Except Fault Value) :=
  if raw.kind == .nil then
    pure (if dst.nullable then .ok .null else .error (mismatch raw dst none))
  else
    let fail : Except Fault Value := .error (mismatch raw dst none)
    match dst.kind with
    | .text =>
      pure (if raw.kind == .string || raw.kind == .ident then .ok (.text raw.text) else fail)
    | .real | .integer => pure do
      let f ← match raw.kind with
        | .number => pure raw.number
        | .ident => do
          let v ← constant raw dst
          pure (Float.ofInt v)
        | _ => throw (mismatch raw dst none)
      if dst.kind == .integer then pure (.int (truncateToInt64 f)) else pure (.real f)
    | .enum =>
      pure <| match raw.kind with
      | .ident => (constant raw dst).map Value.enum
      | .number =>
        let n := raw.number
        let name := (dst.enumeration.map (·.name)).getD ""
        let v := truncateToInt64 n
        let known := match dst.enumeration with
          | some en => en.contains v
          | none => false
        if !isWhole n || !known then .error (.unknownEnum name (plainText n) "")
        else .ok (.enum v)
      | _ => fail
    | .boolean => pure (if raw.kind == .boolean then .ok (.bool raw.bool) else fail)
    | .color | .graphicsColor => e.color raw dst
    | .rect =>
      pure <| match raw.kind, raw.numbers with
      | .rect, [x, y, w, h] => .ok (.rect x y w h)
      | _, _ => fail
    | .size =>
      pure <| match raw.kind, raw.numbers with
      | .size, [w, h] => .ok (.size w h)
      | _, _ => fail
    | .image =>
      if raw.kind == .string || raw.kind == .image then do
        let r ← e.image raw
        pure (r.map Value.image |>.mapError fun err => mismatch raw dst (some err))
      else pure fail
    | .view =>
      if raw.kind == .string || raw.kind == .image then do
        let r ← e.image raw
        pure (r.map Value.view |>.mapError fun err => mismatch raw dst (some err))
      else pure fail
    | .font => e.font raw dst
    | .object => pure fail

/-- Coerces a written value to a destination type, noting each coercion failure (a name that is
not a constant of an enumeration is not one). -/
def coerceTraced (e : Engine) (raw : RawValue) (dst : ValueType) : Traced (Except Fault Value) := do
  let r ← e.coerceStep raw dst
  match r with
  | .error err =>
    if err.unknownEnum?.isNone then Trace.note (.debug coerceLogger "Unable to coerce value")
  | .ok _ => pure ()
  pure r

/-- Coerces a written value to a destination type. -/
def coerce (e : Engine) (raw : RawValue) (dst : ValueType) : Except Fault Value :=
  ((e.coerceTraced raw dst).run {}).run.1

end Engine

end Theming.Value
