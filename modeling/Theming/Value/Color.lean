import Theming.Value.Image
import Theming.Number.Convert
import Theming.Number.Read
import Theming.Text.Utf8

/-!
# Colors

A color has red, green, blue and alpha channels, nominally in `[0, 1]`. Colors are written in
theme text as `#rrggbb`, `#rrggbbaa`, `rgb(r, g, b[, a])` with channels from 0 to 255, or by the
name of a color constructor (`redColor`). A pattern color is filled with an image; its channels
are the image's average color.

The 8-bit form of a color clamps each channel to `[0, 1]`; red, green and blue become
`⌊255 c + 1/2⌋` and alpha its nearest byte (halves away from zero). The hex form writes the three
color bytes, and the alpha byte only when it is not `ff`.
-/

set_option autoImplicit false

namespace Theming.Value

open Theming.Text Theming.Number

/-- A color: four channels, and the image of a pattern color. -/
structure Color where
  r : Float
  g : Float
  b : Float
  a : Float
  pattern : Option Image := none
  deriving Inhabited

/-- Why a hex color text was refused. -/
inductive HexError where
  /-- The text does not have seven or nine characters. -/
  | length (text : String)
  /-- The text does not start with `#`. -/
  | noHash (text : String)
  /-- A color digit pair that is not hexadecimal. -/
  | channel (text : String) (pair : String)
  /-- An alpha digit pair that is not hexadecimal. -/
  | alpha (text : String) (pair : String)
  deriving Repr, BEq

/-- The message of a hex color error. -/
def HexError.message : HexError → String
  | .length text => "color " ++ Quoted.quote text ++ ": expected #RRGGBB or #RRGGBBAA"
  | .noHash text => "color: " ++ text ++ " is not a hex-color"
  | .channel text pair => "color: " ++ text ++ " is not a hex-color: strconv.ParseUint: parsing " ++
      Quoted.quote pair ++ ": invalid syntax"
  | .alpha text pair => "bad alpha in " ++ Quoted.quote text ++ ": strconv.ParseUint: parsing " ++
      Quoted.quote pair ++ ": invalid syntax"

namespace Color

/-- A channel clamped to `[0, 1]`; not-a-number stays. -/
def clamp01 (x : Float) : Float :=
  if x.isNaN then x else if x ≤ 0 then 0 else if x ≥ 1 then 1 else x

/-- A 0–255 channel scaled to `[0, 1]` by multiplying with `1/255`, then clamped. -/
def scale (v : Float) : Float := clamp01 (v * (1.0 / 255.0))

/-- The color of 0–255 channels. -/
def ofBytes (r g b a : Float) : Color := ⟨scale r, scale g, scale b, scale a, none⟩

/-- The byte of a color channel: clamped, times 255, plus a half, fraction cut off. -/
def channelByte (x : Float) : Nat := truncateToByte (clamp01 x * 255.0 + 0.5)

/-- The byte of the alpha channel: clamped, times 255, rounded half away from zero. -/
def alphaByte (x : Float) : Nat := truncateToByte (roundHalfAway (clamp01 x * 255.0))

/-- The 8-bit channels red, green, blue and alpha. -/
def bytes (c : Color) : List Nat := [channelByte c.r, channelByte c.g, channelByte c.b, alphaByte c.a]

/-- Two lower-case hex digits. -/
def hexPair (n : Nat) : String := String.ofList (Quoted.hexDigits 2 n)

/-- `#rrggbb`, with `aa` appended when the alpha byte is not `ff`. -/
def hex (c : Color) : String :=
  let a := alphaByte c.a
  "#" ++ hexPair (channelByte c.r) ++ hexPair (channelByte c.g) ++ hexPair (channelByte c.b) ++
    (if a == 255 then "" else hexPair a)

/-- The written form: the hex form, or `pattern(name hex)` for a pattern color. -/
def render (c : Color) : String :=
  match c.pattern with
  | some img => "pattern(" ++ img.name ++ " " ++ c.hex ++ ")"
  | none => c.hex

/-- Whether two colors agree within a small tolerance: the color channels differ by less than
`3/255` in total and alpha by less than `1/512`. Patterns are ignored. -/
def almostEqual (c d : Color) : Bool :=
  (c.r - d.r).abs + (c.g - d.g).abs + (c.b - d.b).abs < 3.0 * (1.0 / 255.0) &&
    (c.a - d.a).abs < 1.0 / 512

/-- The value of two hex digit bytes. -/
def pairValue (bs : List UInt8) : Option Nat :=
  match bs with
  | [h, l] => do
    let h ← digitValue 16 (Char.ofNat h.toNat)
    let l ← digitValue 16 (Char.ofNat l.toNat)
    pure (h * 16 + l)
  | _ => none

/-- Reads a color written `#rrggbb` or `#rrggbbaa` (hex digits in either case). The text is
measured and cut in bytes. -/
def ofHex (s : String) : Except HexError Color :=
  let bs := Utf8.encode s
  let len := bs.length
  if len != 7 && len != 9 then .error (.length s)
  else
    let body := Utf8.toText (bs.take 7)
    if bs.head? != some 35 then .error (.noHash body)
    else
      let pair (i : Nat) : List UInt8 := (bs.drop i).take 2
      let shown (i : Nat) : String := Utf8.toText (pair i)
      match pairValue (pair 1), pairValue (pair 3), pairValue (pair 5) with
      | some r, some g, some b =>
        let third (n : Nat) : Float := n.toFloat * (1.0 / 255.0)
        if len == 7 then .ok ⟨third r, third g, third b, 1, none⟩
        else match pairValue (pair 7) with
          | some a => .ok ⟨third r, third g, third b, scale a.toFloat, none⟩
          | none => .error (.alpha s (shown 7))
      | none, _, _ => .error (.channel body (shown 1))
      | _, none, _ => .error (.channel body (shown 3))
      | _, _, none => .error (.channel body (shown 5))

/-- The colors made by the named constructors. -/
def named : List (String × Color) :=
  let gray (w a : Float) : Color := ⟨w, w, w, a, none⟩
  let rgb (r g b : Float) : Color := ⟨r, g, b, 1, none⟩
  [("blackColor", gray 0 1), ("darkGrayColor", gray (1.0 / 3) 1),
    ("lightGrayColor", gray (2.0 / 3) 1), ("whiteColor", gray 1 1), ("grayColor", gray 0.5 1),
    ("clearColor", gray 0 0), ("darkTextColor", gray 0 1), ("lightTextColor", gray 1 0.6),
    ("redColor", rgb 1 0 0), ("greenColor", rgb 0 1 0), ("blueColor", rgb 0 0 1),
    ("cyanColor", rgb 0 1 1), ("yellowColor", rgb 1 1 0), ("magentaColor", rgb 1 0 1),
    ("orangeColor", rgb 1 0.5 0), ("purpleColor", rgb 0.5 0 0.5), ("brownColor", rgb 0.6 0.4 0.2),
    ("groupTableViewBackgroundColor", rgb 0.937 0.937 0.957),
    ("viewFlipsideBackgroundColor", rgb 0.122 0.129 0.141),
    ("scrollViewTexturedBackgroundColor", rgb 0.435 0.443 0.475)]

/-- The color of a named constructor. -/
def ofName? (name : String) : Option Color := named.lookup name

end Color

end Theming.Value
