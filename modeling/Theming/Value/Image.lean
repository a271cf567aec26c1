import Theming.Text.Quoted
import Theming.Number.Layout

/-!
# Image values

An image value is a named resource whose bytes are a picture, with cap insets that mark which
borders stay fixed when it is stretched. Its format is recognised from the first bytes: the
picture formats by their signatures, and SVG documents by `<svg` among the first 1024 bytes.
Bytes of no known format are not an image.
-/

set_option autoImplicit false

namespace Theming.Value

open Theming.Text

/-- Cap insets: top, left, bottom and right. -/
structure Insets where
  top : Float := 0
  left : Float := 0
  bottom : Float := 0
  right : Float := 0
  deriving Inhabited

namespace Insets

/-- Whether all four insets are zero (a negative zero counts as zero; not-a-number does not). -/
def isZero (i : Insets) : Bool := i.top == 0 && i.left == 0 && i.bottom == 0 && i.right == 0

/-- The insets as a list: top, left, bottom, right. -/
def toList (i : Insets) : List Float := [i.top, i.left, i.bottom, i.right]

/-- The written form `{t, l, b, r}`. -/
def render (i : Insets) : String :=
  "\x7b" ++ ", ".intercalate (i.toList.map Theming.Number.plainText) ++ "\x7d"

end Insets

namespace Signature

/-- The byte at a position, or zero past the end. -/
def byteAt (bs : List UInt8) (i : Nat) : Nat := (bs.getD i 0).toNat

/-- Whether the bytes start with the given ones. -/
def startsWith (bs : List UInt8) (sig : List Nat) : Bool :=
  bs.length ≥ sig.length && (sig.zipIdx.all fun (b, i) => byteAt bs i == b)

/-- The brands of an ISO base media file (`ftyp` box), if the bytes are one: the major brand and
the compatible brands. -/
def mediaBrands (bs : List UInt8) : Option (List UInt8 × List (List UInt8)) :=
  let boxLength := ((byteAt bs 0 * 256 + byteAt bs 1) * 256 + byteAt bs 2) * 256 + byteAt bs 3
  if bs.length < 16 || (bs.drop 4).take 4 != [102, 116, 121, 112] || bs.length < boxLength then
    none
  else if bs.length < 17 then some ([], [])
  else
    let major := (bs.drop 8).take 4
    let compatible := ((List.range boxLength).filter fun i => i ≥ 16 && (i - 16) % 4 == 0 &&
      bs.length ≥ i + 4).map fun i => (bs.drop i).take 4
    some (major, compatible)

/-- Whether an ISO media file has the given brand as its major brand, or lists it among the
compatible brands under a major brand `mif1` or `msf1`. -/
def hasBrand (bs : List UInt8) (brand : String) : Bool :=
  match mediaBrands bs with
  | none => false
  | some (major, compatible) =>
    let b := brand.toUTF8.toList
    major == b || ((major == "mif1".toUTF8.toList || major == "msf1".toUTF8.toList) &&
      compatible.contains b)

/-- A TIFF header, little or big endian. -/
def isTiffHeader (bs : List UInt8) : Bool :=
  startsWith bs [0x49, 0x49, 0x2A, 0x00] || startsWith bs [0x4D, 0x4D, 0x00, 0x2A]

/-- A Canon raw file: a TIFF header with `CR` and version 2 at byte 8. -/
def isCanonRaw (bs : List UInt8) : Bool :=
  bs.length > 10 && isTiffHeader bs && byteAt bs 8 == 0x43 && byteAt bs 9 == 0x52 && byteAt bs 10 == 2

/-- The picture formats known by signature, by their usual file extension. -/
def pictureFormat? (bs : List UInt8) : Option String :=
  if bs.length > 2 && startsWith bs [0xFF, 0xD8, 0xFF] then some "jpg"
  else if bs.length > 12 && startsWith bs [0, 0, 0, 0xC, 0x6A, 0x50, 0x20, 0x20, 0xD, 0xA, 0x87,
      0xA, 0] then some "jp2"
  else if bs.length > 3 && startsWith bs [0x89, 0x50, 0x4E, 0x47] then some "png"
  else if bs.length > 2 && startsWith bs [0x47, 0x49, 0x46] then some "gif"
  else if bs.length > 11 && byteAt bs 8 == 0x57 && byteAt bs 9 == 0x45 && byteAt bs 10 == 0x42 &&
      byteAt bs 11 == 0x50 then some "webp"
  else if isCanonRaw bs then some "cr2"
  else if bs.length > 10 && isTiffHeader bs then some "tif"
  else if bs.length > 1 && startsWith bs [0x42, 0x4D] then some "bmp"
  else if bs.length > 2 && startsWith bs [0x49, 0x49, 0xBC] then some "jxr"
  else if bs.length > 3 && startsWith bs [0x38, 0x42, 0x50, 0x53] then some "psd"
  else if bs.length > 3 && startsWith bs [0, 0, 1, 0] then some "ico"
  else if hasBrand bs "heic" then some "heif"
  else if bs.length > 3 && startsWith bs [0x41, 0x43, 0x31, 0x30] then some "dwg"
  else if bs.length > 3 && startsWith bs [0x76, 0x2F, 0x31, 0x01] then some "exr"
  else if hasBrand bs "avif" then some "avif"
  else none

/-- Whether `<svg` occurs among the first 1024 bytes. -/
def isSvg (bs : List UInt8) : Bool :=
  let head := bs.take 1024
  let needle : List UInt8 := [60, 115, 118, 103]
  (List.range head.length).any fun i => (head.drop i).take 4 == needle

/-- The font formats known by signature. -/
def isFont (bs : List UInt8) : Bool :=
  (bs.length > 7 && startsWith bs [0x77, 0x4F, 0x46, 0x46, 0, 1, 0, 0]) ||
  (bs.length > 7 && startsWith bs [0x77, 0x4F, 0x46, 0x32, 0, 1, 0, 0]) ||
  (bs.length > 4 && startsWith bs [0, 1, 0, 0, 0]) ||
  (bs.length > 4 && startsWith bs [0x4F, 0x54, 0x54, 0x4F, 0])

end Signature

/-- An image: the resource name, its bytes, its format and its cap insets. -/
structure Image where
  name : String
  data : List UInt8
  format : String
  insets : Insets := {}
  deriving Inhabited

namespace Image

/-- Whether the image has cap insets. -/
def resizable (i : Image) : Bool := !i.insets.isZero

/-- The written form: `image("name" format)`, and the cap insets when it has some. -/
def render (i : Image) : String :=
  "image(" ++ Quoted.quote i.name ++ " " ++ i.format ++ ")" ++
    (if i.resizable then " capInsets" ++ i.insets.render else "")

/-- The image of named bytes, if they are a picture or an SVG document; otherwise the cause. -/
def ofBytes (name : String) (data : List UInt8) : Except String Image :=
  match Signature.pictureFormat? data with
  | some format => .ok { name, data, format }
  | none =>
    if Signature.isSvg data then .ok { name, data, format := "svg" }
    else .error ("image " ++ Quoted.quote name ++ ": not an image")

/-- The same image with other cap insets. -/
def withInsets (i : Image) (insets : Insets) : Image := { i with insets }

end Image

end Theming.Value
