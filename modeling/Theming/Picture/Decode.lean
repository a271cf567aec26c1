import Theming.Picture.Png
import Theming.Picture.Gif
import Theming.Picture.Bmp
import Theming.Picture.Tiff
import Theming.Picture.Webp
import Theming.Picture.Jpeg

/-!
# Decoding pictures

The decoder of a picture is chosen by the first bytes of its data: the PNG signature, `GIF8?a`,
the JPEG start-of-image marker, `BM` followed by four bytes and four zero bytes, a TIFF byte
order mark, or a RIFF container of WebP data (`?` stands for any byte). Data that starts with
none of them is of an unknown format.
-/

set_option autoImplicit false

namespace Theming.Picture

/-- The picture codecs. -/
inductive Codec where
  | png
  | gif
  | jpeg
  | bmp
  | tiff
  | webp
  deriving Repr, BEq, DecidableEq, Inhabited

namespace Codec

/-- Whether data starts with a pattern, where `none` matches any byte. -/
def startsLike (data : ByteArray) (pattern : List (Option Nat)) : Bool :=
  data.size ≥ pattern.length &&
    (pattern.zipIdx.all fun (p, i) => match p with
      | some b => (data.get! i).toNat == b
      | none => true)

/-- The patterns of each codec, in the order they are tried. -/
def patterns : List (Codec × List (Option Nat)) :=
  let lit (s : List Nat) : List (Option Nat) := s.map some
  [(.png, lit [0x89, 0x50, 0x4E, 0x47, 0x0D, 0x0A, 0x1A, 0x0A]),
   (.gif, lit [0x47, 0x49, 0x46, 0x38] ++ [none] ++ lit [0x61]),
   (.jpeg, lit [0xFF, 0xD8]),
   (.bmp, lit [0x42, 0x4D] ++ [none, none, none, none] ++ lit [0, 0, 0, 0]),
   (.tiff, lit [0x4D, 0x4D, 0x00, 0x2A]),
   (.tiff, lit [0x49, 0x49, 0x2A, 0x00]),
   (.webp, lit [0x52, 0x49, 0x46, 0x46] ++ [none, none, none, none] ++
     lit [0x57, 0x45, 0x42, 0x50, 0x56, 0x50, 0x38])]

/-- The codec of data, by its first bytes. -/
def sniff (data : ByteArray) : Option Codec :=
  (patterns.find? fun (_, p) => startsLike data p).map (·.1)

end Codec

/-- The failure for data of no known format. -/
def unknownFormat : String := "image: unknown format"

/-- Decodes a picture. -/
def decodePicture (data : ByteArray) : Except String Raster :=
  match Codec.sniff data with
  | some .png => Png.decode data
  | some .gif => Gif.decode data
  | some .jpeg => Jpeg.decode data
  | some .bmp => Bmp.decode data
  | some .tiff => Tiff.decode data
  | some .webp => Webp.decode data
  | none => .error unknownFormat

/-- The width and height of a picture, read from its header. -/
def pictureSize (data : ByteArray) : Except String (Nat × Nat) :=
  match Codec.sniff data with
  | some .png => Png.dimensions data
  | some .gif => Gif.dimensions data
  | some .jpeg => Jpeg.dimensions data
  | some .bmp => Bmp.dimensions data
  | some .tiff => Tiff.dimensions data
  | some .webp => Webp.dimensions data
  | none => .error unknownFormat

end Theming.Picture
