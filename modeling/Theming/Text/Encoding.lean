import Theming.Text.Utf8

/-!
# Text encodings

Theme text is UTF-8 unless a byte order mark says otherwise. `FF FE` starts UTF-16 in little
endian order, `FE FF` in big endian order, and `EF BB BF` UTF-8; the mark itself is dropped.

UTF-8 text keeps its well-formed sequences and gets a replacement character for each byte that
starts none. UTF-16 text pairs a lead surrogate with the trail surrogate after it; any other
surrogate, including two trail surrogates in a row, reads as a replacement character (a pair as
one), and an odd byte at the end as one more.
-/

set_option autoImplicit false

namespace Theming.Text.Encoding

/-- The bytes of the replacement character. -/
def replacementBytes : List UInt8 := [0xEF, 0xBF, 0xBD]

/-- The UTF-8 bytes of a scalar value; surrogates give the replacement character. -/
def encodeScalar (n : Nat) : List UInt8 :=
  if 0xD800 ≤ n && n < 0xE000 then replacementBytes
  else Utf8.encode (Char.ofNat n).toString

/-- Whether a code unit is a surrogate. -/
def isSurrogate (u : Nat) : Bool := 0xD800 ≤ u && u < 0xE000

/-- Whether a code unit is a trail surrogate. -/
def isTrail (u : Nat) : Bool := 0xDC00 ≤ u && u < 0xE000

/-- UTF-16 code units as UTF-8 bytes, with the unit order given by `bigEndian`. -/
def utf16 (bigEndian : Bool) : List UInt8 → List UInt8
  | [] => []
  | [_] => replacementBytes
  | a :: b :: rest =>
    let unit (x y : UInt8) : Nat := if bigEndian then x.toNat * 256 + y.toNat else y.toNat * 256 + x.toNat
    let u := unit a b
    if isSurrogate u then
      let v := unit (rest.getD 0 0) (rest.getD 1 0)
      if rest.length ≥ 2 && isTrail v then
        let scalar := if u < 0xDC00 then 0x10000 + (u - 0xD800) * 0x400 + (v - 0xDC00) else 0xFFFD
        encodeScalar scalar ++ utf16 bigEndian (rest.drop 2)
      else replacementBytes ++ utf16 bigEndian rest
    else encodeScalar u ++ utf16 bigEndian rest
termination_by bs => bs.length
decreasing_by all_goals simp only [List.length_cons, List.length_drop]; omega

/-- Text bytes as UTF-8, following a byte order mark. -/
def decodeMarked (data : List UInt8) : List UInt8 :=
  match data with
  | 0xFF :: 0xFE :: rest => utf16 false rest
  | 0xFE :: 0xFF :: rest => utf16 true rest
  | 0xEF :: 0xBB :: 0xBF :: rest => Utf8.encode (Utf8.toText rest)
  | _ => Utf8.encode (Utf8.toText data)

end Theming.Text.Encoding
