import Theming.Text.Printable
import Theming.Text.Utf8

/-!
# Quoted texts

A quoted text is written between double quotes. Inside, a double quote and a backslash are
preceded by a backslash, printable characters stand as they are, the seven control characters
with a letter name are written `\a \b \f \n \r \t \v`, other characters below space and DEL are
written `\x` and two hex digits, and every other character is written `\u` and four hex digits,
or `\U` and eight above U+FFFF. Hex digits are lower case.
-/

set_option autoImplicit false

namespace Theming.Text.Quoted

open Theming.Text.Printable

/-- The lower-case hex digit of a number below 16. -/
def hexDigit (n : Nat) : Char :=
  if n < 10 then Char.ofNat (48 + n) else Char.ofNat (87 + n)

/-- The last `width` hex digits of `n`, most significant first. -/
def hexDigits (width n : Nat) : List Char :=
  (List.range width).reverse.map fun i => hexDigit (n / Nat.pow 16 i % 16)

/-- How one character is written inside a quoted text. -/
def escapeChar (c : Char) : List Char :=
  if c = '"' || c = '\\' then ['\\', c]
  else if isPrintable c then [c]
  else match c.toNat with
    | 7 => ['\\', 'a']
    | 8 => ['\\', 'b']
    | 12 => ['\\', 'f']
    | 10 => ['\\', 'n']
    | 13 => ['\\', 'r']
    | 9 => ['\\', 't']
    | 11 => ['\\', 'v']
    | n =>
      if n < 0x20 || n == 0x7F then '\\' :: 'x' :: hexDigits 2 n
      else if n < 0x10000 then '\\' :: 'u' :: hexDigits 4 n
      else '\\' :: 'U' :: hexDigits 8 n

/-- The quoted form of a text. -/
def quote (s : String) : String :=
  String.ofList ('"' :: (s.toList.flatMap escapeChar ++ ['"']))

/-- How bytes are written inside a quoted text: each well-formed UTF-8 sequence as its
character, and each byte that starts none as `\x` and two hex digits. -/
def escapeBytes (bs : List UInt8) : List Char :=
  match h : Utf8.validWidth bs with
  | 0 => match bs with
    | [] => []
    | b :: r => '\\' :: 'x' :: hexDigits 2 b.toNat ++ escapeBytes r
  | w + 1 => (Utf8.decode (bs.take (w + 1))).flatMap escapeChar ++ escapeBytes (bs.drop (w + 1))
termination_by bs.length
decreasing_by
  · simp
  · have : bs ≠ [] := by
      intro e
      simp [e, Utf8.validWidth] at h
    have : 0 < bs.length := List.length_pos_iff.mpr this
    simp only [List.length_drop]
    omega

/-- The quoted form of bytes, which need not be well-formed UTF-8. -/
def quoteBytes (bs : List UInt8) : String :=
  String.ofList ('"' :: (escapeBytes bs ++ ['"']))

end Theming.Text.Quoted
