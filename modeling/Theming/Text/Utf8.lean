/-!
# UTF-8 bytes and the characters they spell

Theme text arrives as bytes and is measured in bytes, so the scanner works on `List UInt8`.
This module reads those bytes back as characters in two ways:

* `Utf8.decode` is the strict reading: a well-formed sequence gives its scalar value, and every
  byte that starts no well-formed sequence stands for one replacement character U+FFFD. This is
  how texts with stray bytes are shown and how characters are counted.
* `Utf8.leadWidth` is the lenient width of the sequence at the head, judged from the lead byte
  alone. Positions inside a line advance by it.

`Utf8.encode` is the inverse direction for texts that are already characters.
-/

set_option autoImplicit false

namespace Theming.Text.Utf8

/-- The replacement character shown for a byte that starts no well-formed sequence. -/
def replacement : Char := '�'

/-- A byte that continues a multi-byte sequence has the form `10xxxxxx`. -/
def isContinuation (b : UInt8) : Bool := 0x80 ≤ b && b < 0xC0

/-- The second byte allowed after a three-byte lead: `E0` needs `A0`–`BF` (no overlong forms),
`ED` needs `80`–`9F` (no surrogates), the others take any continuation byte. -/
def secondOfThree (b0 b1 : UInt8) : Bool :=
  if b0 == 0xE0 then 0xA0 ≤ b1 && b1 < 0xC0
  else if b0 == 0xED then 0x80 ≤ b1 && b1 < 0xA0
  else isContinuation b1

/-- The second byte allowed after a four-byte lead: `F0` needs `90`–`BF` (no overlong forms),
`F4` needs `80`–`8F` (nothing above U+10FFFF), `F1`–`F3` take any continuation byte. -/
def secondOfFour (b0 b1 : UInt8) : Bool :=
  if b0 == 0xF0 then 0x90 ≤ b1 && b1 < 0xC0
  else if b0 == 0xF4 then 0x80 ≤ b1 && b1 < 0x90
  else isContinuation b1

/-- The low six bits of a continuation byte. -/
def payload (b : UInt8) : Nat := b.toNat % 64

/-- Strict decoding: well-formed sequences become their characters, and each byte that starts no
well-formed sequence becomes one `replacement`. -/
def decode : List UInt8 → List Char
  | [] => []
  | b0 :: r =>
    if b0 < 0x80 then Char.ofNat b0.toNat :: decode r
    else if 0xC2 ≤ b0 && b0 < 0xE0 then
      match hr : r with
      | b1 :: r1 =>
        if isContinuation b1 then
          Char.ofNat ((b0.toNat % 32) * 64 + payload b1) :: decode r1
        else replacement :: decode r
      | [] => [replacement]
    else if 0xE0 ≤ b0 && b0 < 0xF0 then
      match hr : r with
      | b1 :: b2 :: r2 =>
        if secondOfThree b0 b1 && isContinuation b2 then
          Char.ofNat ((b0.toNat % 16) * 4096 + payload b1 * 64 + payload b2) :: decode r2
        else replacement :: decode r
      | _ => replacement :: decode r
    else if 0xF0 ≤ b0 && b0 < 0xF5 then
      match hr : r with
      | b1 :: b2 :: b3 :: r3 =>
        if secondOfFour b0 b1 && isContinuation b2 && isContinuation b3 then
          Char.ofNat ((b0.toNat % 8) * 262144 + payload b1 * 4096 + payload b2 * 64 + payload b3)
            :: decode r3
        else replacement :: decode r
      | _ => replacement :: decode r
    else replacement :: decode r
termination_by bs => bs.length
decreasing_by all_goals simp_all only [List.length_cons]; all_goals omega

/-- The width of the well-formed sequence at the head of `bs`, or zero when the head byte
starts none (or there is no head). -/
def validWidth : List UInt8 → Nat
  | [] => 0
  | b0 :: r =>
    if b0 < 0x80 then 1
    else if 0xC2 ≤ b0 && b0 < 0xE0 then
      match r with
      | b1 :: _ => if isContinuation b1 then 2 else 0
      | [] => 0
    else if 0xE0 ≤ b0 && b0 < 0xF0 then
      match r with
      | b1 :: b2 :: _ => if secondOfThree b0 b1 && isContinuation b2 then 3 else 0
      | _ => 0
    else if 0xF0 ≤ b0 && b0 < 0xF5 then
      match r with
      | b1 :: b2 :: b3 :: _ =>
        if secondOfFour b0 b1 && isContinuation b2 && isContinuation b3 then 4 else 0
      | _ => 0
    else 0

/-- The text spelled by the bytes, read strictly (see `decode`). -/
def toText (bs : List UInt8) : String := String.ofList (decode bs)

/-- The bytes of a text. -/
def encode (s : String) : List UInt8 := s.toUTF8.toList

/-- Whether the bytes are well-formed UTF-8 throughout. -/
def isValid (bs : List UInt8) : Bool := encode (toText bs) == bs

/-- The lenient width of the sequence at the head of `bs`, judged from the lead byte: below `C0`
one byte, below `E0` two, below `F0` three, else four; a sequence whose next byte is missing or
zero is cut short (one byte after a lead, three after a four-byte lead). -/
def leadWidth (bs : List UInt8) : Nat :=
  match bs with
  | [] => 0
  | c :: r =>
    if c < 0xC0 || r.getD 0 0 == 0 then 1
    else if c < 0xE0 then 2
    else if c < 0xF0 || r.getD 1 0 == 0 then 3
    else 4

/-- The scalar value that the lenient reading gives to the head of `bs` (only the three-byte
form matters to its callers, which look for the line separators U+2028 and U+2029). -/
def leadValue (bs : List UInt8) : Nat :=
  match bs with
  | [] => 0
  | c :: r =>
    let b1 := r.getD 0 0
    let b2 := r.getD 1 0
    let b3 := r.getD 2 0
    match leadWidth bs with
    | 2 => (c.toNat % 32) * 64 + payload b1
    | 3 => (c.toNat % 16) * 4096 + payload b1 * 64 + payload b2
    | 4 => (c.toNat % 8) * 262144 + payload b1 * 4096 + payload b2 * 64 + payload b3
    | _ => c.toNat

theorem leadWidth_pos {c : UInt8} {r : List UInt8} : 0 < leadWidth (c :: r) := by
  simp only [leadWidth]
  split
  · decide
  · split
    · decide
    · split <;> decide

end Theming.Text.Utf8
