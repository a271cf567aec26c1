import Theming.Text.Utf8

/-!
# Natural order

Names that mix letters and numbers are listed the way people read them: `item2` before
`item10`. A name is cut into pieces: each run of decimal digits is one piece, read as a number,
and every other byte is a piece of its own. Names are then compared piece by piece:

* a number comes before a byte;
* two bytes compare by value;
* two numbers compare by value, written without their leading zeros (the one with fewer
  significant digits is smaller, and numbers with as many digits compare digit by digit); equal
  numbers written with fewer leading zeros come first;
* a name that runs out of pieces first comes first.

Different names are cut into different pieces, so the order is strict and total: sorting by it
does not depend on how ties are broken.
-/

set_option autoImplicit false

namespace Theming.Text.Natural

/-- A piece of a name. -/
inductive Piece where
  /-- A run of digits: how many leading zeros it has, and its digits after them. -/
  | number (zeros : Nat) (digits : List UInt8)
  /-- Any byte that is not a digit. -/
  | byte (b : UInt8)
  deriving Repr, BEq, DecidableEq, Inhabited

/-- Whether a byte is a decimal digit. -/
def isDigit (b : UInt8) : Bool := 48 ≤ b && b ≤ 57

/-- Adds a byte to the pieces read so far (latest first, digits of the open number reversed). -/
def push (acc : List Piece) (b : UInt8) : List Piece :=
  if isDigit b then
    match acc with
    | .number z [] :: rest => if b == 48 then .number (z + 1) [] :: rest else .number z [b] :: rest
    | .number z ds :: rest => .number z (b :: ds) :: rest
    | _ => if b == 48 then .number 1 [] :: acc else .number 0 [b] :: acc
  else .byte b :: acc

/-- Puts a piece in reading order: the digits of a number were gathered last first. -/
def Piece.settle : Piece → Piece
  | .number z ds => .number z ds.reverse
  | p => p

/-- The pieces of a name, given as bytes. -/
def pieces (bs : List UInt8) : List Piece :=
  ((bs.foldl push []).map Piece.settle).reverse

/-- Whether one digit string is smaller than another of the same length. -/
def digitsBefore : List UInt8 → List UInt8 → Bool
  | x :: xs, y :: ys => x < y || (x == y && digitsBefore xs ys)
  | _, _ => false

/-- Whether one piece comes before another. -/
def Piece.before : Piece → Piece → Bool
  | .number z₁ d₁, .number z₂ d₂ =>
    if d₁.length != d₂.length then d₁.length < d₂.length
    else if d₁ != d₂ then digitsBefore d₁ d₂
    else z₁ < z₂
  | .number .., .byte _ => true
  | .byte _, .number .. => false
  | .byte x, .byte y => x < y

/-- Whether one list of pieces comes before another. -/
def piecesBefore : List Piece → List Piece → Bool
  | [], [] => false
  | [], _ :: _ => true
  | _ :: _, [] => false
  | p :: ps, q :: qs => if p == q then piecesBefore ps qs else p.before q

/-- Whether one name comes before another in natural order. -/
def before (a b : String) : Bool :=
  piecesBefore (pieces (Utf8.encode a)) (pieces (Utf8.encode b))

/-- Names sorted in natural order. -/
def sort (names : List String) : List String :=
  names.mergeSort fun a b => !before b a

end Theming.Text.Natural
