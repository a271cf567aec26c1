import Theming.Text.Quoted

/-!
# Reading a double from its text

`readFloat` accepts an optional sign followed by either a decimal number (digits with at most one
point, at least one digit, an optional exponent `e` or `E` with an optional sign and digits), a
hexadecimal number (`0x`, hex digits with at most one point, and a binary exponent `p` that must
be present), or one of the words `inf`, `infinity` (with optional sign) and `nan`, in any letter
case. Underscores may only separate digits, or follow the `0x` prefix.

A decimal is rounded to the nearest double. A value too large for a double is a range error; a
value too small rounds to zero and is no error.
-/

set_option autoImplicit false

namespace Theming.Number

/-- Why a text is not a double. -/
inductive ReadError where
  /-- The text is not a number. -/
  | malformed
  /-- The number is too large in magnitude. -/
  | range
  deriving Repr, BEq, DecidableEq

/-- The value of a decimal digit or hex digit, if the character is one in the given base. -/
def digitValue (base : Nat) (c : Char) : Option Nat :=
  let n := c.toNat
  let v :=
    if 48 ≤ n && n ≤ 57 then some (n - 48)
    else if 97 ≤ n && n ≤ 102 then some (n - 87)
    else if 65 ≤ n && n ≤ 70 then some (n - 55)
    else none
  match v with
  | some d => if d < base then some d else none
  | none => none

/-- The decimal digits of `n` count. -/
def decimalLength (n : Nat) : Nat := (Nat.toDigits 10 n).length

/-- The double nearest to `m * 10^e`, or a range error when it is too large. Magnitudes far
outside the range of doubles are settled by their digit count before any arithmetic. -/
def scaleDecimal (negative : Bool) (m : Nat) (e : Int) : Except ReadError Float :=
  let sign (x : Float) : Float := if negative then -x else x
  if m = 0 then .ok (sign 0)
  else
    let magnitude : Int := decimalLength m + e
    if magnitude > 310 then .error .range
    else if magnitude < -330 then .ok (sign 0)
    else
      let x : Float :=
        if e < 0 then Float.ofScientific m true (-e).toNat else Float.ofScientific m false e.toNat
      if x.isInf then .error .range else .ok (sign x)

/-- The double nearest to `m * 2^e`, or a range error when it is too large. -/
def scaleBinary (negative : Bool) (m : Nat) (e : Int) : Except ReadError Float :=
  let sign (x : Float) : Float := if negative then -x else x
  if m = 0 then .ok (sign 0)
  else
    let magnitude : Int := (Nat.log2 m : Int) + 1 + e
    if magnitude > 1025 then .error .range
    else if magnitude < -1080 then .ok (sign 0)
    else
      let x := (Float.ofNat m).scaleB e
      if x.isInf then .error .range else .ok (sign x)

/-- Digits of a mantissa: the digits read, how many follow the point, whether any was seen, and
whether an underscore appeared. -/
structure Mantissa where
  value : Nat := 0
  afterPoint : Nat := 0
  sawDigit : Bool := false
  sawPoint : Bool := false
  underscore : Bool := false

/-- Reads mantissa characters in `base` up to the first character that is not a digit, a first
point or an underscore. -/
def readMantissa (base : Nat) : List Char → Mantissa → Mantissa × List Char
  | [], acc => (acc, [])
  | c :: rest, acc =>
    if c = '_' then readMantissa base rest { acc with underscore := true }
    else if c = '.' then
      if acc.sawPoint then (acc, c :: rest)
      else readMantissa base rest { acc with sawPoint := true }
    else match digitValue base c with
      | some d =>
        readMantissa base rest
          { acc with value := acc.value * base + d, sawDigit := true,
                     afterPoint := if acc.sawPoint then acc.afterPoint + 1 else acc.afterPoint }
      | none => (acc, c :: rest)

/-- Reads exponent digits (underscores allowed and noted), returning the value, whether an
underscore appeared, and the rest. -/
def readExponentDigits : List Char → Nat → Bool → Nat × Bool × List Char
  | [], e, u => (e, u, [])
  | c :: rest, e, u =>
    if c = '_' then readExponentDigits rest e true
    else match digitValue 10 c with
      | some d => readExponentDigits rest (e * 10 + d) u
      | none => (e, u, c :: rest)

/-- Reads an exponent after its marker: an optional sign and at least one digit. -/
def readExponent (cs : List Char) : Option (Int × Bool × List Char) :=
  let (negative, cs) := match cs with
    | '+' :: r => (false, r)
    | '-' :: r => (true, r)
    | r => (false, r)
  match cs with
  | c :: _ =>
    if (digitValue 10 c).isSome then
      let (e, u, rest) := readExponentDigits cs 0 false
      some (if negative then -(e : Int) else e, u, rest)
    else none
  | [] => none

/-- Underscores may only separate digits, or stand between a base prefix (`0b`, `0o`, `0x`)
and a digit; a number may not end with one. -/
def underscoresAllowed (body : List Char) : Bool :=
  let (hex, rest, start) : Bool × List Char × Char := match body with
    | '0' :: x :: r =>
      if x == 'b' || x == 'B' || x == 'o' || x == 'O' || x == 'x' || x == 'X' then
        (x == 'x' || x == 'X', r, '0')
      else (false, body, '^')
    | _ => (false, body, '^')
  let rec go : List Char → Char → Bool
    | [], saw => saw != '_'
    | c :: r, saw =>
      if c.isDigit || (hex && (digitValue 16 c).isSome) then go r '0'
      else if c == '_' then saw == '0' && go r '_'
      else if saw == '_' then false
      else go r '!'
  go rest start

/-- The length of the common start of `cs` and `word`, ignoring ASCII letter case. -/
def commonPrefixLength : List Char → List Char → Nat
  | c :: cs, w :: ws => if c.toLower = w then commonPrefixLength cs ws + 1 else 0
  | _, _ => 0

/-- The special words: infinities with an optional sign, and `nan` without one. -/
def readSpecial (cs : List Char) : Option Float :=
  let (negative, signed, body) := match cs with
    | '+' :: r => (false, true, r)
    | '-' :: r => (true, true, r)
    | r => (false, false, r)
  let n := commonPrefixLength body "infinity".toList
  if (n = 3 && body.length = 3) || (n = 8 && body.length = 8) then
    some (if negative then -(1.0 / 0.0) else 1.0 / 0.0)
  else if !signed && commonPrefixLength body "nan".toList = 3 && body.length = 3 then
    some (0.0 / 0.0)
  else none

/-- Reads a double from its text (see the module comment for the accepted forms). -/
def readFloat (s : String) : Except ReadError Float :=
  let cs := s.toList
  match readSpecial cs with
  | some x => .ok x
  | none =>
    let (negative, body) := match cs with
      | '+' :: r => (false, r)
      | '-' :: r => (true, r)
      | r => (false, r)
    let (hex, digits) := match body with
      | '0' :: x :: r => if (x == 'x' || x == 'X') && r.length > 0 then (true, r) else (false, body)
      | _ => (false, body)
    let base := if hex then 16 else 10
    let (m, rest) := readMantissa base digits {}
    if !m.sawDigit then .error .malformed
    else
      let marker : Char → Bool := fun c => if hex then c == 'p' || c == 'P' else c == 'e' || c == 'E'
      let exp? : Option (Int × Bool × List Char) := match rest with
        | c :: r => if marker c then readExponent r else some (0, false, rest)
        | [] => some (0, false, [])
      match exp? with
      | none => .error .malformed
      | some (e, u, tail) =>
        let hasExponent := match rest with
          | c :: _ => marker c
          | [] => false
        if !tail.isEmpty then .error .malformed
        else if hex && !hasExponent then .error .malformed
        else if (m.underscore || u) &&
            !underscoresAllowed (body.take (body.length - tail.length)) then .error .malformed
        else if hex then scaleBinary negative m.value (e - 4 * (m.afterPoint : Int))
        else scaleDecimal negative m.value (e - (m.afterPoint : Int))

/-- The message of a failed reading: the reading function's name, the text, and why. -/
def ReadError.message (e : ReadError) (function text : String) : String :=
  "strconv." ++ function ++ ": parsing " ++ Theming.Text.Quoted.quote text ++ ": " ++
    (match e with
      | .malformed => "invalid syntax"
      | .range => "value out of range")

end Theming.Number
