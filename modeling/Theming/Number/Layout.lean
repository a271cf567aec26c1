import Theming.Number.Shortest

/-!
# Writing a double with its shortest digits

Every layout writes the digits chosen by `classify`; layouts differ only in where they switch
from positional notation (`0.00012`, `1500`) to exponent notation (`1.2e-04`, `1.5e+21`) and in
how many digits the exponent has at least. Not-a-number is `NaN` and the infinities are `+Inf`
and `-Inf`; a negative zero keeps its sign.
-/

set_option autoImplicit false

namespace Theming.Number

/-- Where a layout writes positional notation, by the decimal exponent of the leading digit, and
the least number of digits of a written exponent. -/
structure Layout where
  positional : Int → Bool
  exponentDigits : Nat

namespace Layout

/-- Always positional, as a value is written in theme text. -/
def plain : Layout := ⟨fun _ => true, 2⟩

/-- Positional for leading exponents from -4 to 5, otherwise exponent notation with at least two
exponent digits: the general layout of printed values. -/
def general : Layout := ⟨fun x => -4 ≤ x && x < 6, 2⟩

/-- Positional for magnitudes from 10^-6 up to below 10^21, otherwise exponent notation with no
padding of the exponent: the layout of numbers in data interchange. -/
def interchange : Layout := ⟨fun x => -6 ≤ x && x < 21, 1⟩

end Layout

/-- The decimal digits of a natural number. -/
def digitText (n : Nat) : String := String.ofList (Nat.toDigits 10 n)

/-- `n` characters `c`. -/
def fill (n : Nat) (c : Char) : String := String.ofList (List.replicate n c)

/-- Positional notation of `digits * 10^exponent` (no sign). -/
def positionalText (digits : Nat) (exponent : Int) : String :=
  let s := (Nat.toDigits 10 digits)
  let n : Int := s.length
  let point : Int := n + exponent
  if point ≤ 0 then "0." ++ fill (-point).toNat '0' ++ String.ofList s
  else if point ≥ n then String.ofList s ++ fill (point - n).toNat '0'
  else String.ofList (s.take point.toNat) ++ "." ++ String.ofList (s.drop point.toNat)

/-- Exponent notation of `digits * 10^exponent` (no sign): one digit before the point, the
others after it, and the exponent of the leading digit with its sign. -/
def exponentText (digits : Nat) (exponent : Int) (exponentDigits : Nat) : String :=
  let s := Nat.toDigits 10 digits
  let lead : Int := s.length - 1 + exponent
  let mantissa := match s with
    | [] => "0"
    | [d] => String.ofList [d]
    | d :: rest => String.ofList (d :: '.' :: rest)
  let e := Nat.toDigits 10 lead.natAbs
  mantissa ++ "e" ++ (if lead < 0 then "-" else "+") ++
    fill (exponentDigits - e.length) '0' ++ String.ofList e

/-- A double written in a layout. -/
def Layout.render (layout : Layout) (x : Float) : String :=
  match classify x with
  | .nan => "NaN"
  | .infinite negative => if negative then "-Inf" else "+Inf"
  | .finite d =>
    let sign := if d.negative then "-" else ""
    if d.digits = 0 then sign ++ "0"
    else
      let lead : Int := (Nat.toDigits 10 d.digits).length - 1 + d.exponent
      if layout.positional lead then sign ++ positionalText d.digits d.exponent
      else sign ++ exponentText d.digits d.exponent layout.exponentDigits

/-- A double in positional notation with its shortest digits. -/
def plainText (x : Float) : String := Layout.plain.render x

end Theming.Number
