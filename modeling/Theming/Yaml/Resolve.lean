import Theming.Number.Read

/-!
# What a plain scalar means

An untagged plain scalar is resolved by its text:

* `~`, `null`, `Null`, `NULL` and the empty text are null;
* `true`, `True`, `TRUE` and `false`, `False`, `FALSE` are truth values;
* `.inf`, `+.inf`, `-.inf` and `.nan` (in three letter cases each) are special doubles;
* a text starting with a digit or a sign is tried, with its underscores removed, as a date, an
  integer in any base notation (`0x`, `0o`, `0b`, and a leading `0` for octal) that fits 64 bits
  signed or unsigned, a decimal double, and a `0b` or `0o` integer with a sign;
* a text starting with a dot may be a double;
* anything else is a string.

Writing a string as a plain scalar is only possible when it would resolve back to a string and
is none of the old truth words (`yes`, `no`, `on`, `off` and their forms) or sexagesimal numbers.
-/

set_option autoImplicit false

namespace Theming.Yaml

open Theming.Number

/-- What a plain scalar stands for. -/
inductive Resolved where
  | null
  | bool (b : Bool)
  | int (n : Int)
  | float (x : Float)
  | timestamp
  | str
  deriving Inhabited

namespace Resolved

/-- The short tag of a resolved value. -/
def tag : Resolved → String
  | null => "!!null"
  | bool _ => "!!bool"
  | int _ => "!!int"
  | float _ => "!!float"
  | timestamp => "!!timestamp"
  | str => "!!str"

end Resolved

/-- The words with a fixed meaning. -/
def fixedWords : List (String × Resolved) :=
  [("true", .bool true), ("True", .bool true), ("TRUE", .bool true),
   ("false", .bool false), ("False", .bool false), ("FALSE", .bool false),
   ("", .null), ("~", .null), ("null", .null), ("Null", .null), ("NULL", .null),
   (".nan", .float (0.0 / 0.0)), (".NaN", .float (0.0 / 0.0)), (".NAN", .float (0.0 / 0.0)),
   (".inf", .float (1.0 / 0.0)), (".Inf", .float (1.0 / 0.0)), (".INF", .float (1.0 / 0.0)),
   ("+.inf", .float (1.0 / 0.0)), ("+.Inf", .float (1.0 / 0.0)), ("+.INF", .float (1.0 / 0.0)),
   ("-.inf", .float (-1.0 / 0.0)), ("-.Inf", .float (-1.0 / 0.0)), ("-.INF", .float (-1.0 / 0.0))]

/-- The digits of a text in a base, as a number; none when a character is not a digit or there
are no digits. -/
def digitsIn (base : Nat) (cs : List Char) : Option Nat :=
  if cs.isEmpty then none
  else cs.foldlM (fun acc c => (digitValue base c).map (acc * base + ·)) 0

/-- Reads an unsigned integer in base notation: `0x`, `0o`, `0b` prefixes, a leading `0` for
octal, otherwise decimal. -/
def readUnsigned (cs : List Char) : Option Nat :=
  match cs with
  | '0' :: 'x' :: rest | '0' :: 'X' :: rest => digitsIn 16 rest
  | '0' :: 'o' :: rest | '0' :: 'O' :: rest => digitsIn 8 rest
  | '0' :: 'b' :: rest | '0' :: 'B' :: rest => digitsIn 2 rest
  | '0' :: rest@(_ :: _) => digitsIn 8 rest
  | _ => digitsIn 10 cs

/-- Reads a signed 64-bit integer in base notation. -/
def readSigned (s : String) : Option Int :=
  let (neg, body) := match s.toList with
    | '-' :: rest => (true, rest)
    | '+' :: rest => (false, rest)
    | cs => (false, cs)
  (readUnsigned body).bind fun n =>
    if neg then (if n ≤ Nat.pow 2 63 then some (-(n : Int)) else none)
    else if n < Nat.pow 2 63 then some (n : Int) else none

/-- Reads an unsigned 64-bit integer in base notation (no sign allowed). -/
def readUnsigned64 (s : String) : Option Nat :=
  (readUnsigned s.toList).bind fun n => if n < Nat.pow 2 64 then some n else none

/-- Whether a text is a decimal double in YAML form: an optional sign, digits with an optional
fraction or a fraction alone, and an optional exponent. -/
def isYamlFloat (s : String) : Bool :=
  let cs := match s.toList with
    | '-' :: rest => rest
    | '+' :: rest => rest
    | cs => cs
  let digits := cs.takeWhile Char.isDigit
  let rest := cs.drop digits.length
  let (mantissaOk, rest) :=
    if digits.isEmpty then
      match rest with
      | '.' :: more =>
        let fr := more.takeWhile Char.isDigit
        (!fr.isEmpty, more.drop fr.length)
      | _ => (false, rest)
    else
      match rest with
      | '.' :: more => (true, more.dropWhile Char.isDigit)
      | _ => (true, rest)
  mantissaOk &&
    match rest with
    | [] => true
    | e :: more =>
      (e == 'e' || e == 'E') &&
        let more := match more with
          | '-' :: r => r
          | '+' :: r => r
          | r => r
        !more.isEmpty && more.all Char.isDigit

/-- Whether a text looks like a date: four digits and a dash, then month and day, optionally a
time. -/
def isTimestamp (s : String) : Bool :=
  let cs := s.toList
  let year := cs.takeWhile Char.isDigit
  if year.length != 4 then false
  else
    match cs.drop 4 with
    | '-' :: rest =>
      let month := rest.takeWhile Char.isDigit
      match rest.drop month.length with
      | '-' :: more =>
        let day := more.takeWhile Char.isDigit
        let tail := more.drop day.length
        (month.length == 1 || month.length == 2) && (day.length == 1 || day.length == 2) &&
          (tail.isEmpty || tail.head? == some 'T' || tail.head? == some 't' || tail.head? == some ' ')
      | _ => false
    | _ => false

/-- Resolves an untagged plain scalar. -/
def resolve (s : String) : Resolved :=
  match fixedWords.lookup s with
  | some r => r
  | none =>
    match s.toList.head? with
    | some '.' =>
      match readFloat s with
      | .ok x => .float x
      | .error _ => .str
    | some c =>
      if c.isDigit || c == '-' || c == '+' then
        if isTimestamp s then .timestamp
        else
          let plain := String.ofList (s.toList.filter (· != '_'))
          match readSigned plain with
          | some n => .int n
          | none =>
            match readUnsigned64 plain with
            | some n => .int n
            | none =>
              if isYamlFloat plain then
                match readFloat plain with
                | .ok x => .float x
                | .error _ => .str
              else
                match plain.toList with
                | '-' :: '0' :: 'b' :: rest =>
                  match digitsIn 2 rest with
                  | some n => if n ≤ Nat.pow 2 63 then .int (-(n : Int)) else .str
                  | none => .str
                | '-' :: '0' :: 'o' :: rest =>
                  match digitsIn 8 rest with
                  | some n => if n ≤ Nat.pow 2 63 then .int (-(n : Int)) else .str
                  | none => .str
                | _ => .str
      else .str
    | none => .null

/-- The old truth words, still written in quotes. -/
def isOldBool (s : String) : Bool :=
  ["y", "Y", "yes", "Yes", "YES", "on", "On", "ON",
   "n", "N", "no", "No", "NO", "off", "Off", "OFF"].contains s

/-- Whether a text is a sexagesimal number such as `1:20` or `-3:25:45.5`. -/
def isBase60 (s : String) : Bool :=
  let cs := match s.toList with
    | '-' :: rest => rest
    | '+' :: rest => rest
    | cs => cs
  match cs.head? with
  | some c =>
    c.isDigit &&
      let groups := (String.ofList cs).splitOn ":"
      match groups with
      | first :: rest@(_ :: _) =>
        first.toList.all (fun ch => ch.isDigit || ch == '_') &&
          let lastParts := (rest.getLastD "").splitOn "."
          let lastHead := lastParts.headD ""
          let middle := rest.dropLast ++ [lastHead]
          middle.all (fun g => !g.isEmpty && g.length ≤ 2 && g.toList.all Char.isDigit &&
              (g.length < 2 || g.toList.headD '0' ≤ '5')) &&
            (lastParts.length ≤ 1 ||
              (lastParts.length == 2 && (lastParts.getLastD "").toList.all fun ch => ch.isDigit || ch == '_'))
      | _ => false
  | none => false

/-- Whether a string can be written as a plain scalar and read back as the same string. -/
def plainSafe (s : String) : Bool :=
  match resolve s with
  | .str => !isBase60 s && !isOldBool s
  | _ => false

end Theming.Yaml
