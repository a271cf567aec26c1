import Theming.Text.Utf8

/-!
# Lexemes: the CSS-level reading of theme text

Theme text is first cut into lexemes by the rules of CSS syntax: runs of blanks, comments,
names, functions (`name(`), strings, numbers with or without a unit or percent sign, hash words,
at-words, `url(...)`, unicode ranges, match operators, the comment marks `<!--` and `-->`, single
punctuation, and single other characters ("delimiters"). Each rule is a *width function*: given
the rest of the input it says how many bytes the lexeme at the head takes, or that the rule does
not apply. `Lexeme.next` tries the rules in the order CSS prescribes for the first byte.

Every lexeme takes at least one byte (`Lexeme.next_width_pos`), so cutting the whole input is a
loop on its length.
-/

set_option autoImplicit false

namespace Theming.Sheet

open Theming.Text

/-- The classes of lexemes that theme text distinguishes; all others are `other`. -/
inductive LexemeKind where
  | blank
  | comment
  | ident
  | function
  | string
  | badString
  | number
  | dimension
  | percentage
  | hash
  | colon
  | semicolon
  | comma
  | lbrace
  | rbrace
  | lparen
  | rparen
  | delim
  /-- At-words, urls, unicode ranges, match operators, brackets and the comment marks. -/
  | other
  deriving Repr, BEq, DecidableEq

namespace Lexeme

/-- Blank bytes: space, tab, line feed, carriage return and form feed. -/
def isBlank (c : UInt8) : Bool := c == 32 || c == 9 || c == 10 || c == 13 || c == 12

/-- ASCII digits. -/
def isDigit (c : UInt8) : Bool := 48 ≤ c && c ≤ 57

/-- ASCII hex digits. -/
def isHex (c : UInt8) : Bool := isDigit c || (97 ≤ c && c ≤ 102) || (65 ≤ c && c ≤ 70)

/-- Bytes that may start a name: ASCII letters, underscore and every byte of a non-ASCII
character. -/
def isNameStart (c : UInt8) : Bool := (97 ≤ c && c ≤ 122) || (65 ≤ c && c ≤ 90) || c == 95 || c ≥ 0x80

/-- Bytes that may continue a name: those that start one, digits and the hyphen. -/
def isNameChar (c : UInt8) : Bool := isNameStart c || isDigit c || c == 45

/-- The number of leading bytes satisfying `p`. -/
def countWhile (p : UInt8 → Bool) : List UInt8 → Nat
  | [] => 0
  | c :: r => if p c then countWhile p r + 1 else 0

/-- The width of a line break at the head: line feed or form feed, or a carriage return with the
line feed after it, if any. -/
def newlineWidth : List UInt8 → Nat
  | 10 :: _ => 1
  | 12 :: _ => 1
  | 13 :: 10 :: _ => 2
  | 13 :: _ => 1
  | _ => 0

/-- The width of an escape at the head (`\` and what it stands for): up to six hex digits and
one blank after them, or one character. A backslash before a line break or at the end is no
escape. -/
def escapeWidth : List UInt8 → Option Nat
  | 92 :: c :: r =>
    if c == 10 || c == 13 || c == 12 then none
    else if isHex c then
      let k := min 5 (countWhile isHex r)
      let blank := match r.drop k with
        | b :: _ => if isBlank b then 1 else 0
        | [] => 0
      some (2 + k + blank)
    else if c ≥ 0xC0 then some (1 + Utf8.leadWidth (c :: r))
    else some 2
  | _ => none

/-- The width of the rest of a name: name bytes and escapes, up to the first other byte. -/
def nameTailWidth (bs : List UInt8) : Nat :=
  match _hb : bs with
  | [] => 0
  | c :: r =>
    if isNameChar c then nameTailWidth r + 1
    else match escapeWidth bs with
      | some w =>
        if _hw : 0 < w then w + nameTailWidth (bs.drop w) else 0
      | none => 0
termination_by bs.length
decreasing_by
  all_goals subst _hb
  all_goals simp only [List.length_drop, List.length_cons]
  all_goals omega

/-- The width of a name: an optional hyphen, a name-start byte or an escape, and the rest. -/
def identWidth (bs : List UInt8) : Option Nat :=
  let dash := match bs with
    | 45 :: _ => 1
    | _ => 0
  let r := bs.drop dash
  let first : Option Nat := match r with
    | c :: _ => if isNameStart c then some 1 else if c == 92 then escapeWidth r else none
    | [] => none
  first.map fun w => dash + w + nameTailWidth (r.drop w)

/-- The width of a hash word: `#` and a name byte or escape, and the rest of the name. -/
def hashWidth : List UInt8 → Option Nat
  | 35 :: r =>
    let first : Option Nat := match r with
      | c :: _ => if isNameChar c then some 1 else if c == 92 then escapeWidth r else none
      | [] => none
    first.map fun w => 1 + w + nameTailWidth (r.drop w)
  | _ => none

/-- The width of a number: an optional sign, digits with an optional fraction (a point not
followed by a digit ends the number before it), and an optional exponent (kept only with at
least one digit). -/
def numberWidth (bs : List UInt8) : Option Nat :=
  let sign := match bs with
    | 43 :: _ => 1
    | 45 :: _ => 1
    | _ => 0
  let r := bs.drop sign
  let whole := countWhile isDigit r
  let afterWhole := r.drop whole
  let mantissa : Option (Option Nat) :=
    match afterWhole with
    | 46 :: frac =>
      let k := countWhile isDigit frac
      if 0 < k then some (some (sign + whole + 1 + k))
      else if 0 < whole then some none
      else none
    | _ => if 0 < whole then some (some (sign + whole)) else none
  match mantissa with
  | none => none
  -- "1." stops before the point and takes no exponent
  | some none => some (sign + whole)
  | some (some w) =>
    match bs.drop w with
    | e :: r2 =>
      if e == 101 || e == 69 then
        let esign := match r2 with
          | 43 :: _ => 1
          | 45 :: _ => 1
          | _ => 0
        let k := countWhile isDigit (r2.drop esign)
        if 0 < k then some (w + 1 + esign + k) else some w
      else some w
    | [] => some w

/-- A number lexeme with what follows it: a percent sign or a unit name. -/
def numeric (bs : List UInt8) : Option (LexemeKind × Nat) :=
  (numberWidth bs).map fun w =>
    match bs.drop w with
    | 37 :: _ => (.percentage, w + 1)
    | rest =>
      match identWidth rest with
      | some u => (.dimension, w + u)
      | none => (.number, w)

/-- The width taken by a backslash inside a string: the escape it starts, or the backslash with
the line break after it (a continuation line), or the backslash alone at the end. -/
def stringEscapeWidth (bs : List UInt8) : Nat :=
  match escapeWidth bs with
  | some w => w
  | none => 1 + newlineWidth (bs.drop 1)

/-- The width of the string body after its opening quote, and whether a line break cut it: the
closing quote ends it, a raw line break cuts it (and is taken), an escape or a backslash before a
line break is taken whole, and the end of input ends it. -/
def stringBodyWidth (quote : UInt8) (bs : List UInt8) : Bool × Nat :=
  match _hb : bs with
  | [] => (false, 0)
  | c :: r =>
    if c == 10 || c == 13 || c == 12 then (true, 1)
    else if c == quote then (false, 1)
    else if c == 92 then
      let w := stringEscapeWidth bs
      if _hw : 0 < w then
        let (bad, rest) := stringBodyWidth quote (bs.drop w)
        (bad, w + rest)
      else (false, 0)
    else
      let (bad, rest) := stringBodyWidth quote r
      (bad, 1 + rest)
termination_by bs.length
decreasing_by
  all_goals subst _hb
  all_goals simp only [List.length_drop, List.length_cons]
  all_goals omega

/-- A string lexeme: the quote, the body, and whether a line break cut it. -/
def stringLexeme : List UInt8 → LexemeKind × Nat
  | q :: r =>
    let (bad, w) := stringBodyWidth q r
    (if bad then .badString else .string, 1 + w)
  | [] => (.string, 0)

/-- The width of a comment: `/*` up to and including `*/`, or to the end of input. -/
def commentBodyWidth : List UInt8 → Nat
  | [] => 0
  | 42 :: 47 :: _ => 2
  | _ :: r => commentBodyWidth r + 1

/-- The width of a unicode range `u+` hex digits, with `?` wildcards or a `-` and a second
bound; at most six digits on each side. -/
def unicodeRangeWidth : List UInt8 → Option Nat
  | u :: 43 :: r =>
    if u == 117 || u == 85 then
      let k := countWhile isHex r
      match r.drop k with
      | 45 :: r2 =>
        let k2 := countWhile isHex r2
        if k == 0 || 6 < k || k2 == 0 || 6 < k2 then none else some (2 + k + 1 + k2)
      | 63 :: r2 =>
        let q := countWhile (· == 63) r2 + 1
        if 6 < k + q then none else some (2 + k + q)
      | _ => if k == 0 || 6 < k then none else some (2 + k)
    else none
  | _ => none

/-- The width of the body of an unquoted url after its blanks, up to (not including) `)` or the
end; a quote, an opening parenthesis, a blank, a control character or a backslash that starts no
escape stops it as a failure. -/
def unquotedUrlWidth (bs : List UInt8) : Bool × Nat :=
  match _hb : bs with
  | [] => (true, 0)
  | c :: r =>
    if c == 41 then (true, 0)
    else if c == 34 || c == 39 || c == 40 || c == 92 || c == 32 || c ≤ 0x1F || c == 0x7F then
      if c == 92 then
        match escapeWidth bs with
        | some w =>
          if _hw : 0 < w then
            let (ok, rest) := unquotedUrlWidth (bs.drop w)
            (ok, w + rest)
          else (false, 0)
        | none => (false, 0)
      else (false, 0)
    else
      let (ok, rest) := unquotedUrlWidth r
      (ok, 1 + rest)
termination_by bs.length
decreasing_by
  all_goals subst _hb
  all_goals simp only [List.length_drop, List.length_cons]
  all_goals omega

/-- The width of what remains of a malformed url: up to and including `)`, skipping escapes. -/
def badUrlRestWidth (bs : List UInt8) : Nat :=
  match _hb : bs with
  | [] => 0
  | c :: r =>
    if c == 41 then 1
    else
      let w := (escapeWidth bs).getD 1
      if _hw : 0 < w then w + badUrlRestWidth (bs.drop w) else 1 + badUrlRestWidth r
termination_by bs.length
decreasing_by
  all_goals subst _hb
  all_goals simp only [List.length_drop, List.length_cons]
  all_goals omega

/-- How the body of a url ends: well, after the given width, or malformed at the given width. -/
inductive UrlBody where
  | fine (width : Nat)
  | malformed (width : Nat)

/-- The body of a url after its leading blanks: a quoted string (malformed if a line break cuts
it), or an unquoted url (malformed if it stops at anything but a blank, `)` or the end). -/
def urlBody (r : List UInt8) : UrlBody :=
  match r with
  | c :: _ =>
    if c == 34 || c == 39 then
      match stringLexeme r with
      | (.badString, w) => .malformed w
      | (_, w) => .fine w
    else
      match unquotedUrlWidth r with
      | (true, w) => .fine w
      | (false, w) =>
        match r.drop w with
        | b :: _ => if isBlank b then .fine (w + 1) else .malformed w
        | [] => .malformed w
  | [] => .fine 0

/-- The width of a url lexeme after `url(`: blanks, the body, blanks and the closing parenthesis
(or the end of input). A malformed url runs on to its closing parenthesis. -/
def urlBodyWidth (bs : List UInt8) : Nat :=
  let lead := countWhile isBlank bs
  let r := bs.drop lead
  match urlBody r with
  | .malformed w => lead + w + badUrlRestWidth (r.drop w)
  | .fine w =>
    let r2 := r.drop w
    let trail := countWhile isBlank r2
    match r2.drop trail with
    | 41 :: _ => lead + w + trail + 1
    | [] => lead + w + trail
    | rest => lead + w + trail + badUrlRestWidth rest

/-- Whether a name spells `url` in any letter case once its backslashes are dropped. -/
def spellsUrl (name : List UInt8) : Bool :=
  match name.filter (· != 92) with
  | [u, r, l] => (u == 117 || u == 85) && (r == 114 || r == 82) && (l == 108 || l == 76)
  | _ => false

/-- A name-like lexeme: a name, a function (a name and `(`), or a url (`url(` and its body). -/
def identlike (bs : List UInt8) : Option (LexemeKind × Nat) :=
  (identWidth bs).map fun w =>
    match bs.drop w with
    | 40 :: rest =>
      if spellsUrl (bs.take w) then (.other, w + 1 + urlBodyWidth rest) else (.function, w + 1)
    | _ => (.ident, w)

/-- A custom property name: two hyphens and, if one follows, the rest of a name. -/
def customPropertyWidth : List UInt8 → Option Nat
  | 45 :: 45 :: r => some (1 + (identWidth (45 :: r)).getD 1)
  | _ => none

/-- The width of a match operator `~= |= ^= $= *=` at the head. -/
def matchWidth : List UInt8 → Option Nat
  | c :: 61 :: _ => if c == 126 || c == 124 || c == 94 || c == 36 || c == 42 then some 2 else none
  | _ => none

/-- Falls back to a single-byte delimiter when no rule applies. -/
def orDelim : Option (LexemeKind × Nat) → LexemeKind × Nat
  | some r => r
  | none => (.delim, 1)

/-- The lexeme at the head of a non-empty input, by the rules for its first byte. -/
def next (bs : List UInt8) : LexemeKind × Nat :=
  match bs with
  | [] => (.delim, 1)
  | c :: r =>
    if isBlank c then (.blank, 1 + countWhile isBlank r)
    else if c == 58 then (.colon, 1)
    else if c == 59 then (.semicolon, 1)
    else if c == 44 then (.comma, 1)
    else if c == 123 then (.lbrace, 1)
    else if c == 125 then (.rbrace, 1)
    else if c == 40 then (.lparen, 1)
    else if c == 41 then (.rparen, 1)
    else if c == 91 || c == 93 then (.other, 1)
    else if c == 35 then orDelim ((hashWidth bs).map fun w => (.hash, w))
    else if c == 34 || c == 39 then stringLexeme bs
    else if c == 46 || c == 43 then orDelim (numeric bs)
    else if c == 45 then
      orDelim <| (numeric bs).orElse fun _ => (identlike bs).orElse fun _ =>
        match r with
        | 45 :: 62 :: _ => some (.other, 3)
        | _ => (customPropertyWidth bs).map fun w => (.other, w)
    else if c == 64 then orDelim ((identWidth r).map fun w => (.other, 1 + w))
    else if c == 36 || c == 42 || c == 94 || c == 126 then
      orDelim ((matchWidth bs).map fun w => (.other, w))
    else if c == 47 then
      match r with
      | 42 :: rest => (.comment, 2 + commentBodyWidth rest)
      | _ => (.delim, 1)
    else if c == 60 then
      match r with
      | 33 :: 45 :: 45 :: _ => (.other, 4)
      | _ => (.delim, 1)
    else if c == 92 then orDelim (identlike bs)
    else if c == 117 || c == 85 then
      orDelim <| ((unicodeRangeWidth bs).map fun w => (.other, w)).orElse fun _ => identlike bs
    else if c == 124 then
      orDelim <| ((matchWidth bs).map fun w => (.other, w)).orElse fun _ =>
        match r with
        | 124 :: _ => some (.other, 2)
        | _ => none
    else if c == 0 then (.delim, 1)
    else orDelim ((numeric bs).orElse fun _ => identlike bs)

end Lexeme

end Theming.Sheet
