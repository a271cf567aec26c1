import Theming.Text.Utf8

/-!
# Where an offset lies in theme text

A byte offset is shown to people as a line and a column. Lines are separated by a line feed, a
carriage return with or without a line feed after it, and the separators U+2028 and U+2029. The
column counts the characters between the start of the line and the offset, plus one; an offset
that falls inside a multi-byte character or between a carriage return and its line feed stays at
the character before it.

The *context* of an offset is the text of its line, cut at line feeds only and without trailing
carriage returns.
-/

set_option autoImplicit false

namespace Theming.Sheet.Position

open Theming.Text

/-- The width of the character at the head for walking lines, and whether it ends a line. -/
def step (bs : List UInt8) : Nat × Bool :=
  match bs with
  | [] => (1, false)
  | 10 :: _ => (1, true)
  | 13 :: 10 :: _ => (2, true)
  | 13 :: _ => (1, true)
  | c :: _ =>
    if c ≥ 0xC0 then
      let v := Utf8.leadValue bs
      (Utf8.leadWidth bs, v == 0x2028 || v == 0x2029)
    else (1, false)

theorem step_width_pos (bs : List UInt8) : 0 < (step bs).1 := by
  unfold step
  split
  all_goals try decide
  next c _ _ _ _ _ =>
    split
    · exact Utf8.leadWidth_pos
    · decide

/-- Walks from the start of a line towards `target` bytes into it. Returns the line number and
the bytes of the current line passed so far (in reverse). -/
def walk (rest : List UInt8) (line : Nat) (passed : List UInt8) (target : Nat) :
    Nat × List UInt8 :=
  if passed.length < target then
    match _hr : rest with
    | [] => (line, passed)
    | _ :: _ =>
      let n := (step rest).1
      if 1 < n && target < passed.length + n then (line, passed)
      else
        let moved := (rest.take n).reverse ++ passed
        if (step rest).2 then walk (rest.drop n) (line + 1) [] (target - moved.length)
        else walk (rest.drop n) line moved target
  else (line, passed)
termination_by rest.length
decreasing_by
  all_goals
    have := step_width_pos rest
    subst _hr
    simp only [List.length_drop, List.length_cons] at *
    omega

/-- The line and column (both from one) of a byte offset. -/
def lineColumn (data : List UInt8) (offset : Nat) : Nat × Nat :=
  let (line, passed) := walk data 1 [] offset
  (line, (Utf8.decode passed.reverse).length + 1)

/-- The text of the line holding a byte offset: from the last line feed before it to the next
line feed at or after it, without trailing carriage returns. -/
def contextLine (data : List UInt8) (offset : Nat) : String :=
  let before := ((data.take offset).reverse.takeWhile (· != 10)).reverse
  let after := (data.drop offset).takeWhile (· != 10)
  let line := ((before ++ after).reverse.dropWhile (· == 13)).reverse
  Utf8.toText line

/-- The number of line feeds before a byte offset, plus one: the line of an assignment. -/
def lineOf (data : List UInt8) (offset : Nat) : Nat :=
  ((data.take offset).filter (· == 10)).length + 1

end Theming.Sheet.Position
