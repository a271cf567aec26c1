import Mathlib
import Theming.Proofs.ReaderFailures

/-!
# Line numbers

Three parts of the reader speak of lines, each in its own way:

* `Position.lineColumn`, the line and column of an error, walks the text character by character
  and ends a line at a line feed, at a carriage return alone or before a line feed, and at the
  separators U+2028 and U+2029;
* `Position.lineOf`, the line of an assignment and of the warnings about repeated paths and
  blocks, counts the line feeds before an offset;
* `Position.contextLine`, the line an error shows, cuts the text at line feeds only.

They agree on every text whose line breaks, as the walk reads them, are line feeds alone or
after a carriage return (`FeedLines`). The walk then adds one line for every line feed it passes
(`walk_fst`), so its line is `lineOf` (`lineColumn_line`), and the line an error shows is the
line of the text with that number (`contextLine_eq_lineText`), where the lines of a text are its
pieces between line feeds, without trailing carriage returns (`lines`).

The main statement is `reported_lines_agree`. A lone carriage return breaks the agreement:
`lone_return_splits_lines` reads an assignment after one as written on line 1, while the walk
puts its first token on line 2.
-/

set_option autoImplicit false

namespace Theming.Sheet.Position

open Theming.Text

/-! ## Texts whose line breaks end in line feeds -/

/-- The character at the head of `bs`, as the walk reads it, holds a line feed only as its last
byte, and ends a line exactly when that byte is a line feed. -/
def FeedChar (bs : List UInt8) : Prop :=
  10 ∉ bs.take ((step bs).1 - 1) ∧ ((step bs).2 = true ↔ bs[(step bs).1 - 1]? = some 10)

instance (bs : List UInt8) : Decidable (FeedChar bs) :=
  inferInstanceAs (Decidable (_ ∧ _))

/-- A text whose line breaks, read from any byte on, are each a line feed alone or after a
carriage return: it has no lone carriage return, no U+2028 or U+2029, and no line feed that the
walk takes into a longer character. -/
def FeedLines (data : List UInt8) : Prop := ∀ i < data.length, FeedChar (data.drop i)

instance (data : List UInt8) : Decidable (FeedLines data) :=
  inferInstanceAs (Decidable (∀ i < data.length, _))

theorem FeedLines.drop {data : List UInt8} (h : FeedLines data) (n : Nat) :
    FeedLines (data.drop n) := by
  intro i hi
  rw [List.drop_drop]
  exact h (n + i) (by simp at hi; omega)

theorem FeedLines.head {b : UInt8} {bs : List UInt8} (h : FeedLines (b :: bs)) :
    FeedChar (b :: bs) :=
  h 0 (by simp)

/-! ## The walk counts line feeds -/

theorem take_one_drop (l : List UInt8) (i : Nat) : (l.drop i).take 1 = l[i]?.toList := by
  induction l generalizing i with
  | nil => simp
  | cons b l ih =>
    cases i with
    | zero => simp
    | succ i => simpa using ih i

/-- Inside a character no line feed has been passed. -/
theorem FeedChar.count_take_lt {bs : List UInt8} (h : FeedChar bs) {k : Nat}
    (hk : k < (step bs).1) : (bs.take k).count 10 = 0 := by
  rw [List.count_eq_zero]
  intro hmem
  apply h.1
  have hpre : bs.take k = (bs.take ((step bs).1 - 1)).take k := by
    rw [List.take_take, Nat.min_eq_left (by omega)]
  rw [hpre] at hmem
  exact List.mem_of_mem_take hmem

/-- A whole character holds one line feed when it ends a line, and none otherwise. -/
theorem FeedChar.count_take_width {bs : List UInt8} (h : FeedChar bs) :
    (bs.take (step bs).1).count 10 = if (step bs).2 then 1 else 0 := by
  have hpos := step_width_pos bs
  have hsplit : bs.take (step bs).1 =
      bs.take ((step bs).1 - 1) ++ (bs.drop ((step bs).1 - 1)).take 1 := by
    rw [← List.take_add, Nat.sub_add_cancel hpos]
  rw [hsplit, List.count_append, h.count_take_lt (by omega), Nat.zero_add, take_one_drop]
  cases hc : bs[(step bs).1 - 1]? with
  | none =>
    have hbrk : (step bs).2 = false := by simpa [hc] using h.2
    simp [hbrk]
  | some c =>
    by_cases h10 : c = 10
    · subst h10
      simp [h.2.2 hc]
    · have hbrk : (step bs).2 = false := by simpa [hc, h10] using h.2
      simp [hbrk, h10]

theorem count_take_split (l : List UInt8) {n k : Nat} (h : n ≤ k) :
    (l.take k).count 10 =
      (l.take n).count 10 + ((l.drop n).take (k - (l.take n).length)).count 10 := by
  rcases le_total n l.length with hn | hn
  · rw [List.length_take_of_le hn, ← List.count_append, ← List.take_add, Nat.add_sub_cancel' h]
  · rw [List.drop_eq_nil_of_le hn, List.take_nil, List.take_of_length_le hn,
      List.take_of_length_le (le_trans hn h)]
    simp

/-- Walking towards `target` bytes into a line adds to the line number the line feeds among the
bytes still to pass. The induction follows the walk; a character it stops before, because the
target falls inside it, holds none of them. -/
theorem walk_fst {rest : List UInt8} {line : Nat} {passed : List UInt8} {target : Nat}
    (h : FeedLines rest) :
    (walk rest line passed target).1 = line + (rest.take (target - passed.length)).count 10 := by
  fun_induction walk rest line passed target with
  | case1 line passed target hlt => simp
  | case2 line passed target hlt b bs n hstop =>
    simp only [n, Bool.and_eq_true, decide_eq_true_eq] at hstop
    dsimp only
    rw [if_pos (by simpa using hstop), h.head.count_take_lt (by omega)]
    rfl
  | case3 line passed target hlt b bs n hgo moved hbrk ih =>
    simp only [n, Bool.and_eq_true, decide_eq_true_eq] at hgo
    have hpos := step_width_pos (b :: bs)
    dsimp only
    rw [if_neg (by simpa using hgo), if_pos hbrk, ih (h.drop _),
      count_take_split (b :: bs) (n := (step (b :: bs)).1) (by omega), h.head.count_take_width]
    simp only [moved, n, hbrk, if_true, List.length_append, List.length_reverse, List.length_nil]
    rw [Nat.sub_zero, Nat.add_comm _ passed.length, ← Nat.sub_sub]
    omega
  | case4 line passed target hlt b bs n hgo moved hbrk ih =>
    simp only [n, Bool.and_eq_true, decide_eq_true_eq] at hgo
    have hpos := step_width_pos (b :: bs)
    dsimp only
    rw [if_neg (by simpa using hgo), if_neg hbrk, ih (h.drop _),
      count_take_split (b :: bs) (n := (step (b :: bs)).1) (by omega), h.head.count_take_width]
    simp only [moved, n, hbrk, Bool.false_eq_true, if_false, List.length_append,
      List.length_reverse]
    rw [Nat.add_comm _ passed.length, ← Nat.sub_sub]
    omega
  | case5 rest line passed target hge =>
    simp [Nat.sub_eq_zero_of_le (not_lt.1 hge)]

theorem lineColumn_line {data : List UInt8} (h : FeedLines data) (offset : Nat) :
    (lineColumn data offset).1 = lineOf data offset := by
  rw [show (lineColumn data offset).1 = (walk data 1 [] offset).1 from rfl, walk_fst h, lineOf,
    List.length_nil, Nat.sub_zero, List.count_eq_length_filter, Nat.add_comm]

/-! ## The lines of a text -/

/-- A line without its trailing carriage returns. -/
def trimReturns (l : List UInt8) : List UInt8 := (l.reverse.dropWhile (· == 13)).reverse

/-- The lines of a text: its pieces between line feeds, without trailing carriage returns. -/
def lines (data : List UInt8) : List (List UInt8) := (data.splitOn 10).map trimReturns

/-- The text of line `n` of `data`, counting from one; empty past the last line. -/
def lineText (data : List UInt8) (n : Nat) : String :=
  Utf8.toText ((lines data).getD (n - 1) [])

theorem lines_getD (data : List UInt8) (n : Nat) :
    (lines data).getD n [] = trimReturns ((data.splitOn 10).getD n []) :=
  List.getD_map (data.splitOn 10) [] trimReturns

theorem splitOn_length (l : List UInt8) : (l.splitOn 10).length = l.count 10 + 1 := by
  unfold List.splitOn
  induction l with
  | nil => simp
  | cons b l ih =>
    rw [List.splitOnP_cons_eq_if_modifyHead, List.count_cons]
    by_cases hb : b = 10
    · simp [hb, ih]
    · simp [hb, ih]

theorem splitOn_getD_zero (l : List UInt8) : (l.splitOn 10).getD 0 [] = l.takeWhile (· != 10) := by
  unfold List.splitOn
  induction l with
  | nil => simp
  | cons b l ih =>
    rw [List.splitOnP_cons_eq_if_modifyHead]
    by_cases hb : b = 10
    · simp [hb]
    · obtain ⟨x, xs, hx⟩ := List.exists_cons_of_ne_nil (List.splitOnP_ne_nil (· == 10) l)
      rw [hx] at ih
      simp [hb, hx, ← ih]

/-- After the line feeds of `A` comes the line that holds the end of `A`: the bytes of `A`
after its last line feed, then those of `B` up to its first. The induction takes `A` from its
end, so a line feed there starts a new line at the start of `B`. -/
theorem splitOn_getD_count (A B : List UInt8) :
    ((A ++ B).splitOn 10).getD (A.count 10) [] =
      (A.reverse.takeWhile (· != 10)).reverse ++ B.takeWhile (· != 10) := by
  induction A using List.reverseRecOn generalizing B with
  | nil =>
    rw [List.nil_append, List.count_nil, splitOn_getD_zero]
    simp
  | append_singleton A x ih =>
    by_cases hx : x = 10
    · subst hx
      have hsplit : (A ++ [10] ++ B).splitOn 10 = A.splitOn 10 ++ B.splitOn 10 := by
        rw [List.append_assoc, List.singleton_append]
        exact List.splitOnP_append_cons A B (by simp)
      rw [hsplit, List.count_append, List.count_singleton_self,
        List.getD_append_right _ _ _ _ (by rw [splitOn_length]), splitOn_length, Nat.sub_self,
        splitOn_getD_zero]
      simp
    · have hx' : (x != 10) = true := by simpa using hx
      rw [List.append_assoc, List.singleton_append, List.count_append, List.count_singleton]
      simp only [hx, beq_iff_eq, if_false, Nat.add_zero, ih (x :: B)]
      simp [hx']

/-- The line an error shows is the line of the text after as many line feeds as precede the
offset. -/
theorem contextLine_eq (data : List UInt8) (offset : Nat) :
    contextLine data offset = Utf8.toText ((lines data).getD ((data.take offset).count 10) []) := by
  have h := splitOn_getD_count (data.take offset) (data.drop offset)
  rw [List.take_append_drop] at h
  rw [lines_getD, h]
  rfl

/-- On a text whose breaks end in line feeds, the line an error shows is the text's line with
the number the walk gives the offset. -/
theorem contextLine_eq_lineText {data : List UInt8} (h : FeedLines data) (offset : Nat) :
    contextLine data offset = lineText data (lineColumn data offset).1 := by
  rw [contextLine_eq, lineColumn_line h, lineText, lineOf, ← List.count_eq_length_filter,
    Nat.add_sub_cancel]

end Theming.Sheet.Position

namespace Theming.Sheet

open Grammar

/-! ## Every error is made for the text -/

/-- The error a text's token stream ends with is made for that text. -/
theorem scan_failure_made {data : List UInt8} {source : String} (rest : List UInt8)
    (acc : List Token) {e : SyntaxError}
    (h : (TokenStream.scan data source rest acc).failure = some e) :
    ∃ problem offset token, e = SyntaxError.make data source problem offset token := by
  induction rest, acc using TokenStream.scan.induct data with
  | case1 acc =>
    rw [TokenStream.scan.eq_1] at h
    cases h
  | case2 acc c cs kind width _ problem o token hnext _ hout =>
    rw [scan_fail hnext hout] at h
    cases h
    exact ⟨problem, o, token, rfl⟩
  | case3 acc c cs kind width _ toks hnext _ hout ih =>
    rw [scan_emit hnext hout] at h
    exact ih h
  | case4 acc c cs kind width _ hnext _ hout ih =>
    rw [scan_skip hnext hout] at h
    exact ih h

theorem parse_error_made {data : List UInt8} {source : String} {e : SyntaxError}
    (h : StyleSheet.parse data source = .error e) :
    ∃ problem offset token, e = SyntaxError.make data source problem offset token := by
  rw [parse_eq_file] at h
  obtain ⟨_, _, hraises, _⟩ := Reader.file_fails h
  rcases hraises with ⟨problem, t, rfl⟩ | hfail
  · exact ⟨problem, t.offset, _, rfl⟩
  · exact scan_failure_made data [] hfail

/-! ## Assignments and their first tokens -/

theorem Grammar.Passes.suffix {ts rest : List Token} (h : Passes ts rest) : rest <:+ ts := by
  obtain ⟨pre, -, -, rfl⟩ := h
  exact List.suffix_append pre rest

/-- An assignment's line is the line of its first token, counted by line feeds. -/
theorem Grammar.AssignmentText.line_eq {data : List UInt8} {t : Token} {ts rest : List Token}
    {a : Assignment} (h : AssignmentText data (t :: ts) a rest) :
    a.line = Position.lineOf data t.offset := by
  cases h
  rfl

theorem Grammar.BodyText.spelled {data : List UInt8} {ts rest : List Token} {as : List Assignment}
    (h : BodyText data ts as rest) :
    ∀ a ∈ as, ∃ t ts' rest', (t :: ts') <:+ ts ∧ AssignmentText data (t :: ts') a rest' := by
  induction h with
  | close => exact fun a ha => by cases ha
  | more first _ ih =>
    intro a ha
    rcases List.mem_cons.1 ha with rfl | ha
    · obtain ⟨t, ts', rfl, -⟩ := first.head
      exact ⟨t, ts', _, List.suffix_refl _, first⟩
    · obtain ⟨t, ts', rest', hsuf, hat⟩ := ih a ha
      exact ⟨t, ts', rest', hsuf.trans first.passes.suffix, hat⟩

/-- Each assignment of each block is spelled by the tokens from some point of the text on. -/
theorem Grammar.SheetText.spelled {data : List UInt8} {ts : List Token} {bs : List StyleBlock}
    (h : SheetText data ts bs) :
    ∀ b ∈ bs, ∀ a ∈ b.body,
      ∃ t ts' rest', (t :: ts') <:+ ts ∧ AssignmentText data (t :: ts') a rest' := by
  induction h with
  | eof => exact fun b hb => by cases hb
  | more first _ ih =>
    intro b hb a ha
    rcases List.mem_cons.1 hb with rfl | hb
    · cases first with
      | @mk n o ts rest as hn ho body =>
        obtain ⟨t, ts', rest', hsuf, hat⟩ := body.spelled a ha
        exact ⟨t, ts', rest', hsuf.trans (List.suffix_append [n, o] ts), hat⟩
    · obtain ⟨t, ts', rest', hsuf, hat⟩ := ih b hb a ha
      exact ⟨t, ts', rest', hsuf.trans first.passes.suffix, hat⟩

/-! ## The lines a reading reports -/

/-- On a text whose line breaks are line feeds, alone or after a carriage return, every line the
reader reports is the line the position walk gives: the reader's line of any token (which
assignments and the warnings about repeated paths and blocks carry), the line of every
assignment of a sheet read from the text, at the first of the tokens that spell it, and the line
of any syntax error, whose context is then the text's line with that number. -/
theorem reported_lines_agree (data : List UInt8) (source : String)
    (h : Position.FeedLines data) :
    (∀ failure t,
      ({ data, source, failure } : Reader).lineOf t = (Position.lineColumn data t.offset).1) ∧
    (∀ sheet, StyleSheet.parse data source = .ok sheet → ∀ st ∈ sheet.styles, ∀ a ∈ st.2,
      ∃ t ts rest, (t :: ts) <:+ (TokenStream.ofBytes data source).tokens ∧
        AssignmentText data (t :: ts) a rest ∧ a.line = (Position.lineColumn data t.offset).1) ∧
    (∀ e, StyleSheet.parse data source = .error e → e.context = Position.lineText data e.line) := by
  refine ⟨fun failure t => (Position.lineColumn_line h t.offset).symm, ?_, ?_⟩
  · intro sheet hparse st hst a ha
    obtain ⟨-, blocks, hb, hsty⟩ := parse_sound hparse
    rw [hsty] at hst
    -- a kept style is the entry of one of the blocks, and keeps some of its assignments
    obtain ⟨b, hmem, rfl⟩ := List.mem_map.1 (List.pwFilter_subset _ hst)
    obtain ⟨t, ts, rest, hsuf, hat⟩ := hb.spelled b hmem a (List.pwFilter_subset _ ha)
    exact ⟨t, ts, rest, hsuf, hat, by rw [hat.line_eq, Position.lineColumn_line h]⟩
  · intro e he
    obtain ⟨problem, offset, token, rfl⟩ := parse_error_made he
    exact Position.contextLine_eq_lineText h _

/-- A block written with carriage return and line feed pairs. -/
def crlfText : List UInt8 := Text.Utf8.encode "s \x7b\r\n  p: a;\r\n\x7d"

theorem crlf_lines_agree :
    Position.FeedLines crlfText ∧ ∀ failure t,
      ({ data := crlfText, source := "", failure } : Reader).lineOf t =
        (Position.lineColumn crlfText t.offset).1 :=
  have h : Position.FeedLines crlfText := by decide +kernel
  ⟨h, (reported_lines_agree crlfText "" h).1⟩

/-- A block whose assignment follows a lone carriage return. -/
def loneReturnText : List UInt8 := Text.Utf8.encode "s \x7b\rp: a; \x7d"

/-- After a lone carriage return the assignment `p: a` is read as written on line 1, while its
first token, at offset 4, is on line 2 for the position walk. -/
theorem lone_return_splits_lines :
    ((TokenStream.ofBytes loneReturnText "").tokens[2]?).map (·.offset) = some 4 ∧
      (StyleSheet.parse loneReturnText "").toOption.map (·.styles.map (·.2.map (·.line))) =
        some [[1]] ∧
      (Position.lineColumn loneReturnText 4).1 = 2 := by
  decide +kernel

end Theming.Sheet
