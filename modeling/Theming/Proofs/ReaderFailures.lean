import Mathlib
import Theming.Proofs.SheetReading

/-!
# How reading fails

Where a function of the reader fails, with respect to the grammar with argument counts left free.
That grammar is written here as languages of token words (`LooseValue`, `LooseSheet` and their
kin); `Starts L u` says that the tokens `u` start a word of `L`, and `Viable u` that they start a
sentence.

`FailsAt L ts e` is what each function of the reader guarantees when it fails while reading a
phrase of `L` from `ts`: the tokens it took before the error start such a phrase, and the error
is one the reader raises itself, at a token, or the error the token stream ended with, and lies
at or before the token after those it took (`Reader.Before`). The lemmas go up the reader from
argument lists to whole texts (`file_fails`). The phrases the reader reads without error are
words of the loose grammar, by the soundness lemmas of the reader and `ValueText.loose` and its
kin.
-/

set_option autoImplicit false

namespace Theming.Sheet.Grammar

/-! ## The grammar with argument counts left free -/

/-- `NUMBER (',' NUMBER)* ')'`. -/
inductive LooseNumbers : List Token → Prop
  | last {n c : Token} (hn : n.kind = .number) (hc : c.kind = .rparen) : LooseNumbers [n, c]
  | more {n c : Token} {w : List Token} (hn : n.kind = .number) (hc : c.kind = .comma)
      (tail : LooseNumbers w) : LooseNumbers (n :: c :: w)

/-- `'(' NUMBER (',' NUMBER)* ')'`, with any number of numbers. -/
inductive LooseArgs : List Token → Prop
  | mk {o : Token} {w : List Token} (ho : o.kind = .lparen) (nums : LooseNumbers w) :
      LooseArgs (o :: w)

/-- The names written before an argument list. -/
def constructorNames : List String := ["rgb", "rgba", "CGRect", "CGSize"]

/-- The value forms, with argument lists of any length. -/
inductive LooseValue : List Token → Prop
  | number {t : Token} (ht : t.kind = .number) : LooseValue [t]
  | hex {t : Token} (ht : t.kind = .hash) (hw : HexWord t.text) : LooseValue [t]
  | string {t : Token} (ht : t.kind = .string) : LooseValue [t]
  | image {t c : Token} {w : List Token} (ht : t.kind = .string) (hc : c.kind = .ident)
      (hcap : c.text = "capInsets") (args : LooseArgs w) : LooseValue (t :: c :: w)
  | call {t : Token} {w : List Token} (ht : t.kind = .ident) (hname : t.text ∈ constructorNames)
      (args : LooseArgs w) : LooseValue (t :: w)
  | font {t n : Token} (ht : t.kind = .ident) (hn : n.kind = .number) : LooseValue [t, n]
  | name {t : Token} (ht : t.kind = .ident) : LooseValue [t]

/-- `('.' IDENT)*`. -/
inductive LooseSegments : List Token → Prop
  | done : LooseSegments []
  | more {d s : Token} {w : List Token} (hd : d.kind = .dot) (hs : s.kind = .ident)
      (tail : LooseSegments w) : LooseSegments (d :: s :: w)

/-- `IDENT ('.' IDENT)*`. -/
inductive LoosePath : List Token → Prop
  | mk {t : Token} {w : List Token} (ht : t.kind = .ident) (segs : LooseSegments w) :
      LoosePath (t :: w)

/-- `path ':' value ';'`. -/
inductive LooseAssignment : List Token → Prop
  | mk {p v : List Token} {c s : Token} (path : LoosePath p) (hc : c.kind = .colon)
      (value : LooseValue v) (hs : s.kind = .semicolon) : LooseAssignment (p ++ c :: v ++ [s])

/-- `assignment* '}'`. -/
inductive LooseBody : List Token → Prop
  | close {t : Token} (ht : t.kind = .rbrace) : LooseBody [t]
  | more {a w : List Token} (first : LooseAssignment a) (tail : LooseBody w) : LooseBody (a ++ w)

/-- `IDENT '{' assignment* '}'`. -/
inductive LooseBlock : List Token → Prop
  | mk {n o : Token} {w : List Token} (hn : n.kind = .ident) (ho : o.kind = .lbrace)
      (body : LooseBody w) : LooseBlock (n :: o :: w)

/-- `block* EOF`. -/
inductive LooseSheet : List Token → Prop
  | eof {t : Token} (ht : t.kind = .eof) : LooseSheet [t]
  | more {b w : List Token} (first : LooseBlock b) (tail : LooseSheet w) : LooseSheet (b ++ w)

/-- The tokens `u` start a word of the language `L`. -/
def Starts (L : List Token → Prop) (u : List Token) : Prop := ∃ v, L (u ++ v)

/-- The tokens `u` start a sentence of the grammar with argument counts left free. -/
def Viable (u : List Token) : Prop := Starts LooseSheet u

/-! ## Starting a phrase -/

/-- A token of a kind, for completing phrases. -/
def blank (k : TokenKind) : Token := { kind := k, text := "", offset := 0 }

theorem Starts.of_word {L : List Token → Prop} {w : List Token} (h : L w) : Starts L [] :=
  ⟨w, h⟩

theorem Starts.take {L : List Token → Prop} {u : List Token} (h : Starts L u) (k : Nat) :
    Starts L (u.take k) := by
  obtain ⟨v, hv⟩ := h
  exact ⟨u.drop k ++ v, by rwa [← List.append_assoc, List.take_append_drop]⟩

theorem starts_numbers_number {n : Token} (hn : n.kind = .number) : Starts LooseNumbers [n] :=
  ⟨[blank .rparen], LooseNumbers.last hn rfl⟩

theorem starts_numbers_more {n c : Token} {u : List Token} (hn : n.kind = .number)
    (hc : c.kind = .comma) (h : Starts LooseNumbers u) : Starts LooseNumbers (n :: c :: u) := by
  obtain ⟨v, hv⟩ := h
  exact ⟨v, LooseNumbers.more hn hc hv⟩

theorem starts_args {o : Token} {u : List Token} (ho : o.kind = .lparen)
    (h : Starts LooseNumbers u) : Starts LooseArgs (o :: u) := by
  obtain ⟨v, hv⟩ := h
  exact ⟨v, LooseArgs.mk ho hv⟩

theorem starts_image {t c : Token} {u : List Token} (ht : t.kind = .string)
    (hc : c.kind = .ident) (hcap : c.text = "capInsets") (h : Starts LooseArgs u) :
    Starts LooseValue (t :: c :: u) := by
  obtain ⟨v, hv⟩ := h
  exact ⟨v, LooseValue.image ht hc hcap hv⟩

theorem starts_call {t : Token} {u : List Token} (ht : t.kind = .ident)
    (hname : t.text ∈ constructorNames) (h : Starts LooseArgs u) :
    Starts LooseValue (t :: u) := by
  obtain ⟨v, hv⟩ := h
  exact ⟨v, LooseValue.call ht hname hv⟩

theorem starts_segments_dot {d : Token} (hd : d.kind = .dot) : Starts LooseSegments [d] :=
  ⟨[blank .ident], LooseSegments.more hd rfl LooseSegments.done⟩

theorem starts_segments_more {d s : Token} {u : List Token} (hd : d.kind = .dot)
    (hs : s.kind = .ident) (h : Starts LooseSegments u) : Starts LooseSegments (d :: s :: u) := by
  obtain ⟨v, hv⟩ := h
  exact ⟨v, LooseSegments.more hd hs hv⟩

theorem starts_path {t : Token} {u : List Token} (ht : t.kind = .ident)
    (h : Starts LooseSegments u) : Starts LoosePath (t :: u) := by
  obtain ⟨v, hv⟩ := h
  exact ⟨v, LoosePath.mk ht hv⟩

/-- A started path is finished by a colon, a value and a semicolon. -/
theorem starts_assignment_path {u : List Token} (h : Starts LoosePath u) :
    Starts LooseAssignment u := by
  obtain ⟨v, hv⟩ := h
  refine ⟨v ++ blank .colon :: [blank .number] ++ [blank .semicolon], ?_⟩
  have hw := LooseAssignment.mk hv (c := blank .colon) rfl (LooseValue.number (t := blank .number) rfl)
    (s := blank .semicolon) rfl
  simpa using hw

theorem starts_assignment_value {p u : List Token} {c : Token} (hp : LoosePath p)
    (hc : c.kind = .colon) (h : Starts LooseValue u) : Starts LooseAssignment (p ++ c :: u) := by
  obtain ⟨v, hv⟩ := h
  refine ⟨v ++ [blank .semicolon], ?_⟩
  have hw := LooseAssignment.mk hp hc hv (s := blank .semicolon) rfl
  simpa using hw

theorem starts_body_assignment {u : List Token} (h : Starts LooseAssignment u) :
    Starts LooseBody u := by
  obtain ⟨v, hv⟩ := h
  refine ⟨v ++ [blank .rbrace], ?_⟩
  have hw := LooseBody.more hv (LooseBody.close (t := blank .rbrace) rfl)
  simpa using hw

theorem starts_body_more {a u : List Token} (ha : LooseAssignment a) (h : Starts LooseBody u) :
    Starts LooseBody (a ++ u) := by
  obtain ⟨v, hv⟩ := h
  exact ⟨v, by simpa using LooseBody.more ha hv⟩

theorem starts_block {n o : Token} {u : List Token} (hn : n.kind = .ident)
    (ho : o.kind = .lbrace) (h : Starts LooseBody u) : Starts LooseBlock (n :: o :: u) := by
  obtain ⟨v, hv⟩ := h
  exact ⟨v, LooseBlock.mk hn ho hv⟩

theorem starts_block_name {n : Token} (hn : n.kind = .ident) : Starts LooseBlock [n] :=
  ⟨[blank .lbrace, blank .rbrace], LooseBlock.mk hn rfl (LooseBody.close rfl)⟩

theorem viable_block {u : List Token} (h : Starts LooseBlock u) : Viable u := by
  obtain ⟨v, hv⟩ := h
  refine ⟨v ++ [blank .eof], ?_⟩
  simpa using LooseSheet.more hv (LooseSheet.eof (t := blank .eof) rfl)

theorem viable_more {b u : List Token} (hb : LooseBlock b) (h : Viable u) : Viable (b ++ u) := by
  obtain ⟨v, hv⟩ := h
  exact ⟨v, by simpa using LooseSheet.more hb hv⟩

/-! ## Phrases read with exact counts are loose words -/

theorem Numbers.loose {ts rest : List Token} {xs : List Float} (h : Numbers ts xs rest) :
    ∃ w, ts = w ++ rest ∧ LooseNumbers w := by
  induction h with
  | last hn hc => exact ⟨_, rfl, LooseNumbers.last hn hc⟩
  | more hn hc _ ih =>
    obtain ⟨w, rfl, hw⟩ := ih
    exact ⟨_, rfl, LooseNumbers.more hn hc hw⟩

theorem Args.loose {counts : List Nat} {ts rest : List Token} {xs : List Float}
    (h : Args counts ts xs rest) : ∃ w, ts = w ++ rest ∧ LooseArgs w := by
  cases h with
  | mk ho nums _ =>
    obtain ⟨w, rfl, hw⟩ := nums.loose
    exact ⟨_, rfl, LooseArgs.mk ho hw⟩

theorem ValueText.loose {ts rest : List Token} {v : RawValue} (h : ValueText ts v rest) :
    ∃ w, ts = w ++ rest ∧ LooseValue w := by
  cases h with
  | number ht => exact ⟨_, rfl, LooseValue.number ht⟩
  | hex ht hw => exact ⟨_, rfl, LooseValue.hex ht hw⟩
  | string ht => exact ⟨_, rfl, LooseValue.string ht⟩
  | image ht hc hcap args =>
    obtain ⟨w, rfl, hw⟩ := args.loose
    exact ⟨_, rfl, LooseValue.image ht hc hcap hw⟩
  | rgb ht hname args =>
    obtain ⟨w, rfl, hw⟩ := args.loose
    exact ⟨_, rfl, LooseValue.call ht (by rcases hname with h | h <;> simp [h, constructorNames]) hw⟩
  | rect ht hname args =>
    obtain ⟨w, rfl, hw⟩ := args.loose
    exact ⟨_, rfl, LooseValue.call ht (by simp [hname, constructorNames]) hw⟩
  | size ht hname args =>
    obtain ⟨w, rfl, hw⟩ := args.loose
    exact ⟨_, rfl, LooseValue.call ht (by simp [hname, constructorNames]) hw⟩
  | font ht hn => exact ⟨_, rfl, LooseValue.font ht hn⟩
  | name ht => exact ⟨_, rfl, LooseValue.name ht⟩

theorem Segments.loose {ts rest : List Token} {segs : List String} (h : Segments ts segs rest) :
    ∃ w, ts = w ++ rest ∧ LooseSegments w := by
  induction h with
  | done => exact ⟨[], rfl, LooseSegments.done⟩
  | more hd hs _ ih =>
    obtain ⟨w, rfl, hw⟩ := ih
    exact ⟨_, rfl, LooseSegments.more hd hs hw⟩

theorem AssignmentText.loose {data : List UInt8} {ts rest : List Token} {a : Assignment}
    (h : AssignmentText data ts a rest) : ∃ w, ts = w ++ rest ∧ LooseAssignment w := by
  cases h with
  | mk ht path hc value hs =>
    obtain ⟨p, hp, hpw⟩ := path.loose
    obtain ⟨v, rfl, hv⟩ := value.loose
    subst hp
    exact ⟨_, by simp, LooseAssignment.mk (LoosePath.mk ht hpw) hc hv hs⟩

theorem BodyText.loose {data : List UInt8} {ts rest : List Token} {as : List Assignment}
    (h : BodyText data ts as rest) : ∃ w, ts = w ++ rest ∧ LooseBody w := by
  induction h with
  | close ht => exact ⟨_, rfl, LooseBody.close ht⟩
  | more first _ ih =>
    obtain ⟨a, rfl, ha⟩ := first.loose
    obtain ⟨w, rfl, hw⟩ := ih
    exact ⟨_, by simp, LooseBody.more ha hw⟩

theorem BlockText.loose {data : List UInt8} {ts rest : List Token} {b : StyleBlock}
    (h : BlockText data ts b rest) : ∃ w, ts = w ++ rest ∧ LooseBlock w := by
  cases h with
  | mk hn ho body =>
    obtain ⟨w, rfl, hw⟩ := body.loose
    exact ⟨_, rfl, LooseBlock.mk hn ho hw⟩

end Theming.Sheet.Grammar

namespace Theming.Sheet

open Grammar

theorem bind_eq_error {ε α β : Type} {x : Except ε α} {f : α → Except ε β} {e : ε} :
    x >>= f = .error e ↔ x = .error e ∨ ∃ a, x = .ok a ∧ f a = .error e := by
  cases x <;> simp [bind, Except.bind]

namespace Reader

variable (r : Reader)

/-- The offset of the next token of `ts`; past the last one, that of the stream's error or the
end of the text. -/
def offsetAt : List Token → Nat
  | t :: _ => t.offset
  | [] => (r.failure.map SyntaxError.offset).getD r.data.length

/-- An error the reader raises: at a token, or the error its token stream ended with. -/
def Raises (e : SyntaxError) : Prop :=
  (∃ problem t, e = r.errorAt problem t) ∨ r.failure = some e

/-- An error the reader raises, at or before the next token of `ts`. -/
def Before (e : SyntaxError) (ts : List Token) : Prop := r.Raises e ∧ e.offset ≤ r.offsetAt ts

/-- How a step that reads a phrase of `L` from `ts` may fail: the tokens before the place of the
error start a phrase of `L`, and the error lies at or before the token after them. -/
def FailsAt (L : List Token → Prop) (ts : List Token) (e : SyntaxError) : Prop :=
  ∃ k, Starts L (ts.take k) ∧ r.Before e (ts.drop k)

variable {r}

/-! ### Where the reader's own errors lie -/

theorem errorAt_offset_le (problem : Problem) (t : Token) :
    (r.errorAt problem t).offset ≤ t.offset :=
  Nat.min_le_left _ _

theorem before_errorAt_cons (problem : Problem) (t : Token) (ts : List Token) :
    r.Before (r.errorAt problem t) (t :: ts) :=
  ⟨.inl ⟨problem, t, rfl⟩, errorAt_offset_le _ _⟩

theorem peek_error {ts : List Token} {e : SyntaxError} (h : r.peek ts = .error e) :
    r.Before e ts := by
  cases ts with
  | cons t ts =>
    rw [peek_cons] at h
    cases h
  | nil =>
    simp only [peek] at h
    split at h
    · next e' he =>
      cases h
      exact ⟨.inr he, by simp [offsetAt, he]⟩
    · cases h

/-- An error at the token the reader looks at lies at or before the next token: past the last
token that is the end token, at the end of the text. -/
theorem errorAt_peek {ts : List Token} {t : Token} (h : r.peek ts = .ok t) (problem : Problem) :
    r.Before (r.errorAt problem t) ts := by
  cases ts with
  | cons t' ts =>
    rw [peek_cons] at h
    cases h
    exact before_errorAt_cons _ _ _
  | nil =>
    simp only [peek] at h
    split at h
    · cases h
    · next hnone =>
      cases h
      exact ⟨.inl ⟨problem, _, rfl⟩, by simp [errorAt, SyntaxError.make, eofToken, offsetAt, hnone]⟩

theorem peek_of_next {ts rest : List Token} {t : Token} (h : r.next ts = .ok (t, rest)) :
    r.peek ts = .ok t := by
  unfold next at h
  cases hp : r.peek ts with
  | error e =>
    rw [hp] at h
    cases h
  | ok t' =>
    rw [hp] at h
    cases h
    rfl

theorem next_error {ts : List Token} {e : SyntaxError} (h : r.next ts = .error e) :
    r.Before e ts := by
  unfold next at h
  cases hp : r.peek ts with
  | error e' =>
    rw [hp] at h
    cases h
    exact peek_error hp
  | ok t =>
    rw [hp] at h
    cases h

theorem expect_error {k : TokenKind} {what : Expectation} {ts : List Token} {e : SyntaxError}
    (h : r.expect k what ts = .error e) : r.Before e ts := by
  unfold expect at h
  rcases bind_eq_error.1 h with hnext | ⟨⟨t, rest⟩, hnext, h₁⟩
  · exact next_error hnext
  · simp only at h₁
    split at h₁
    · cases h₁
    · cases h₁
      exact errorAt_peek (peek_of_next hnext) _

/-! ### Failing within a phrase -/

theorem FailsAt.here {L : List Token → Prop} {ts : List Token} {e : SyntaxError}
    (hL : Starts L []) (he : r.Before e ts) : r.FailsAt L ts e :=
  ⟨0, by simpa using hL, by simpa using he⟩

/-- An error right after the tokens `w`, which start a phrase. -/
theorem FailsAt.next {L : List Token → Prop} {w rest ts : List Token} {e : SyntaxError}
    (hts : ts = w ++ rest) (hw : Starts L w) (he : r.Before e rest) :
    r.FailsAt L ts e := by
  subst hts
  exact ⟨w.length, by simpa using hw, by simpa using he⟩

/-- A failure within a part that starts the phrase. -/
theorem FailsAt.mono {L L' : List Token → Prop} {ts : List Token} {e : SyntaxError}
    (h : r.FailsAt L' ts e) (hw : ∀ u, Starts L' u → Starts L u) : r.FailsAt L ts e := by
  obtain ⟨k, hk, he⟩ := h
  exact ⟨k, hw _ hk, he⟩

/-- A failure in a part of a phrase that comes after the tokens `w`. -/
theorem FailsAt.after {L L' : List Token → Prop} {w rest ts : List Token} {e : SyntaxError}
    (hts : ts = w ++ rest) (h : r.FailsAt L' rest e)
    (hw : ∀ u, Starts L' u → Starts L (w ++ u)) : r.FailsAt L ts e := by
  subst hts
  obtain ⟨k, hk, he⟩ := h
  refine ⟨w.length + k, ?_, ?_⟩
  · rw [List.take_length_add_append]
    exact hw _ hk
  · rwa [List.drop_length_add_append]

/-! ### The reader, function by function -/

theorem argList_fails {fn : Token} {ts : List Token} {acc : List Float} {e : SyntaxError}
    (h : r.argList fn ts acc = .error e) : r.FailsAt LooseNumbers ts e := by
  induction ts, acc using Reader.argList.induct with
  | case1 ts acc ih =>
  rw [Reader.argList] at h
  have hstart : Starts LooseNumbers [] := Starts.of_word (LooseNumbers.last (n := blank .number)
    (c := blank .rparen) rfl rfl)
  rcases bind_eq_error.1 h with hnext | ⟨⟨t, rest⟩, hnext, h₁⟩
  · exact .here hstart (next_error hnext)
  · simp only at h₁
    split at h₁
    · cases h₁
      exact .here hstart (errorAt_peek (peek_of_next hnext) _)
    · next hnum =>
      have htn : t.kind = .number := by simpa using hnum
      have hts : ts = [t] ++ rest := r.eq_cons_of_next hnext (by simp [htn])
      rcases bind_eq_error.1 h₁ with hsep | ⟨⟨sep, rest'⟩, hsep, h₂⟩
      · exact .next hts (starts_numbers_number htn) (next_error hsep)
      · simp only at h₂
        split at h₂
        · cases h₂
        · split at h₂
          · cases h₂
            exact .next hts (starts_numbers_number htn) (errorAt_peek (peek_of_next hsep) _)
          · next hcomma =>
            have hsk : sep.kind = .comma := by simpa using hcomma
            have hrest : rest = sep :: rest' := r.eq_cons_of_next hsep (by simp [hsk])
            split at h₂
            · next hlt =>
              exact .after (w := [t, sep]) (by simp [hts, hrest]) (ih t rest' hlt h₂)
                fun u hu => starts_numbers_more htn hsk hu
            · cases h₂

/-- An argument list fails within its tokens, or with the wrong count, at the name before it. -/
theorem args_fails {fn : Token} {counts : List Nat} {ts : List Token} {e : SyntaxError}
    (h : r.args fn counts ts = .error e) :
    r.FailsAt LooseArgs ts e ∨ ∃ problem, e = r.errorAt problem fn := by
  unfold args at h
  have hstart : Starts LooseArgs [] := Starts.of_word (LooseArgs.mk (o := blank .lparen) rfl
    (LooseNumbers.last (n := blank .number) (c := blank .rparen) rfl rfl))
  rcases bind_eq_error.1 h with hopen | ⟨⟨o, rest⟩, hopen, h₁⟩
  · exact .inl (.here hstart (expect_error hopen))
  · obtain ⟨ho, hts⟩ := r.eq_cons_of_expect hopen (by decide)
    rcases bind_eq_error.1 h₁ with hlist | ⟨⟨nums, rest'⟩, hlist, h₂⟩
    · exact .inl (.after (w := [o]) hts (argList_fails hlist) fun u hu => starts_args ho hu)
    · simp only at h₂
      split at h₂
      · cases h₂
      · cases h₂
        exact .inr ⟨_, rfl⟩

theorem hexColor_error {t : Token} {e : SyntaxError} (h : r.hexColor t = .error e) :
    ∃ problem, e = r.errorAt problem t := by
  unfold hexColor at h
  dsimp only at h
  split at h
  · cases h
    exact ⟨_, rfl⟩
  · split at h
    · cases h
      exact ⟨_, rfl⟩
    · cases h

/-- A constructor whose arguments fail: within them, or at its name. -/
theorem FailsAt.call {t : Token} {ts : List Token} {counts : List Nat} {e : SyntaxError}
    {f : List Float × List Token → Except SyntaxError (RawValue × List Token)}
    (ht : t.kind = .ident) (hname : t.text ∈ constructorNames) (hf : ∀ p e, f p ≠ .error e)
    (h : r.args t counts ts >>= f = .error e) : r.FailsAt LooseValue (t :: ts) e := by
  rcases bind_eq_error.1 h with hargs | ⟨p, -, hp⟩
  · rcases args_fails hargs with hin | ⟨problem, rfl⟩
    · exact .after (w := [t]) rfl hin fun u hu => starts_call ht hname hu
    · exact .here (Starts.of_word (LooseValue.name ht)) (before_errorAt_cons _ _ _)
  · exact absurd hp (hf p e)

theorem identValue_fails {t : Token} {ts : List Token} {e : SyntaxError} (ht : t.kind = .ident)
    (h : r.identValue t ts = .error e) : r.FailsAt LooseValue (t :: ts) e := by
  unfold identValue at h
  rcases bind_eq_error.1 h with hpeek | ⟨nxt, hpeek, h₁⟩
  · exact .next (w := [t]) rfl ⟨[], LooseValue.name ht⟩ (peek_error hpeek)
  · split at h₁
    · split at h₁
      · next hname =>
        have hn : t.text = "rgb" ∨ t.text = "rgba" := by simpa using hname
        refine .call ht (by rcases hn with h | h <;> simp [constructorNames, h]) ?_ h₁
        intro p e hp
        obtain ⟨_, _⟩ := p
        cases hp
      · split at h₁
        · next hname =>
          have hn : t.text = "CGRect" := by simpa using hname
          refine .call ht (by simp [constructorNames, hn]) ?_ h₁
          intro p e hp
          obtain ⟨_, _⟩ := p
          cases hp
        · split at h₁
          · next hname =>
            have hn : t.text = "CGSize" := by simpa using hname
            refine .call ht (by simp [constructorNames, hn]) ?_ h₁
            intro p e hp
            obtain ⟨_, _⟩ := p
            cases hp
          · cases h₁
            exact .here (Starts.of_word (LooseValue.name ht)) (before_errorAt_cons _ _ _)
    · cases h₁
    · split at h₁
      · cases h₁
      · split at h₁ <;> cases h₁

theorem value_fails {ts : List Token} {e : SyntaxError} (h : r.value ts = .error e) :
    r.FailsAt LooseValue ts e := by
  unfold value at h
  have hstart : Starts LooseValue [] := Starts.of_word (LooseValue.number (t := blank .number) rfl)
  rcases bind_eq_error.1 h with hnext | ⟨⟨t, rest⟩, hnext, h₁⟩
  · exact .here hstart (next_error hnext)
  · -- an error at the value's first token: nothing of the value has been read
    have hfirst : ∀ problem, r.FailsAt LooseValue ts (r.errorAt problem t) := fun problem =>
      .here hstart (errorAt_peek (peek_of_next hnext) problem)
    simp only at h₁
    split at h₁
    · cases h₁
    · next hk =>
      rcases bind_eq_error.1 h₁ with hhex | ⟨v, -, h₂⟩
      · obtain ⟨problem, rfl⟩ := hexColor_error hhex
        exact hfirst problem
      · cases h₂
    · next hk =>
      -- a string, perhaps with cap insets
      have hts : ts = [t] ++ rest := r.eq_cons_of_next hnext (by simp [hk])
      have hone : Starts LooseValue [t] := ⟨[], LooseValue.string hk⟩
      rcases bind_eq_error.1 h₁ with hpeek | ⟨nxt, hpeek, h₂⟩
      · exact .next hts hone (peek_error hpeek)
      · split at h₂
        · next hcap =>
          have hc : nxt.kind = .ident ∧ nxt.text = "capInsets" := by simpa using hcap
          obtain ⟨rest', hrest⟩ := r.eq_cons_of_peek hpeek (by simp [hc.1])
          rcases bind_eq_error.1 h₂ with hargs | ⟨p, -, h₃⟩
          · rw [hrest, List.drop_one, List.tail_cons] at hargs
            rcases args_fails hargs with hin | ⟨problem, rfl⟩
            · exact .after (w := [t, nxt]) (by simp [hts, hrest]) hin
                fun u hu => starts_image hk hc.1 hc.2 hu
            · exact .next hts hone (hrest ▸ before_errorAt_cons _ _ _)
          · obtain ⟨_, _⟩ := p
            cases h₃
        · cases h₂
    · next hk =>
      have hts : ts = t :: rest := r.eq_cons_of_next hnext (by simp [hk])
      rw [hts]
      exact identValue_fails hk h₁
    · cases h₁
      exact hfirst _
    · cases h₁
      exact hfirst _

theorem pathTail_fails {ts : List Token} {acc : List String} {e : SyntaxError}
    (h : r.pathTail ts acc = .error e) : r.FailsAt LooseSegments ts e := by
  induction ts, acc using Reader.pathTail.induct with
  | case1 ts acc ih =>
  rw [Reader.pathTail] at h
  rcases bind_eq_error.1 h with hpeek | ⟨t, hpeek, h₁⟩
  · exact .here ⟨[], LooseSegments.done⟩ (peek_error hpeek)
  · split at h₁
    · cases h₁
    · next hdot =>
      have hd : t.kind = .dot := by simpa using hdot
      obtain ⟨ts', hts⟩ := r.eq_cons_of_peek hpeek (by simp [hd])
      rw [hts, List.drop_one, List.tail_cons] at h₁
      rcases bind_eq_error.1 h₁ with hseg | ⟨⟨seg, rest⟩, hseg, h₂⟩
      · exact .next (w := [t]) hts (starts_segments_dot hd) (next_error hseg)
      · simp only at h₂
        split at h₂
        · cases h₂
          exact .next (w := [t]) hts (starts_segments_dot hd)
            (errorAt_peek (peek_of_next hseg) _)
        · next hident =>
          have hs : seg.kind = .ident := by simpa using hident
          have hts' : ts' = seg :: rest := r.eq_cons_of_next hseg (by simp [hs])
          split at h₂
          · next hlt =>
            exact .after (w := [t, seg]) (by simp [hts, hts'])
              (ih seg rest (by rw [hts]; exact hlt) h₂)
              fun u hu => starts_segments_more hd hs hu
          · cases h₂

theorem path_fails {ts : List Token} {e : SyntaxError} (h : r.path ts = .error e) :
    r.FailsAt LoosePath ts e := by
  unfold path at h
  have hstart : Starts LoosePath [] := Starts.of_word
    (LoosePath.mk (t := blank .ident) rfl LooseSegments.done)
  rcases bind_eq_error.1 h with hnext | ⟨⟨t, rest⟩, hnext, h₁⟩
  · exact .here hstart (next_error hnext)
  · simp only at h₁
    split at h₁
    · next hk =>
      exact .after (w := [t]) (r.eq_cons_of_next hnext (by simp [hk])) (pathTail_fails h₁)
        fun u hu => starts_path hk hu
    · cases h₁
      exact .here hstart (errorAt_peek (peek_of_next hnext) _)
    · cases h₁
      exact .here hstart (errorAt_peek (peek_of_next hnext) _)

theorem assignment_fails {ts : List Token} {e : SyntaxError} (h : r.assignment ts = .error e) :
    r.FailsAt LooseAssignment ts e := by
  unfold assignment at h
  have hstart : Starts LooseAssignment [] :=
    starts_assignment_path (Starts.of_word (LoosePath.mk (t := blank .ident) rfl LooseSegments.done))
  rcases bind_eq_error.1 h with hpeek | ⟨first, -, h₁⟩
  · exact .here hstart (peek_error hpeek)
  rcases bind_eq_error.1 h₁ with hpath | ⟨⟨p, rest₁⟩, hpath, h₂⟩
  · exact (path_fails hpath).mono fun u hu => starts_assignment_path hu
  -- the path was read: its tokens are a loose path
  obtain ⟨t, ts', segs, rfl, ht, hsegs, -⟩ := r.path_sound hpath
  obtain ⟨w, rfl, hw⟩ := hsegs.loose
  have hp : LoosePath (t :: w) := LoosePath.mk ht hw
  simp only at h₂
  rcases bind_eq_error.1 h₂ with hcolon | ⟨⟨c, rest₂⟩, hcolon, h₃⟩
  · exact .next rfl (starts_assignment_path ⟨[], by simpa using hp⟩) (expect_error hcolon)
  obtain ⟨hc, rfl⟩ := r.eq_cons_of_expect hcolon (by decide)
  simp only at h₃
  rcases bind_eq_error.1 h₃ with hvalue | ⟨⟨v, rest₃⟩, hvalue, h₄⟩
  · exact .after (w := t :: w ++ [c]) (by simp) (value_fails hvalue)
      fun u hu => by simpa using starts_assignment_value hp hc hu
  -- the value was read too: only the semicolon can be missing
  obtain ⟨vw, rfl, hv⟩ := (r.value_sound hvalue).loose
  simp only at h₄
  rcases bind_eq_error.1 h₄ with hsemi | ⟨⟨s, rest₄⟩, -, h₅⟩
  · exact .next (w := t :: w ++ c :: vw) (by simp)
      (starts_assignment_value hp hc ⟨[], by simpa using hv⟩) (expect_error hsemi)
  · cases h₅

theorem blockBody_fails {nameTok : Token} {ts : List Token} {list : List Assignment}
    {warnings : List String} {e : SyntaxError}
    (h : r.blockBody nameTok ts list warnings = .error e) : r.FailsAt LooseBody ts e := by
  induction ts, list, warnings using Reader.blockBody.induct with
  | case1 ts list warnings ih =>
  rw [Reader.blockBody] at h
  have hstart : Starts LooseBody [] := Starts.of_word (LooseBody.close (t := blank .rbrace) rfl)
  rcases bind_eq_error.1 h with hpeek | ⟨t, hpeek, h₁⟩
  · exact .here hstart (peek_error hpeek)
  split at h₁
  · cases h₁
  split at h₁
  · cases h₁
    exact .here hstart (errorAt_peek hpeek _)
  rcases bind_eq_error.1 h₁ with hasg | ⟨⟨a, rest⟩, hasg, h₂⟩
  · exact (assignment_fails hasg).mono fun u hu => starts_body_assignment hu
  obtain ⟨aw, hts, ha⟩ := (r.assignment_sound hasg).loose
  simp only at h₂
  split at h₂
  · next hlt => exact .after hts (ih rest _ _ hlt h₂) fun u hu => starts_body_more ha hu
  · cases h₂

theorem block_fails {sheet : StyleSheet} {ts : List Token} {e : SyntaxError}
    (h : r.block sheet ts = .error e) : r.FailsAt LooseBlock ts e := by
  unfold block at h
  rcases bind_eq_error.1 h with hname | ⟨⟨n, rest₁⟩, hname, h₁⟩
  · exact .here (Starts.of_word (LooseBlock.mk (n := blank .ident) (o := blank .lbrace) rfl rfl
      (LooseBody.close (t := blank .rbrace) rfl))) (expect_error hname)
  obtain ⟨hn, rfl⟩ := r.eq_cons_of_expect hname (by decide)
  simp only at h₁
  rcases bind_eq_error.1 h₁ with hopen | ⟨⟨o, rest₂⟩, hopen, h₂⟩
  · exact .next (w := [n]) rfl (starts_block_name hn) (expect_error hopen)
  obtain ⟨ho, rfl⟩ := r.eq_cons_of_expect hopen (by decide)
  simp only at h₂
  rcases bind_eq_error.1 h₂ with hbody | ⟨_, -, h₃⟩
  · exact .after (w := [n, o]) rfl (blockBody_fails hbody) fun u hu => starts_block hn ho hu
  · cases h₃

theorem file_fails {sheet : StyleSheet} {ts : List Token} {e : SyntaxError}
    (h : r.file sheet ts = .error e) : r.FailsAt LooseSheet ts e := by
  induction sheet, ts using Reader.file.induct with
  | case1 sheet ts ih =>
  rw [Reader.file] at h
  rcases bind_eq_error.1 h with hpeek | ⟨t, hpeek, h₁⟩
  · exact .here (Starts.of_word (LooseSheet.eof (t := blank .eof) rfl)) (peek_error hpeek)
  split at h₁
  · cases h₁
  rcases bind_eq_error.1 h₁ with hblock | ⟨⟨sheet', rest⟩, hblock, h₂⟩
  · exact (block_fails hblock).mono fun u hu => viable_block hu
  obtain ⟨b, hb, -⟩ := r.block_sound hblock
  obtain ⟨bw, hts, hbw⟩ := hb.loose
  simp only at h₂
  split at h₂
  · next hlt => exact .after hts (ih sheet' rest hlt h₂) fun u hu => viable_more hbw hu
  · cases h₂

end Reader

end Theming.Sheet
