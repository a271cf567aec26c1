import Theming.Proofs.SheetGrammar

/-!
# The reader follows the grammar

Each function of the reader is tied to its relation of `Theming.Sheet.Grammar` twice:

* `_sound`: when the function succeeds, the tokens it passed over spell what it returns;
* `_complete`: when the tokens spell something and the next token is what the grammar asks for
  after it, the function returns exactly that and leaves the rest.

The leaves come first (argument lists, hex words, values, path segments), then assignments,
blocks and whole texts. The reader's loops carry a fallback for a step that would not shorten the
tokens; the progress facts of the grammar (`Passes`) show that it is never taken.
-/

set_option autoImplicit false

namespace Theming.Sheet

open Grammar

/-! ## Results of the reader's steps -/

instance : LawfulBEq TokenKind where
  eq_of_beq {a b} h := by cases a <;> cases b <;> first | rfl | cases h
  rfl {a} := by cases a <;> rfl

theorem bind_eq_ok {ε α β : Type} {x : Except ε α} {f : α → Except ε β} {b : β} :
    x >>= f = .ok b ↔ ∃ a, x = .ok a ∧ f a = .ok b := by
  cases x <;> simp [bind, Except.bind]

@[simp] theorem throw_eq_error {ε α : Type} (e : ε) : (throw e : Except ε α) = .error e := rfl

@[simp] theorem pure_eq_ok {ε α : Type} (a : α) : (pure a : Except ε α) = .ok a := rfl

@[simp] theorem error_bind {ε α β : Type} (e : ε) (f : α → Except ε β) :
    (Except.error e >>= f) = .error e := rfl

@[simp] theorem ok_bind {ε α β : Type} (a : α) (f : α → Except ε β) :
    (Except.ok a >>= f) = f a := rfl

namespace Reader

variable (r : Reader)

@[simp] theorem peek_cons (t : Token) (ts : List Token) : r.peek (t :: ts) = .ok t := rfl

@[simp] theorem next_cons (t : Token) (ts : List Token) : r.next (t :: ts) = .ok (t, ts) := rfl

theorem expect_cons {k : TokenKind} {t : Token} (what : Expectation) (ts : List Token)
    (ht : t.kind = k) : r.expect k what (t :: ts) = .ok (t, ts) := by
  simp [expect, ht]

/-- Past the last token the reader sees the end or the stream's error, so a token of any other
kind that it sees is the head of the list. -/
theorem eq_cons_of_peek {ts : List Token} {t : Token} (h : r.peek ts = .ok t)
    (ht : t.kind ≠ .eof) : ∃ rest, ts = t :: rest := by
  cases ts with
  | cons t' rest =>
    simp only [peek_cons, Except.ok.injEq] at h
    exact ⟨rest, by rw [h]⟩
  | nil =>
    simp only [peek] at h
    split at h
    · cases h
    · cases h
      exact absurd rfl ht

theorem eq_cons_of_next {ts rest : List Token} {t : Token} (h : r.next ts = .ok (t, rest))
    (ht : t.kind ≠ .eof) : ts = t :: rest := by
  cases ts with
  | cons t' ts' =>
    simp only [next_cons, Except.ok.injEq, Prod.mk.injEq] at h
    obtain ⟨rfl, rfl⟩ := h
    rfl
  | nil =>
    have hpeek : r.peek [] = .ok t := by
      simp only [next, Except.map] at h
      split at h
      · cases h
      · next heq =>
        simp only [Except.ok.injEq, Prod.mk.injEq] at h
        rw [heq, h.1]
    obtain ⟨_, hnil⟩ := r.eq_cons_of_peek hpeek ht
    cases hnil

theorem eq_cons_of_expect {k : TokenKind} {what : Expectation} {ts rest : List Token}
    {t : Token} (h : r.expect k what ts = .ok (t, rest)) (hk : k ≠ .eof) :
    t.kind = k ∧ ts = t :: rest := by
  obtain ⟨⟨t', ts'⟩, hnext, h⟩ := bind_eq_ok.1 h
  simp only at h
  split at h
  · next hkind =>
    simp only [pure_eq_ok, Except.ok.injEq, Prod.mk.injEq] at h
    obtain ⟨rfl, rfl⟩ := h
    have htk : t'.kind = k := by simpa using hkind
    exact ⟨htk, r.eq_cons_of_next hnext (htk ▸ hk)⟩
  · simp at h

/-! ## Argument lists -/

theorem argList_sound {fn : Token} {ts rest : List Token} {acc nums : List Float}
    (h : r.argList fn ts acc = .ok (nums, rest)) :
    ∃ xs, Numbers ts xs rest ∧ nums = acc.reverse ++ xs := by
  induction ts, acc using Reader.argList.induct generalizing nums rest with
  | case1 ts acc ih =>
  rw [Reader.argList] at h
  obtain ⟨⟨t, ts'⟩, hnext, h⟩ := bind_eq_ok.1 h
  simp only at h
  split at h
  · simp at h
  · next hnum =>
    have htn : t.kind = .number := by simpa using hnum
    have hts : ts = t :: ts' := r.eq_cons_of_next hnext (by simp [htn])
    obtain ⟨⟨sep, rest'⟩, hsep, h⟩ := bind_eq_ok.1 h
    simp only at h
    split at h
    · next hclose =>
      have hsk : sep.kind = .rparen := by simpa using hclose
      have hts' : ts' = sep :: rest' := r.eq_cons_of_next hsep (by simp [hsk])
      simp only [pure_eq_ok, Except.ok.injEq, Prod.mk.injEq] at h
      obtain ⟨rfl, rfl⟩ := h
      subst hts hts'
      exact ⟨[t.number], Numbers.last htn hsk, by simp⟩
    · split at h
      · simp at h
      · next hcomma =>
        have hsk : sep.kind = .comma := by simpa using hcomma
        have hts' : ts' = sep :: rest' := r.eq_cons_of_next hsep (by simp [hsk])
        subst hts hts'
        split at h
        · next hlt =>
          obtain ⟨xs, hxs, rfl⟩ := ih t rest' hlt h
          exact ⟨t.number :: xs, Numbers.more htn hsk hxs, by simp⟩
        · next hge =>
          simp only [List.length_cons] at hge
          omega

theorem argList_complete {fn : Token} {ts rest : List Token} {xs : List Float}
    (h : Numbers ts xs rest) (acc : List Float) :
    r.argList fn ts acc = .ok (acc.reverse ++ xs, rest) := by
  induction h generalizing acc with
  | last hn hc =>
    rw [Reader.argList]
    simp [hn, hc]
  | @more n c ts rest xs hn hc _ ih =>
    rw [Reader.argList]
    simp [hn, hc, ih]

theorem args_sound {fn : Token} {counts : List Nat} {ts rest : List Token} {nums : List Float}
    (h : r.args fn counts ts = .ok (nums, rest)) : Args counts ts nums rest := by
  obtain ⟨⟨o, ts'⟩, hopen, h₁⟩ := bind_eq_ok.1 h
  simp only at h₁
  obtain ⟨⟨nums', rest'⟩, hlist, h₂⟩ := bind_eq_ok.1 h₁
  simp only at h₂
  obtain ⟨hok, rfl⟩ := r.eq_cons_of_expect hopen (by decide)
  split at h₂
  · next hcount =>
    simp only [pure_eq_ok, Except.ok.injEq, Prod.mk.injEq] at h₂
    obtain ⟨rfl, rfl⟩ := h₂
    obtain ⟨xs, hxs, rfl⟩ := r.argList_sound hlist
    exact Args.mk hok hxs (by simpa using hcount)
  · simp at h₂

theorem args_complete {fn : Token} {counts : List Nat} {ts rest : List Token} {xs : List Float}
    (h : Args counts ts xs rest) : r.args fn counts ts = .ok (xs, rest) := by
  cases h with
  | mk ho nums hcount =>
    simp [args, r.expect_cons _ _ ho, r.argList_complete nums, hcount]

/-! ## Values -/

/-- A hash word is a color exactly when its digits are six or eight hex digits. -/
theorem hexColor_eq_ok {t : Token} {v : RawValue} :
    r.hexColor t = .ok v ↔ HexWord t.text ∧ v = { kind := .color, text := t.text } := by
  unfold hexColor HexWord
  dsimp only
  split
  · next hlen =>
    simp at hlen ⊢
    intro h
    omega
  · split
    · next hlen hhex =>
      simp only [Bool.not_eq_eq_eq_not, Bool.not_true, List.all_eq_false] at hhex
      obtain ⟨x, hx, hf⟩ := hhex
      simp only [reduceCtorEq, false_iff]
      rintro ⟨⟨-, hall⟩, -⟩
      simp [hall x hx] at hf
    · next hlen hhex =>
      simp only [Bool.not_eq_eq_eq_not, Bool.not_true, Bool.not_eq_false, List.all_eq_true] at hhex
      simp only [bne_iff_ne, ne_eq, Bool.and_eq_true, not_and, Decidable.not_not] at hlen
      simp only [Except.ok.injEq, List.mem_cons, List.not_mem_nil, or_false]
      constructor
      · intro h
        subst h
        exact ⟨⟨by omega, hhex⟩, rfl⟩
      · rintro ⟨-, rfl⟩
        rfl

theorem identValue_sound {t : Token} {ts rest : List Token} {v : RawValue} (ht : t.kind = .ident)
    (h : r.identValue t ts = .ok (v, rest)) : ValueText (t :: ts) v rest := by
  obtain ⟨nxt, hpeek, h₁⟩ := bind_eq_ok.1 h
  split at h₁
  · next hk =>
    -- a constructor: the name decides the form and the number of arguments
    split at h₁
    · next hname =>
      obtain ⟨⟨nums, rest'⟩, hargs, h₂⟩ := bind_eq_ok.1 h₁
      simp only [pure_eq_ok, Except.ok.injEq, Prod.mk.injEq] at h₂
      obtain ⟨rfl, rfl⟩ := h₂
      exact ValueText.rgb ht (by simpa using hname) (r.args_sound hargs)
    · split at h₁
      · next hname =>
        obtain ⟨⟨nums, rest'⟩, hargs, h₂⟩ := bind_eq_ok.1 h₁
        simp only [pure_eq_ok, Except.ok.injEq, Prod.mk.injEq] at h₂
        obtain ⟨rfl, rfl⟩ := h₂
        exact ValueText.rect ht (by simpa using hname) (r.args_sound hargs)
      · split at h₁
        · next hname =>
          obtain ⟨⟨nums, rest'⟩, hargs, h₂⟩ := bind_eq_ok.1 h₁
          simp only [pure_eq_ok, Except.ok.injEq, Prod.mk.injEq] at h₂
          obtain ⟨rfl, rfl⟩ := h₂
          exact ValueText.size ht (by simpa using hname) (r.args_sound hargs)
        · simp at h₁
  · next hk =>
    obtain ⟨rest', rfl⟩ := r.eq_cons_of_peek hpeek (by simp [hk])
    simp only [pure_eq_ok, Except.ok.injEq, Prod.mk.injEq, List.drop_succ_cons,
      List.drop_zero] at h₁
    obtain ⟨rfl, rfl⟩ := h₁
    exact ValueText.font ht hk
  · -- a bare name: a truth value, `nil` or a plain name
    have hname : ∀ w : RawValue, w = nameValue t.text → ValueText (t :: ts) w ts := by
      rintro w rfl
      exact ValueText.name ht
    cases hb : boolLiteral t.text with
    | some b =>
      simp only [hb, pure_eq_ok, Except.ok.injEq, Prod.mk.injEq] at h₁
      obtain ⟨rfl, rfl⟩ := h₁
      exact hname _ (by simp [nameValue, hb])
    | none =>
      simp only [hb] at h₁
      split at h₁
      all_goals
        simp only [pure_eq_ok, Except.ok.injEq, Prod.mk.injEq] at h₁
        obtain ⟨rfl, rfl⟩ := h₁
        exact hname _ (by simp_all [nameValue])

theorem value_sound {ts rest : List Token} {v : RawValue} (h : r.value ts = .ok (v, rest)) :
    ValueText ts v rest := by
  obtain ⟨⟨t, ts'⟩, hnext, h₁⟩ := bind_eq_ok.1 h
  simp only at h₁
  split at h₁
  · next hk =>
    rw [r.eq_cons_of_next hnext (by simp [hk])]
    simp only [pure_eq_ok, Except.ok.injEq, Prod.mk.injEq] at h₁
    obtain ⟨rfl, rfl⟩ := h₁
    exact ValueText.number hk
  · next hk =>
    rw [r.eq_cons_of_next hnext (by simp [hk])]
    obtain ⟨v', hhex, h₂⟩ := bind_eq_ok.1 h₁
    simp only [pure_eq_ok, Except.ok.injEq, Prod.mk.injEq] at h₂
    obtain ⟨rfl, rfl⟩ := h₂
    obtain ⟨hw, rfl⟩ := r.hexColor_eq_ok.1 hhex
    exact ValueText.hex hk hw
  · next hk =>
    rw [r.eq_cons_of_next hnext (by simp [hk])]
    obtain ⟨nxt, hpeek, h₂⟩ := bind_eq_ok.1 h₁
    split at h₂
    · -- a string followed by `capInsets` is an image
      next hcap =>
      simp only [Bool.and_eq_true, beq_iff_eq] at hcap
      obtain ⟨rest'', rfl⟩ := r.eq_cons_of_peek hpeek (by simp [hcap.1])
      obtain ⟨⟨insets, rest'⟩, hargs, h₃⟩ := bind_eq_ok.1 h₂
      simp only [pure_eq_ok, Except.ok.injEq, Prod.mk.injEq] at h₃
      obtain ⟨rfl, rfl⟩ := h₃
      simp only [List.drop_succ_cons, List.drop_zero] at hargs
      exact ValueText.image hk hcap.1 hcap.2 (r.args_sound hargs)
    · simp only [pure_eq_ok, Except.ok.injEq, Prod.mk.injEq] at h₂
      obtain ⟨rfl, rfl⟩ := h₂
      exact ValueText.string hk
  · next hk =>
    rw [r.eq_cons_of_next hnext (by simp [hk])]
    exact r.identValue_sound hk h₁
  · simp at h₁
  · simp at h₁

/-- After a value comes `;`, which is neither `(` nor a number nor `capInsets`, so the value's
reading is the one the grammar gives. -/
theorem value_complete {ts rest : List Token} {s : Token} {v : RawValue}
    (h : ValueText ts v (s :: rest)) (hs : s.kind = .semicolon) :
    r.value ts = .ok (v, s :: rest) := by
  cases h with
  | number ht => simp [value, ht]
  | hex ht hw => simp [value, ht, r.hexColor_eq_ok.2 ⟨hw, rfl⟩]
  | string ht => simp [value, ht, hs]
  | image ht hc hcap args => simp [value, ht, hc, hcap, r.args_complete args]
  | rgb ht hname args =>
    cases args with
    | mk ho nums hcount =>
      rcases hname with hname | hname <;>
        simp [value, identValue, ht, ho, hname, r.args_complete (Args.mk ho nums hcount)]
  | rect ht hname args =>
    cases args with
    | mk ho nums hcount =>
      simp [value, identValue, ht, ho, hname, r.args_complete (Args.mk ho nums hcount)]
  | size ht hname args =>
    cases args with
    | mk ho nums hcount =>
      simp [value, identValue, ht, ho, hname, r.args_complete (Args.mk ho nums hcount)]
  | font ht hn => simp [value, identValue, ht, hn]
  | @name t rest' ht =>
    simp only [value, next_cons, ok_bind, ht, identValue, peek_cons, hs]
    cases hb : boolLiteral t.text <;> simp only [nameValue, hb] <;>
      by_cases hn : t.text = "nil" <;> simp [hn]

/-! ## Paths and assignments -/

theorem pathTail_sound {ts rest : List Token} {acc : List String} {p : Path}
    (h : r.pathTail ts acc = .ok (p, rest)) :
    ∃ segs, Segments ts segs rest ∧ p = acc.reverse ++ segs := by
  induction ts, acc using Reader.pathTail.induct generalizing p rest with
  | case1 ts acc ih =>
  rw [Reader.pathTail] at h
  obtain ⟨t, hpeek, h₁⟩ := bind_eq_ok.1 h
  split at h₁
  · simp only [pure_eq_ok, Except.ok.injEq, Prod.mk.injEq] at h₁
    obtain ⟨rfl, rfl⟩ := h₁
    exact ⟨[], Segments.done, by simp⟩
  · next hdot =>
    have hd : t.kind = .dot := by simpa using hdot
    obtain ⟨ts', rfl⟩ := r.eq_cons_of_peek hpeek (by simp [hd])
    obtain ⟨⟨seg, rest'⟩, hseg, h₂⟩ := bind_eq_ok.1 h₁
    simp only at h₂
    split at h₂
    · simp at h₂
    · next hident =>
      have hs : seg.kind = .ident := by simpa using hident
      have hts' : ts' = seg :: rest' := r.eq_cons_of_next (by simpa using hseg) (by simp [hs])
      subst hts'
      split at h₂
      · next hlt =>
        obtain ⟨segs, hsegs, rfl⟩ := ih seg rest' hlt h₂
        exact ⟨seg.text :: segs, Segments.more hd hs hsegs, by simp⟩
      · next hge =>
        simp only [List.length_cons] at hge
        omega

/-- The segments stop at the first token that is not a dot. -/
theorem pathTail_complete {ts rest : List Token} {segs : List String}
    (h : Segments ts segs rest) (hstop : ∃ c rest', rest = c :: rest' ∧ c.kind ≠ .dot)
    (acc : List String) : r.pathTail ts acc = .ok (acc.reverse ++ segs, rest) := by
  induction h generalizing acc with
  | done =>
    obtain ⟨c, rest', rfl, hc⟩ := hstop
    rw [Reader.pathTail]
    simp [hc]
  | @more d s ts rest segs hd hs _ ih =>
    rw [Reader.pathTail]
    simp [hd, hs, ih hstop]

theorem path_sound {ts rest : List Token} {p : Path} (h : r.path ts = .ok (p, rest)) :
    ∃ t ts' segs, ts = t :: ts' ∧ t.kind = .ident ∧ Segments ts' segs rest ∧ p = t.text :: segs := by
  obtain ⟨⟨t, ts'⟩, hnext, h₁⟩ := bind_eq_ok.1 h
  simp only at h₁
  split at h₁
  · next hk =>
    obtain ⟨segs, hsegs, rfl⟩ := r.pathTail_sound h₁
    exact ⟨t, ts', segs, r.eq_cons_of_next hnext (by simp [hk]), hk, hsegs, by simp⟩
  · simp at h₁
  · simp at h₁

theorem assignment_sound {ts rest : List Token} {a : Assignment}
    (h : r.assignment ts = .ok (a, rest)) : AssignmentText r.data ts a rest := by
  obtain ⟨first, hfirst, h₁⟩ := bind_eq_ok.1 h
  obtain ⟨⟨p, rest₁⟩, hpath, h₂⟩ := bind_eq_ok.1 h₁
  simp only at h₂
  obtain ⟨⟨c, rest₂⟩, hcolon, h₃⟩ := bind_eq_ok.1 h₂
  simp only at h₃
  obtain ⟨⟨v, rest₃⟩, hvalue, h₄⟩ := bind_eq_ok.1 h₃
  simp only at h₄
  obtain ⟨⟨s, rest₄⟩, hsemi, h₅⟩ := bind_eq_ok.1 h₄
  simp only [pure_eq_ok, Except.ok.injEq, Prod.mk.injEq] at h₅
  obtain ⟨rfl, rfl⟩ := h₅
  obtain ⟨t, ts', segs, rfl, ht, hsegs, rfl⟩ := r.path_sound hpath
  obtain ⟨hc, rfl⟩ := r.eq_cons_of_expect hcolon (by decide)
  obtain ⟨hs, rfl⟩ := r.eq_cons_of_expect hsemi (by decide)
  simp only [peek_cons, Except.ok.injEq] at hfirst
  subst hfirst
  exact AssignmentText.mk ht hsegs hc (r.value_sound hvalue) hs

theorem assignment_complete {ts rest : List Token} {a : Assignment}
    (h : AssignmentText r.data ts a rest) : r.assignment ts = .ok (a, rest) := by
  cases h with
  | @mk t c s ts ts' rest segs v ht hsegs hc hvalue hs =>
    have htail := r.pathTail_complete hsegs ⟨c, ts', rfl, by simp [hc]⟩ [t.text]
    simp [assignment, path, ht, htail, r.expect_cons _ _ hc, r.value_complete hvalue hs,
      r.expect_cons _ _ hs, lineOf]

/-! ## Blocks and whole texts -/

/-- Adding an assignment to a block's list is an upsert by dotted path, whatever the warnings. -/
theorem addAssignment_fst (styleName : String) (list : List Assignment) (a : Assignment)
    (warnings : List String) :
    (addAssignment styleName list a warnings).1 = upsertBy (fun b => b.path.render) list a := by
  unfold addAssignment upsertBy
  dsimp only
  split
  · rfl
  · next hfind =>
    rw [List.filter_eq_self.2]
    intro b hb
    simpa using List.find?_eq_none.1 hfind b hb

/-- Adding a block to a sheet is an upsert by style name, and keeps the sheet's source. -/
theorem addBlock_styles (sheet : StyleSheet) (nameTok : Token) (list : List Assignment) :
    (r.addBlock sheet nameTok list).styles = upsertBy Prod.fst sheet.styles (nameTok.text, list) ∧
      (r.addBlock sheet nameTok list).source = sheet.source := by
  unfold addBlock upsertBy
  dsimp only
  split
  · exact ⟨rfl, rfl⟩
  · next hnone =>
    refine ⟨?_, rfl⟩
    simp only
    rw [List.filter_eq_self.2]
    rintro ⟨n, l⟩ hmem
    simp only [bne_iff_ne, ne_eq]
    rintro rfl
    simp [StyleSheet.style?, List.lookup_eq_none_iff] at hnone
    exact hnone _ l hmem rfl

theorem blockBody_sound {nameTok : Token} {ts rest : List Token} {list list' : List Assignment}
    {warnings warnings' : List String}
    (h : r.blockBody nameTok ts list warnings = .ok ((list', warnings'), rest)) :
    ∃ as, BodyText r.data ts as rest ∧ list' = as.foldl (upsertBy fun b => b.path.render) list := by
  induction ts, list, warnings using Reader.blockBody.induct generalizing list' warnings' rest with
  | case1 ts list warnings ih =>
  rw [Reader.blockBody] at h
  obtain ⟨t, hpeek, h₁⟩ := bind_eq_ok.1 h
  split at h₁
  · next hclose =>
    have hk : t.kind = .rbrace := by simpa using hclose
    obtain ⟨ts', rfl⟩ := r.eq_cons_of_peek hpeek (by simp [hk])
    simp only [pure_eq_ok, Except.ok.injEq, Prod.mk.injEq, List.drop_succ_cons,
      List.drop_zero] at h₁
    obtain ⟨⟨rfl, rfl⟩, rfl⟩ := h₁
    exact ⟨[], BodyText.close hk, rfl⟩
  · split at h₁
    · simp at h₁
    · obtain ⟨⟨a, rest₁⟩, hasg, h₂⟩ := bind_eq_ok.1 h₁
      have ha := r.assignment_sound hasg
      simp only at h₂
      split at h₂
      · next hlt =>
        obtain ⟨as, has, rfl⟩ := ih rest₁ _ _ hlt h₂
        exact ⟨a :: as, BodyText.more ha has, by simp [addAssignment_fst]⟩
      · next hge => exact absurd ha.passes.length_lt hge

theorem blockBody_complete (nameTok : Token) {ts rest : List Token} {as : List Assignment}
    (h : BodyText r.data ts as rest) (list : List Assignment) (warnings : List String) :
    ∃ warnings', r.blockBody nameTok ts list warnings =
      .ok ((as.foldl (upsertBy fun b => b.path.render) list, warnings'), rest) := by
  induction h generalizing list warnings with
  | close ht =>
    refine ⟨warnings, ?_⟩
    rw [Reader.blockBody]
    simp [ht]
  | @more ts ts' rest a as first _ ih =>
    obtain ⟨t, ts₀, rfl, ht⟩ := first.head
    have hlt := first.passes.length_lt
    obtain ⟨warnings', hw⟩ :=
      ih (upsertBy (fun b => b.path.render) list a) (addAssignment nameTok.text list a warnings).2
    refine ⟨warnings', ?_⟩
    rw [Reader.blockBody]
    -- decide the progress test before arithmetic normal forms can restate it
    simp only [peek_cons, ok_bind, r.assignment_complete first, hlt, if_true]
    simp [ht, addAssignment_fst, hw]

theorem block_sound {sheet s : StyleSheet} {ts rest : List Token}
    (h : r.block sheet ts = .ok (s, rest)) :
    ∃ b, BlockText r.data ts b rest ∧ s.source = sheet.source ∧
      s.styles = upsertBy Prod.fst sheet.styles b.entry := by
  obtain ⟨⟨n, rest₁⟩, hname, h₁⟩ := bind_eq_ok.1 h
  simp only at h₁
  obtain ⟨⟨o, rest₂⟩, hopen, h₂⟩ := bind_eq_ok.1 h₁
  simp only at h₂
  obtain ⟨⟨⟨list, warnings⟩, rest₃⟩, hbody, h₃⟩ := bind_eq_ok.1 h₂
  simp only [pure_eq_ok, Except.ok.injEq, Prod.mk.injEq] at h₃
  obtain ⟨rfl, rfl⟩ := h₃
  obtain ⟨hn, rfl⟩ := r.eq_cons_of_expect hname (by decide)
  obtain ⟨ho, rfl⟩ := r.eq_cons_of_expect hopen (by decide)
  obtain ⟨as, has, rfl⟩ := r.blockBody_sound hbody
  obtain ⟨hstyles, hsource⟩ := r.addBlock_styles { sheet with warnings } n
    (as.foldl (upsertBy fun b => b.path.render) [])
  refine ⟨⟨n.text, as⟩, BlockText.mk hn ho has, hsource, ?_⟩
  rw [hstyles, StyleBlock.entry, lastByKey_eq_foldl]

theorem block_complete (sheet : StyleSheet) {ts rest : List Token} {b : StyleBlock}
    (h : BlockText r.data ts b rest) :
    ∃ s, r.block sheet ts = .ok (s, rest) ∧ s.source = sheet.source ∧
      s.styles = upsertBy Prod.fst sheet.styles b.entry := by
  cases h with
  | @mk n o ts rest as hn ho body =>
    obtain ⟨warnings', hw⟩ := r.blockBody_complete n body [] sheet.warnings
    obtain ⟨hstyles, hsource⟩ := r.addBlock_styles { sheet with warnings := warnings' } n
      (as.foldl (upsertBy fun b => b.path.render) [])
    refine ⟨_, ?_, hsource, ?_⟩
    · simp [block, r.expect_cons _ _ hn, r.expect_cons _ _ ho, hw]
    · rw [hstyles, StyleBlock.entry, lastByKey_eq_foldl]

/-- How the reader's tokens end: with the end token after all others, when the text was read
without error, or, when it was not, with no end token and the stream's error past the last one. -/
def Closed (ts : List Token) : Prop :=
  (r.failure = none ∧ Ended ts) ∨ (r.failure.isSome ∧ ∀ t ∈ ts, t.kind ≠ .eof)

theorem closed_of_passes {ts rest : List Token} (h : r.Closed ts) (hp : Passes ts rest) :
    r.Closed rest := by
  rcases h with ⟨hf, he⟩ | ⟨hf, hne⟩
  · exact .inl ⟨hf, hp.ended he⟩
  · obtain ⟨pre, -, -, rfl⟩ := hp
    exact .inr ⟨hf, fun t ht => hne t (List.mem_append_right _ ht)⟩

/-- The reader sees the end only as the last token of a text read without error. -/
theorem eq_of_peek_eof {ts : List Token} {t : Token} (h : r.Closed ts) (hpeek : r.peek ts = .ok t)
    (hk : t.kind = .eof) : r.failure = none ∧ ts = [t] := by
  cases ts with
  | nil =>
    simp only [peek] at hpeek
    split at hpeek
    · cases hpeek
    · next hnone =>
      rcases h with ⟨-, body, e, -, -, hts⟩ | ⟨hf, -⟩
      · simp at hts
      · simp [hnone] at hf
  | cons t' ts' =>
    simp only [peek_cons, Except.ok.injEq] at hpeek
    subst hpeek
    rcases h with ⟨hf, he⟩ | ⟨-, hne⟩
    · exact ⟨hf, by rw [he.eq_singleton hk]⟩
    · exact absurd hk (hne t' (by simp))

theorem file_sound {sheet s : StyleSheet} {ts : List Token} (h : r.file sheet ts = .ok s)
    (hclosed : r.Closed ts) :
    r.failure = none ∧ ∃ bs, SheetText r.data ts bs ∧ s.source = sheet.source ∧
      s.styles = bs.foldl (fun st b => upsertBy Prod.fst st b.entry) sheet.styles := by
  induction sheet, ts using Reader.file.induct generalizing s with
  | case1 sheet ts ih =>
  rw [Reader.file] at h
  obtain ⟨t, hpeek, h₁⟩ := bind_eq_ok.1 h
  split at h₁
  · next heof =>
    have hk : t.kind = .eof := by simpa using heof
    simp only [pure_eq_ok, Except.ok.injEq] at h₁
    subst h₁
    obtain ⟨hf, rfl⟩ := r.eq_of_peek_eof hclosed hpeek hk
    exact ⟨hf, [], SheetText.eof hk, rfl, rfl⟩
  · obtain ⟨⟨sheet₁, rest⟩, hblock, h₂⟩ := bind_eq_ok.1 h₁
    simp only at h₂
    obtain ⟨b, hb, hsrc₁, hsty₁⟩ := r.block_sound hblock
    split at h₂
    · next hlt =>
      obtain ⟨hf, bs, hbs, hsrc, hsty⟩ :=
        ih sheet₁ rest hlt h₂ (r.closed_of_passes hclosed hb.passes)
      refine ⟨hf, b :: bs, SheetText.more hb hbs, hsrc.trans hsrc₁, ?_⟩
      rw [hsty, hsty₁, List.foldl_cons]
    · next hge => exact absurd hb.passes.length_lt hge

theorem file_complete (sheet : StyleSheet) {ts : List Token} {bs : List StyleBlock}
    (h : SheetText r.data ts bs) :
    ∃ s, r.file sheet ts = .ok s ∧ s.source = sheet.source ∧
      s.styles = bs.foldl (fun st b => upsertBy Prod.fst st b.entry) sheet.styles := by
  induction h generalizing sheet with
  | eof ht =>
    refine ⟨sheet, ?_, rfl, rfl⟩
    rw [Reader.file]
    simp [ht]
  | @more ts rest b bs first _ ih =>
    obtain ⟨s₁, hs₁, hsrc₁, hsty₁⟩ := r.block_complete sheet first
    obtain ⟨n, ts', rfl, hn⟩ := first.head
    obtain ⟨s, hs, hsrc, hsty⟩ := ih s₁
    have hlt := first.passes.length_lt
    refine ⟨s, ?_, hsrc.trans hsrc₁, ?_⟩
    · rw [Reader.file]
      simp only [peek_cons, ok_bind, hs₁, hlt, if_true]
      simp [hn, hs]
    · rw [hsty, hsty₁, List.foldl_cons]

end Reader

end Theming.Sheet
