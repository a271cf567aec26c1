import Theming.Proofs.TokenSpelling

/-!
# Tokens do not depend on how line breaks are written

Writing every line feed of a theme text as a carriage return and a line feed (`crlf`) changes
the offsets of its tokens and the place where its reading fails, and nothing else, as long as no
backslash is written (`TokenStream.ofBytes_crlf`): the kinds, texts and values of the tokens
are the same, and so is the problem a failing reading stops at. With a backslash they differ: a
string continued over a line break drops a backslash and the line feed after it, but keeps a
backslash, a carriage return and a line feed (`TokenStream.continuation_keeps_crlf`).

The two readings are run side by side, one lexeme at a time. The lexemes at the head of both
texts agree (`Lexeme.Agree`, proved of `Lexeme.next` in `Lexeme.next_crlf_agree`): they
have the same kind; a refused kind fails for its kind alone; blanks and comments are the same
lexeme with their line feeds rewritten; any other lexeme holds no line feed and is read with the
same width. Agreeing lexemes have the same outcome up to offsets (`lexemeOutcome_agree`) and
leave, of the text with carriage returns, the rest of the other text rewritten
(`consumed_agree`). The induction over the reading (`scan_crlf`) carries that the tokens
collected so far read the same.
-/

set_option autoImplicit false

namespace Theming.Sheet

/-- The text with every line feed written as a carriage return and a line feed. -/
def crlf (bs : List UInt8) : List UInt8 := bs.flatMap fun b => if b = 10 then [13, 10] else [b]

@[simp] theorem crlf_nil : crlf [] = [] := rfl

theorem crlf_cons (b : UInt8) (bs : List UInt8) :
    crlf (b :: bs) = (if b = 10 then [13, 10] else [b]) ++ crlf bs := List.flatMap_cons ..

@[simp] theorem crlf_cons_lf (bs : List UInt8) : crlf (10 :: bs) = 13 :: 10 :: crlf bs := by
  simp [crlf_cons]

@[simp] theorem crlf_cons_of_ne {b : UInt8} (bs : List UInt8) (h : b ≠ 10) :
    crlf (b :: bs) = b :: crlf bs := by
  simp [crlf_cons, h]

theorem crlf_append (a b : List UInt8) : crlf (a ++ b) = crlf a ++ crlf b := List.flatMap_append ..

theorem crlf_of_not_mem {bs : List UInt8} (h : 10 ∉ bs) : crlf bs = bs := by
  induction bs with
  | nil => rfl
  | cons b r ih =>
    rw [List.mem_cons, not_or] at h
    rw [crlf_cons_of_ne _ (Ne.symm h.1), ih h.2]

/-- A lexeme with no line feed is read the same from both texts, and what follows it is what
follows it in the text with line feeds. -/
theorem crlf_take_drop {bs : List UInt8} {w : Nat} (h : 10 ∉ bs.take w) :
    (crlf bs).take w = bs.take w ∧ (crlf bs).drop w = crlf (bs.drop w) := by
  have hsplit : crlf bs = bs.take w ++ crlf (bs.drop w) := by
    conv_lhs => rw [← List.take_append_drop w bs]
    rw [crlf_append, crlf_of_not_mem h]
  by_cases hw : w ≤ bs.length
  · have hlen : (bs.take w).length = w := List.length_take_of_le hw
    rw [hsplit]
    exact ⟨List.take_left' hlen, List.drop_left' hlen⟩
  · -- the lexeme runs to the end of the text
    have htake : bs.take w = bs := List.take_of_length_le (by omega)
    have hdrop : bs.drop w = [] := List.drop_of_length_le (by omega)
    rw [htake] at h
    rw [crlf_of_not_mem h, htake, hdrop, crlf_nil]
    exact ⟨rfl, rfl⟩


theorem head?_crlf {l : List UInt8} {b : UInt8} (h10 : b ≠ 10) (h13 : b ≠ 13) :
    (crlf l).head? = some b ↔ l.head? = some b := by
  cases l with
  | nil => rfl
  | cons x r =>
    by_cases hx : x = 10
    · subst hx
      simp only [crlf_cons_lf, List.head?_cons, Option.some.injEq]
      exact ⟨fun h => absurd h.symm h13, fun h => absurd h.symm h10⟩
    · rw [crlf_cons_of_ne _ hx, List.head?_cons, List.head?_cons]

/-- A byte other than a carriage return at the head of the text with carriage returns stands at
the head of the text with line feeds. -/
theorem crlf_eq_cons {l t : List UInt8} {b : UInt8} (hb : b ≠ 13) (h : crlf l = b :: t) :
    ∃ t', l = b :: t' ∧ t = crlf t' := by
  rcases l with _ | ⟨x, r⟩
  · cases h
  by_cases hx : x = 10
  · subst hx
    rw [crlf_cons_lf, List.cons.injEq] at h
    exact absurd h.1.symm hb
  · rw [crlf_cons_of_ne _ hx, List.cons.injEq] at h
    exact ⟨r, by rw [h.1], h.2.symm⟩

/-- A byte other than a line feed at the end of the text with carriage returns stands at the end
of the text with line feeds. -/
theorem crlf_eq_concat {l m : List UInt8} {b : UInt8} (hb : b ≠ 10) (h : crlf l = m ++ [b]) :
    ∃ l', l = l' ++ [b] ∧ crlf l' = m := by
  rcases List.eq_nil_or_concat l with rfl | ⟨l', x, rfl⟩
  · simp at h
  rw [List.concat_eq_append] at h ⊢
  rw [crlf_append] at h
  by_cases hx : x = 10
  · subst hx
    have h' : (crlf l' ++ [13]) ++ [10] = m ++ [b] := by
      rw [← h, crlf_cons_lf, crlf_nil, List.append_assoc]
      rfl
    have hlast := (List.append_inj' h' rfl).2
    rw [List.singleton_inj] at hlast
    exact absurd hlast.symm hb
  · rw [crlf_cons_of_ne _ hx, crlf_nil] at h
    obtain ⟨hm, hxb⟩ := List.append_inj' h rfl
    rw [List.singleton_inj] at hxb
    exact ⟨l', by rw [hxb], hm⟩

/-- A comment closes at the end of the text with carriage returns iff it closes at the end of the
text with line feeds. -/
theorem suffix_crlf (l : List UInt8) : [42, 47] <:+ crlf l ↔ [42, 47] <:+ l := by
  constructor
  · rintro ⟨m, hm⟩
    obtain ⟨l₁, rfl, h₁⟩ := @crlf_eq_concat l (m ++ [42]) 47 (by decide)
      (by rw [← hm, List.append_assoc]; rfl)
    obtain ⟨l₂, rfl, -⟩ := @crlf_eq_concat l₁ m 42 (by decide) h₁
    exact ⟨l₂, by rw [List.append_assoc]; rfl⟩
  · rintro ⟨m, rfl⟩
    refine ⟨crlf m, ?_⟩
    rw [crlf_append, crlf_cons_of_ne _ (by decide), crlf_cons_of_ne _ (by decide), crlf_nil]

/-! ## Runs of bytes -/

namespace Lexeme

/-- A run of bytes that stops at line breaks has the same length in both texts. -/
theorem countWhile_crlf {p : UInt8 → Bool} (h10 : p 10 = false) (h13 : p 13 = false)
    (bs : List UInt8) : countWhile p (crlf bs) = countWhile p bs := by
  induction bs with
  | nil => rfl
  | cons b r ih =>
    by_cases hb : b = 10
    · subst hb
      simp [countWhile, h10, h13]
    · rw [crlf_cons_of_ne _ hb]
      simp only [countWhile, ih]

/-- A run of bytes that stops at line feeds holds none. -/
theorem lf_not_mem_take_countWhile {p : UInt8 → Bool} (h10 : p 10 = false) (bs : List UInt8) :
    10 ∉ bs.take (countWhile p bs) := by
  intro h
  have := List.all_eq_true.1 (all_take_countWhile p bs) 10 h
  rw [h10] at this
  cases this

/-- A run of bytes that takes line breaks in is the same run in the text with carriage returns:
the run of blanks between two lexemes. -/
theorem countWhile_crlf_blank {p : UInt8 → Bool} (h10 : p 10 = true) (h13 : p 13 = true)
    (bs : List UInt8) :
    (crlf bs).take (countWhile p (crlf bs)) = crlf (bs.take (countWhile p bs)) ∧
      (crlf bs).drop (countWhile p (crlf bs)) = crlf (bs.drop (countWhile p bs)) := by
  induction bs with
  | nil => exact ⟨rfl, rfl⟩
  | cons b r ih =>
    by_cases hb : b = 10
    · subst hb
      simp only [crlf_cons_lf, countWhile, h10, h13, if_true, List.take_succ_cons,
        List.drop_succ_cons, ih.1, ih.2, and_self]
    · rw [crlf_cons_of_ne _ hb]
      by_cases hp : p b = true
      · simp only [countWhile, hp, if_true, List.take_succ_cons, List.drop_succ_cons, ih.1, ih.2,
          crlf_cons_of_ne _ hb, and_self]
      · simp only [countWhile, hp, Bool.false_eq_true, if_false, List.take_zero, List.drop_zero,
          crlf_nil, crlf_cons_of_ne _ hb, and_self]

/-! ## Names, when no backslash is written -/

theorem escapeWidth_of_ne {c : UInt8} (r : List UInt8) (hc : c ≠ 92) : escapeWidth (c :: r) = none := by
  unfold escapeWidth
  split
  · rename_i heq
    simp only [List.cons.injEq] at heq
    exact absurd heq.1 hc
  · rfl

/-- Without backslashes a name continues over name bytes only. -/
theorem nameTailWidth_of_no_backslash {bs : List UInt8} (h : 92 ∉ bs) :
    nameTailWidth bs = countWhile isNameChar bs := by
  induction bs with
  | nil => rw [nameTailWidth.eq_def]; rfl
  | cons c r ih =>
    rw [List.mem_cons, not_or] at h
    rw [nameTailWidth.eq_def]
    simp only [countWhile]
    split
    · rw [ih h.2]
    · rw [escapeWidth_of_ne r (Ne.symm h.1)]

theorem mem_crlf {b : UInt8} {l : List UInt8} (h10 : b ≠ 10) (h13 : b ≠ 13) :
    b ∈ crlf l ↔ b ∈ l := by
  induction l with
  | nil => rfl
  | cons x r ih =>
    by_cases hx : x = 10
    · subst hx
      simp only [crlf_cons_lf, List.mem_cons, ih]
      constructor
      · rintro (h | h | h)
        · exact absurd h h13
        · exact absurd h h10
        · exact .inr h
      · rintro (h | h)
        · exact absurd h h10
        · exact .inr (.inr h)
    · rw [crlf_cons_of_ne _ hx, List.mem_cons, List.mem_cons, ih]

theorem isNameChar_of_isNameStart {c : UInt8} (h : isNameStart c = true) : isNameChar c = true := by
  simp [isNameChar, h]

theorem identWidth_plain {c : UInt8} {t : List UInt8} (h45 : c ≠ 45) (h92 : c ≠ 92)
    (ht : 92 ∉ t) :
    identWidth (c :: t) = if isNameStart c then some (1 + countWhile isNameChar t) else none := by
  simp only [identWidth, List.cons.injEq, h45, false_and, imp_false, forall_const,
    not_false_eq_true, List.drop_zero, beq_iff_eq, h92, if_false]
  split <;> simp [nameTailWidth_of_no_backslash ht]

theorem identWidth_dash {d : UInt8} {u : List UInt8} (h92 : d ≠ 92) (hu : 92 ∉ u) :
    identWidth (45 :: d :: u) =
      if isNameStart d then some (2 + countWhile isNameChar u) else none := by
  simp only [identWidth, List.drop_one, List.tail_cons, beq_iff_eq, h92, if_false]
  split <;> simp [nameTailWidth_of_no_backslash hu]

/-- Without backslashes a name is the run of name bytes at its head. -/
theorem identWidth_of_no_backslash {bs : List UInt8} {w : Nat} (h : 92 ∉ bs)
    (hw : identWidth bs = some w) : w = countWhile isNameChar bs := by
  rcases bs with _ | ⟨c, t⟩
  · cases hw
  rw [List.mem_cons, not_or] at h
  by_cases h45 : c = 45
  · subst h45
    rcases t with _ | ⟨d, u⟩
    · cases hw
    rw [List.mem_cons, not_or] at h
    rw [identWidth_dash (Ne.symm h.2.1) h.2.2] at hw
    split at hw
    · rename_i hd
      cases hw
      have hdash : isNameChar 45 = true := by decide
      simp [countWhile, hdash, isNameChar_of_isNameStart hd]
      omega
    · cases hw
  · rw [identWidth_plain h45 (Ne.symm h.1) h.2] at hw
    split at hw
    · rename_i hc
      cases hw
      simp [countWhile, isNameChar_of_isNameStart hc]
      omega
    · cases hw

theorem identWidth_crlf {bs : List UInt8} (h : 92 ∉ bs) : identWidth (crlf bs) = identWidth bs := by
  rcases bs with _ | ⟨c, t⟩
  · rfl
  by_cases h10 : c = 10
  · subst h10
    simp [identWidth, isNameStart]
  rw [crlf_cons_of_ne _ h10]
  rw [List.mem_cons, not_or] at h
  have ht : 92 ∉ crlf t := by rw [mem_crlf (by decide) (by decide)]; exact h.2
  by_cases h45 : c = 45
  · subst h45
    rcases t with _ | ⟨d, u⟩
    · rfl
    rw [List.mem_cons, not_or] at h
    by_cases hd : d = 10
    · subst hd
      simp [identWidth, isNameStart]
    rw [crlf_cons_of_ne _ hd] at ht ⊢
    rw [List.mem_cons, not_or] at ht
    rw [identWidth_dash (Ne.symm h.2.1) h.2.2, identWidth_dash (Ne.symm h.2.1) ht.2,
      countWhile_crlf (by decide) (by decide)]
  · rw [identWidth_plain h45 (Ne.symm h.1) h.2, identWidth_plain h45 (Ne.symm h.1) ht,
      countWhile_crlf (by decide) (by decide)]

/-! ## Numbers -/

theorem not_lf_of_all {l : List UInt8} (h : l.all isNumberByte = true) : 10 ∉ l := by
  intro hmem
  have := List.all_eq_true.1 h 10 hmem
  revert this
  decide

/-- A sign reads the same from both texts: a line break is no sign. -/
theorem signWidth_crlf (l : List UInt8) : signWidth (crlf l) = signWidth l := by
  rcases l with _ | ⟨b, t⟩
  · rfl
  by_cases hb : b = 10
  · subst hb
    rfl
  rw [crlf_cons_of_ne _ hb]
  by_cases h43 : b = 43
  · subst h43
    rfl
  by_cases h45 : b = 45
  · subst h45
    rfl
  simp only [signWidth, List.cons.injEq, h43, h45, false_and, imp_false, forall_const,
    not_false_eq_true]

/-- A number lexeme is read the same from both texts: it has no line break, and a line break
after it is no point, exponent letter or digit. -/
theorem numberWidth_crlf (bs : List UInt8) : numberWidth (crlf bs) = numberWidth bs := by
  unfold numberWidth
  extract_lets sign' r' whole' afterWhole' mantissa' sign r whole afterWhole mantissa
  have hsign : sign' = sign := signWidth_crlf bs
  have hsignAll : (bs.take sign).all isNumberByte = true := signWidth_all bs
  have hr : r' = crlf r := by
    simp only [r', r, hsign]
    exact (crlf_take_drop (not_lf_of_all hsignAll)).2
  have hwhole : whole' = whole := by
    simp only [whole', whole, hr]
    exact countWhile_crlf (by decide) (by decide) r
  have hafterEq : afterWhole = bs.drop (sign + whole) := List.drop_drop ..
  have hafter : afterWhole' = crlf afterWhole := by
    simp only [afterWhole', hr, hwhole]
    exact (crlf_take_drop (lf_not_mem_take_countWhile (by decide) r)).2
  have hwholeAll : (bs.take (sign + whole)).all isNumberByte = true :=
    all_take_add hsignAll (number_take_digits r)
  -- the mantissa is made of number bytes
  have hmantissaAll : ∀ v, mantissa = some (some v) → (bs.take v).all isNumberByte = true := by
    intro v hv
    simp only [mantissa] at hv
    clear_value afterWhole
    split at hv
    · rename_i _ frac
      split at hv
      · cases hv
        have hpoint : bs.drop (sign + whole) = 46 :: frac := hafterEq.symm
        have hfrac : bs.drop (sign + whole + 1) = frac := by
          rw [← List.drop_drop, hpoint]
          rfl
        refine all_take_add (all_take_add hwholeAll (number_take_one hpoint rfl)) ?_
        rw [hfrac]
        exact number_take_digits frac
      · split at hv <;> cases hv
    · split at hv
      · cases hv
        exact hwholeAll
      · cases hv
  -- and read the same: a line break after the digits is no point
  have hmantissa : mantissa' = mantissa := by
    simp only [mantissa', mantissa, hafter, hwhole, hsign]
    clear_value afterWhole
    rcases afterWhole with _ | ⟨b, frac⟩
    · rfl
    by_cases h46 : b = 46
    · subst h46
      rw [crlf_cons_of_ne _ (by decide)]
      simp only
      rw [countWhile_crlf (by decide) (by decide)]
    by_cases h10 : b = 10
    · subst h10
      have h13 : (13 : UInt8) ≠ 46 := by decide
      simp only [crlf_cons_lf, List.cons.injEq, h46, h13, false_and, imp_false, forall_const,
        not_false_eq_true]
    · rw [crlf_cons_of_ne _ h10]
      simp only [List.cons.injEq, h46, false_and, imp_false, forall_const, not_false_eq_true]
  rw [hmantissa, hsign, hwhole]
  clear_value mantissa
  split
  · rfl
  · rfl
  rename_i _ v
  -- an exponent is read the same: a line break is no exponent letter, sign or digit
  rw [(crlf_take_drop (not_lf_of_all (hmantissaAll v rfl))).2]
  rcases bs.drop v with _ | ⟨e, r2⟩
  · rfl
  by_cases he : e = 10
  · subst he
    rfl
  rw [crlf_cons_of_ne _ he]
  dsimp -zeta only
  split
  · extract_lets esign' k' esign k
    have hesign : esign' = esign := signWidth_crlf r2
    have hesignAll : (r2.take esign).all isNumberByte = true := signWidth_all r2
    have hk : k' = k := by
      simp only [k', k, hesign]
      rw [(crlf_take_drop (not_lf_of_all hesignAll)).2]
      exact countWhile_crlf (by decide) (by decide) _
    rw [hk, hesign]
  · rfl

/-- A number lexeme, with the percent sign or the unit after it, is read the same from both
texts. -/
theorem numeric_crlf {bs : List UInt8} (h : 92 ∉ bs) : numeric (crlf bs) = numeric bs := by
  unfold numeric
  rw [numberWidth_crlf]
  cases hN : numberWidth bs with
  | none => rfl
  | some w =>
    simp only [Option.map_some, Option.some.injEq]
    have hrest : 92 ∉ bs.drop w := fun hm => h (List.mem_of_mem_drop hm)
    rw [(crlf_take_drop (not_lf_of_all (numberWidth_all hN).2)).2]
    generalize bs.drop w = rest at hrest
    rcases rest with _ | ⟨b, t⟩
    · rfl
    by_cases hb : b = 10
    · -- a line break after the number: no percent sign and no unit
      subst hb
      have h13 : (13 : UInt8) ≠ 37 := by decide
      have h10 : (10 : UInt8) ≠ 37 := by decide
      simp only [crlf_cons_lf, List.cons.injEq, h13, h10, false_and, imp_false, forall_const,
        not_false_eq_true]
      rw [← crlf_cons_lf, identWidth_crlf hrest]
    by_cases h37 : b = 37
    · subst h37
      rw [crlf_cons_of_ne _ (by decide)]
      simp only
    rw [crlf_cons_of_ne _ hb]
    simp only [List.cons.injEq, h37, false_and, imp_false, forall_const, not_false_eq_true]
    rw [← crlf_cons_of_ne _ hb, identWidth_crlf hrest]

/-! ## Hash words, strings, comments and the other constructs -/

theorem hashWidth_hash {r : List UInt8} (hr : 92 ∉ r) :
    hashWidth (35 :: r) =
      if 0 < countWhile isNameChar r then some (1 + countWhile isNameChar r) else none := by
  rcases r with _ | ⟨c, t⟩
  · rfl
  rw [List.mem_cons, not_or] at hr
  simp only [hashWidth, beq_iff_eq, Ne.symm hr.1, if_false,
    countWhile]
  split <;> simp [nameTailWidth_of_no_backslash hr.2]
  omega

theorem hashWidth_crlf {r : List UInt8} (hr : 92 ∉ r) :
    hashWidth (35 :: crlf r) = hashWidth (35 :: r) := by
  have hr' : 92 ∉ crlf r := by rw [mem_crlf (by decide) (by decide)]; exact hr
  rw [hashWidth_hash hr, hashWidth_hash hr', countWhile_crlf (by decide) (by decide)]

theorem hashWidth_kept {r : List UInt8} {w : Nat} (hr : 92 ∉ r) (hw : hashWidth (35 :: r) = some w) :
    10 ∉ (35 :: r).take (max w 1) := by
  rw [hashWidth_hash hr] at hw
  split at hw
  · cases hw
    rw [Nat.max_eq_left (by omega), Nat.add_comm, List.take_succ_cons, List.mem_cons, not_or]
    exact ⟨by decide, lf_not_mem_take_countWhile (by decide) r⟩
  · cases hw

/-- A string body with no backslash is read the same from both texts, unless a line break cuts
it, and then it is cut in both. A body that no line break cuts has no line feed. -/
theorem stringBodyWidth_crlf (q : UInt8) {r : List UInt8} (hr : 92 ∉ r) :
    ((stringBodyWidth q r).1 = false →
      stringBodyWidth q (crlf r) = stringBodyWidth q r ∧ 10 ∉ r.take (stringBodyWidth q r).2) ∧
    ((stringBodyWidth q r).1 = true → (stringBodyWidth q (crlf r)).1 = true) := by
  induction r with
  | nil =>
    rw [crlf_nil, stringBodyWidth.eq_def]
    simp
  | cons c t ih =>
    rw [List.mem_cons, not_or] at hr
    have ih := ih hr.2
    by_cases hc : c = 10
    · -- a line feed cuts the body, and so does the carriage return written before it
      subst hc
      rw [crlf_cons_lf, stringBodyWidth.eq_def, stringBodyWidth.eq_def]
      simp
    rw [crlf_cons_of_ne _ hc]
    unfold stringBodyWidth
    dsimp only
    have h92 : (c == 92) = false := beq_eq_false_iff_ne.2 (Ne.symm hr.1)
    by_cases hnl : (c == 10 || c == 13 || c == 12) = true
    · simp [hnl]
    by_cases hcq : (c == q) = true
    · simp [hnl, hcq, Ne.symm hc]
    simp only [hnl, hcq, h92, Bool.false_eq_true, if_false]
    obtain ⟨ih1, ih2⟩ := ih
    refine ⟨fun hb => ?_, ih2⟩
    obtain ⟨heq, hk⟩ := ih1 hb
    refine ⟨by rw [heq], ?_⟩
    rw [Nat.add_comm, List.take_succ_cons, List.mem_cons, not_or]
    exact ⟨Ne.symm hc, hk⟩

theorem commentBodyWidth_cons {b : UInt8} {t : List UInt8} (h : b = 42 → t.head? ≠ some 47) :
    commentBodyWidth (b :: t) = commentBodyWidth t + 1 := by
  rcases t with _ | ⟨d, u⟩
  · simp [commentBodyWidth]
  by_cases hb : b = 42
  · subst hb
    have hd : d ≠ 47 := fun hd => h rfl (by rw [hd]; rfl)
    simp only [commentBodyWidth, List.cons.injEq, hd, false_and, imp_false,
      forall_const, not_false_eq_true]
  · simp [commentBodyWidth, hb]

/-- A comment runs to the same closing mark in both texts. -/
theorem commentBodyWidth_crlf (l : List UInt8) :
    (crlf l).take (commentBodyWidth (crlf l)) = crlf (l.take (commentBodyWidth l)) ∧
      (crlf l).drop (commentBodyWidth (crlf l)) = crlf (l.drop (commentBodyWidth l)) := by
  induction l with
  | nil => exact ⟨rfl, rfl⟩
  | cons b t ih =>
    by_cases hb : b = 10
    · subst hb
      have h13 : (13 : UInt8) ≠ 42 := by decide
      have h10 : (10 : UInt8) ≠ 42 := by decide
      rw [crlf_cons_lf, commentBodyWidth_cons (fun h => absurd h h13),
        commentBodyWidth_cons (fun h => absurd h h10), commentBodyWidth_cons (fun h => absurd h h10)]
      simp only [List.take_succ_cons, List.drop_succ_cons, ih.1, ih.2, crlf_cons_lf, and_self]
    rw [crlf_cons_of_ne _ hb]
    by_cases hclose : b = 42 ∧ t.head? = some 47
    · -- the closing mark
      obtain ⟨rfl, ht⟩ := hclose
      rcases t with _ | ⟨d, u⟩
      · cases ht
      cases ht
      rw [crlf_cons_of_ne _ (by decide)]
      simp [commentBodyWidth]
    · have hclose' : b = 42 → (crlf t).head? ≠ some 47 := by
        rw [Ne, head?_crlf (by decide) (by decide)]
        exact fun h42 h47 => hclose ⟨h42, h47⟩
      rw [commentBodyWidth_cons hclose', commentBodyWidth_cons fun h42 h47 => hclose ⟨h42, h47⟩]
      simp only [List.take_succ_cons, List.drop_succ_cons, ih.1, ih.2, crlf_cons_of_ne _ hb,
        and_self]

/-- A unicode range is read the same from both texts. -/
theorem unicodeRangeWidth_crlf {u : UInt8} (hu : u ≠ 10) (cs : List UInt8) :
    unicodeRangeWidth (crlf (u :: cs)) = unicodeRangeWidth (u :: cs) := by
  rw [crlf_cons_of_ne _ hu]
  rcases cs with _ | ⟨d, r⟩
  · rfl
  by_cases hd : d = 10
  · subst hd
    simp [unicodeRangeWidth]
  rw [crlf_cons_of_ne _ hd]
  by_cases h43 : d = 43
  · subst h43
    simp only [unicodeRangeWidth]
    split
    · rw [countWhile_crlf (by decide) (by decide),
        (crlf_take_drop (lf_not_mem_take_countWhile (by decide) r)).2]
      generalize r.drop (countWhile isHex r) = x
      rcases x with _ | ⟨b, r2⟩
      · rfl
      by_cases hb : b = 10
      · subst hb
        simp
      rw [crlf_cons_of_ne _ hb]
      by_cases h45 : b = 45
      · subst h45
        simp only [@countWhile_crlf isHex (by decide) (by decide)]
      by_cases h63 : b = 63
      · subst h63
        simp only [@countWhile_crlf (· == 63) (by decide) (by decide)]
      simp only [List.cons.injEq, h45, h63, false_and, imp_false, forall_const,
        not_false_eq_true]
    · rfl
  · simp [unicodeRangeWidth, h43]

theorem matchWidth_crlf {c : UInt8} (hc : c ≠ 10) (cs : List UInt8) :
    matchWidth (crlf (c :: cs)) = matchWidth (c :: cs) := by
  rw [crlf_cons_of_ne _ hc]
  rcases cs with _ | ⟨d, r⟩
  · rfl
  by_cases hd : d = 10
  · subst hd
    simp [matchWidth]
  rw [crlf_cons_of_ne _ hd]
  by_cases h61 : d = 61
  · subst h61
    rfl
  · simp [matchWidth, h61]

/-! ## Lexemes that agree -/

/-- Kinds of lexemes that theme text refuses whatever their bytes: at-words, urls and the other
CSS constructs, numbers with a unit or a percent sign, and strings cut by a line break. -/
def refused (kind : LexemeKind) : Bool :=
  kind == .other || kind == .dimension || kind == .percentage || kind == .badString

/-- The lexeme `r'` read at the head of `crlf bs` agrees with the lexeme `r` read at the head of
`bs`: it has the same kind, and unless that kind is refused it is the lexeme of `bs` with its line
feeds written as carriage returns and line feeds, followed by the rest of `bs` so written. Only
blanks and comments hold line feeds. -/
structure Agree (bs : List UInt8) (r r' : LexemeKind × Nat) : Prop where
  kind : r'.1 = r.1
  take : refused r.1 = false → (crlf bs).take (max r'.2 1) = crlf (bs.take (max r.2 1))
  drop : refused r.1 = false → (crlf bs).drop (max r'.2 1) = crlf (bs.drop (max r.2 1))
  kept : refused r.1 = false → r.1 ≠ .blank → r.1 ≠ .comment → 10 ∉ bs.take (max r.2 1)
  comment : r.1 = .comment → 10 ∉ bs.take (max r.2 1) ∨ ∃ b, bs.take (max r.2 1) = 47 :: 42 :: b

variable {bs : List UInt8}

/-- A lexeme with no line feed, read with the same width from both texts. -/
theorem agree_kept (r : LexemeKind × Nat) (h : refused r.1 = false → 10 ∉ bs.take (max r.2 1)) :
    Agree bs r r :=
  ⟨rfl, fun hr => (crlf_take_drop (h hr)).1.trans (crlf_of_not_mem (h hr)).symm,
    fun hr => (crlf_take_drop (h hr)).2, fun hr _ _ => h hr, fun hc => .inl (h (by rw [hc]; rfl))⟩

/-- A refused lexeme read as the same kind. -/
theorem agree_refused {r r' : LexemeKind × Nat} (hk : r'.1 = r.1) (hr : refused r.1 = true) :
    Agree bs r r' :=
  ⟨hk, fun h => absurd hr (by rw [h]; decide), fun h => absurd hr (by rw [h]; decide),
    fun h => absurd hr (by rw [h]; decide), fun h => absurd hr (by rw [h]; decide)⟩

theorem agree_orDelim {c : UInt8} {cs : List UInt8} (hc : c ≠ 10)
    {o o' : Option (LexemeKind × Nat)} (h : Option.Rel (Agree (c :: cs)) o o') :
    Agree (c :: cs) (orDelim o) (orDelim o') := by
  cases h with
  | some h => exact h
  | none =>
    refine agree_kept (.delim, 1) fun _ => ?_
    simpa using Ne.symm hc

theorem rel_orElse {R : LexemeKind × Nat → LexemeKind × Nat → Prop}
    {a a' : Option (LexemeKind × Nat)} {f g : Unit → Option (LexemeKind × Nat)}
    (h : Option.Rel R a a') (h' : Option.Rel R (f ()) (g ())) :
    Option.Rel R (a.orElse f) (a'.orElse g) := by
  cases h with
  | some h => exact .some h
  | none => exact h'

/-- Refused constructs found at the same places. -/
theorem rel_other {o o' : Option Nat} (h : o.isSome = o'.isSome) (f g : Nat → Nat) :
    Option.Rel (Agree bs) (o.map fun w => (.other, f w)) (o'.map fun w => (.other, g w)) := by
  cases o <;> cases o' <;> simp only [Option.isSome_none, Option.isSome_some, reduceCtorEq] at h
  · exact .none
  · exact .some (agree_refused rfl rfl)

/-- A name is read the same from both texts, and so is a function; a url is found in both. -/
theorem identlike_agree (h : 92 ∉ bs) :
    Option.Rel (Agree bs) (identlike bs) (identlike (crlf bs)) := by
  unfold identlike
  rw [identWidth_crlf h]
  cases hw : identWidth bs with
  | none => exact .none
  | some w =>
    refine .some ?_
    have hpos := identWidth_pos hw
    have hkept : 10 ∉ bs.take w := by
      rw [identWidth_of_no_backslash h hw]
      exact lf_not_mem_take_countWhile (by decide) bs
    obtain ⟨htake, hdrop⟩ := crlf_take_drop hkept
    simp only [hdrop, htake]
    rcases hx : bs.drop w with _ | ⟨b, rest⟩
    · exact agree_kept _ fun _ => by rwa [Nat.max_eq_left hpos]
    by_cases hb : b = 10
    · -- a line break after the name
      subst hb
      have h13 : (13 : UInt8) ≠ 40 := by decide
      have h10 : (10 : UInt8) ≠ 40 := by decide
      simp only [crlf_cons_lf, List.cons.injEq, h13, h10, false_and, imp_false, forall_const,
        not_false_eq_true]
      exact agree_kept _ fun _ => by rwa [Nat.max_eq_left hpos]
    rw [crlf_cons_of_ne _ hb]
    by_cases h40 : b = 40
    · subst h40
      simp only
      split
      · exact agree_refused rfl rfl
      · -- a function: the name and its parenthesis
        refine agree_kept _ fun _ => ?_
        rw [Nat.max_eq_left (by omega), List.take_add, hx, List.mem_append, not_or]
        simpa using hkept
    · simp only [List.cons.injEq, h40, false_and, imp_false, forall_const, not_false_eq_true]
      exact agree_kept _ fun _ => by rwa [Nat.max_eq_left hpos]

/-- A string is read the same from both texts, and one cut by a line break is cut in both. -/
theorem stringLexeme_agree {q : UInt8} {r : List UInt8} (hq : q ≠ 10) (hr : 92 ∉ r) :
    Agree (q :: r) (stringLexeme (q :: r)) (stringLexeme (q :: crlf r)) := by
  obtain ⟨hgood, hbad⟩ := stringBodyWidth_crlf q hr
  unfold stringLexeme
  dsimp only
  rcases hs : stringBodyWidth q r with ⟨bad, w⟩
  cases bad
  · obtain ⟨heq, hkept⟩ := hgood (by rw [hs])
    rw [heq, hs]
    refine agree_kept _ fun _ => ?_
    rw [hs] at hkept
    dsimp only
    rw [Nat.max_eq_left (by omega), Nat.add_comm, List.take_succ_cons, List.mem_cons, not_or]
    exact ⟨Ne.symm hq, hkept⟩
  · have hbad' := hbad (by rw [hs])
    rcases hs' : stringBodyWidth q (crlf r) with ⟨bad', w'⟩
    rw [hs'] at hbad'
    cases hbad'
    exact agree_refused rfl rfl

theorem agree_ite {p : Prop} [Decidable p] {a a' b b' : LexemeKind × Nat}
    (ha : p → Agree bs a a') (hb : ¬p → Agree bs b b') :
    Agree bs (if p then a else b) (if p then a' else b') := by
  by_cases h : p
  · rw [if_pos h, if_pos h]
    exact ha h
  · rw [if_neg h, if_neg h]
    exact hb h

/-- A lexeme of one byte that is no line feed. -/
theorem agree_single {c : UInt8} {cs : List UInt8} (hc : c ≠ 10) (kind : LexemeKind) :
    Agree (c :: cs) (kind, 1) (kind, 1) :=
  agree_kept _ fun _ => by simpa using Ne.symm hc

/-- A run of blanks, line breaks included, is the same run in both texts. -/
theorem agree_blank {c : UInt8} {cs : List UInt8} (hc : isBlank c = true) {w' : Nat}
    (hw' : 1 + w' = countWhile isBlank (crlf (c :: cs))) :
    Agree (c :: cs) (.blank, 1 + countWhile isBlank cs) (.blank, 1 + w') := by
  have hrun := @countWhile_crlf_blank isBlank (by decide) (by decide) (c :: cs)
  have hw : 1 + countWhile isBlank cs = countWhile isBlank (c :: cs) := by
    simp only [countWhile, hc, if_true]
    omega
  refine ⟨rfl, fun _ => ?_, fun _ => ?_, fun _ h => absurd rfl h, fun h => by cases h⟩
  · dsimp only
    rw [Nat.max_eq_left (by omega), Nat.max_eq_left (by omega), hw, hw']
    exact hrun.1
  · dsimp only
    rw [Nat.max_eq_left (by omega), Nat.max_eq_left (by omega), hw, hw']
    exact hrun.2

theorem numeric_rel (h : 92 ∉ bs) : Option.Rel (Agree bs) (numeric bs) (numeric (crlf bs)) := by
  rw [numeric_crlf h]
  cases hn : numeric bs with
  | none => exact .none
  | some r =>
    refine .some (agree_kept r fun hr => ?_)
    -- a number that is neither a dimension nor a percentage is made of number bytes
    unfold numeric at hn
    obtain ⟨w, hw, rfl⟩ := Option.map_eq_some_iff.1 hn
    have hall := numberWidth_all hw
    split at hr
    · cases hr
    · split at hr
      · cases hr
      · rw [Nat.max_eq_left hall.1]
        exact not_lf_of_all hall.2

/-- A custom property name is found in both texts or in neither. -/
theorem customPropertyWidth_crlf (cs : List UInt8) :
    (customPropertyWidth (45 :: crlf cs)).isSome = (customPropertyWidth (45 :: cs)).isSome := by
  rcases cs with _ | ⟨d, t⟩
  · rfl
  by_cases hd : d = 10
  · subst hd
    simp [customPropertyWidth]
  rw [crlf_cons_of_ne _ hd]
  by_cases h45 : d = 45
  · subst h45
    rfl
  · simp [customPropertyWidth, h45]

/-- A comment runs over the same bytes in both texts. -/
theorem agree_comment (t : List UInt8) :
    Agree (47 :: 42 :: t) (.comment, 2 + commentBodyWidth t)
      (.comment, 2 + commentBodyWidth (crlf t)) := by
  obtain ⟨htake, hdrop⟩ := commentBodyWidth_crlf t
  refine ⟨rfl, fun _ => ?_, fun _ => ?_, fun _ _ h => absurd rfl h,
    fun _ => .inr ⟨t.take (commentBodyWidth t), by rw [Nat.max_eq_left (by omega), Nat.add_comm]; rfl⟩⟩
  all_goals
    dsimp only
    rw [Nat.max_eq_left (by omega), Nat.max_eq_left (by omega), crlf_cons_of_ne _ (by decide),
      crlf_cons_of_ne _ (by decide)]
  · rw [List.take_add, List.take_add]
    simp [htake]
  · rw [← List.drop_drop, ← List.drop_drop]
    simp [hdrop]

/-- The lexemes at the head of both texts agree, when the first byte is no line feed and no
backslash is written: the dispatch on the first byte, branch by branch. -/
theorem next_agree {c : UInt8} {cs : List UInt8} (hc : c ≠ 10) (h : 92 ∉ c :: cs) :
    Agree (c :: cs) (next (c :: cs)) (next (c :: crlf cs)) := by
  have hcs : 92 ∉ cs := fun hm => h (List.mem_cons_of_mem c hm)
  have hc92 : c ≠ 92 := fun he => h (he ▸ List.mem_cons_self)
  have hcons : c :: crlf cs = crlf (c :: cs) := (crlf_cons_of_ne _ hc).symm
  unfold next
  dsimp only
  refine agree_ite (fun hb => agree_blank hb ?_) fun _ => ?_
  · rw [← hcons]
    simp only [countWhile, hb, if_true]
    omega
  -- colon, semicolon, comma, braces, parentheses and brackets: one byte each
  iterate 8 refine agree_ite (fun _ => agree_single hc _) fun _ => ?_
  refine agree_ite (fun h35 => agree_orDelim hc ?_) fun _ => ?_
  · -- a hash word
    obtain rfl : c = 35 := by simpa using h35
    rw [hashWidth_crlf hcs]
    cases hw : hashWidth (35 :: cs) with
    | none => exact .none
    | some w => exact .some (agree_kept _ fun _ => hashWidth_kept hcs hw)
  refine agree_ite (fun _ => stringLexeme_agree hc hcs) fun _ => ?_
  refine agree_ite (fun _ => agree_orDelim hc (hcons ▸ numeric_rel h)) fun _ => ?_
  refine agree_ite (fun h45 => agree_orDelim hc (rel_orElse (hcons ▸ numeric_rel h)
    (rel_orElse (hcons ▸ identlike_agree h) ?_))) fun _ => ?_
  · -- the comment mark and custom property names
    obtain rfl : c = 45 := by simpa using h45
    split
    · rw [crlf_cons_of_ne _ (by decide), crlf_cons_of_ne _ (by decide)]
      exact .some (agree_refused rfl rfl)
    · rename_i hne
      split
      · rename_i heq
        obtain ⟨a, rfl, ha⟩ := crlf_eq_cons (by decide) heq
        obtain ⟨b, rfl, -⟩ := crlf_eq_cons (by decide) ha.symm
        exact absurd rfl (hne b)
      · exact rel_other (customPropertyWidth_crlf cs).symm _ _
  refine agree_ite (fun _ => agree_orDelim hc (rel_other (by rw [identWidth_crlf hcs]) _ _))
    fun _ => ?_
  refine agree_ite (fun _ => agree_orDelim hc
    (rel_other (by rw [hcons, matchWidth_crlf hc]) _ _)) fun _ => ?_
  refine agree_ite (fun h47 => ?_) fun _ => ?_
  · -- a comment, or a slash alone
    obtain rfl : c = 47 := by simpa using h47
    split
    · rw [crlf_cons_of_ne _ (by decide)]
      exact agree_comment _
    · rename_i hne
      split
      · rename_i heq
        obtain ⟨t', rfl, -⟩ := crlf_eq_cons (by decide) heq
        exact absurd rfl (hne t')
      · exact agree_single hc _
  refine agree_ite (fun h60 => ?_) fun _ => ?_
  · -- the comment mark, or a less-than sign alone
    split
    · rw [crlf_cons_of_ne _ (by decide), crlf_cons_of_ne _ (by decide),
        crlf_cons_of_ne _ (by decide)]
      exact agree_refused rfl rfl
    · rename_i hne
      split
      · rename_i heq
        obtain ⟨a, rfl, ha⟩ := crlf_eq_cons (by decide) heq
        obtain ⟨b, rfl, hb⟩ := crlf_eq_cons (by decide) ha.symm
        obtain ⟨d, rfl, -⟩ := crlf_eq_cons (by decide) hb.symm
        exact absurd rfl (hne d)
      · exact agree_single hc _
  refine agree_ite (fun h92 => absurd (by simpa using h92) hc92) fun _ => ?_
  refine agree_ite (fun _ => agree_orDelim hc (rel_orElse
    (rel_other (by rw [hcons, unicodeRangeWidth_crlf hc]) _ _) (hcons ▸ identlike_agree h)))
    fun _ => ?_
  refine agree_ite (fun _ => agree_orDelim hc (rel_orElse
    (rel_other (by rw [hcons, matchWidth_crlf hc]) _ _) ?_)) fun _ => ?_
  · -- a double bar
    split
    · rw [crlf_cons_of_ne _ (by decide)]
      exact .some (agree_refused rfl rfl)
    · rename_i hne
      split
      · rename_i heq
        obtain ⟨a, rfl, -⟩ := crlf_eq_cons (by decide) heq
        exact absurd rfl (hne a)
      · exact .none
  refine agree_ite (fun _ => agree_single hc _) fun _ => ?_
  exact agree_orDelim hc (rel_orElse (hcons ▸ numeric_rel h) (hcons ▸ identlike_agree h))

/-- The lexemes at the head of both texts agree when no backslash is written. -/
theorem next_crlf_agree {c : UInt8} {cs : List UInt8} (h : 92 ∉ c :: cs) :
    Agree (c :: cs) (next (c :: cs)) (next (crlf (c :: cs))) := by
  by_cases hc : c = 10
  · -- a line feed starts a run of blanks, and so does the carriage return written before it
    subst hc
    have h10 : isBlank 10 = true := by decide
    have h13 : isBlank 13 = true := by decide
    refine @agree_blank 10 cs h10 (countWhile isBlank (10 :: crlf cs)) ?_
    simp only [crlf_cons_lf, countWhile, h10, h13, if_true]
    omega
  · rw [crlf_cons_of_ne _ hc]
    exact next_agree hc h

end Lexeme

/-! ## Outcomes that agree -/

/-- What a token says apart from where it stands: its kind, its text and its value. -/
def Token.reading (t : Token) : TokenKind × String × Float := (t.kind, t.text, t.number)

namespace TokenStream

/-- What an outcome says apart from offsets: the problem it fails for, or the readings of the
tokens it gives, or nothing when it is skipped. -/
def Outcome.view : Outcome → Problem ⊕ Option (List (TokenKind × String × Float))
  | .fail problem _ _ => .inl problem
  | .emit tokens => .inr (some (tokens.map Token.reading))
  | .skip => .inr none

/-- Where a lexeme stands changes only the offsets of what it gives. -/
theorem lexemeOutcome_view_offset (kind : LexemeKind) (text after : List UInt8) (o o' : Nat) :
    (lexemeOutcome kind text after o').view = (lexemeOutcome kind text after o).view := by
  cases kind <;> simp only [lexemeOutcome] <;> (repeat' split) <;> rfl

/-- What follows a lexeme matters only when it is a point or a slash. -/
theorem lexemeOutcome_after (kind : LexemeKind) (text : List UInt8) {after after' : List UInt8}
    (o : Nat) (h46 : after'.head? = some 46 ↔ after.head? = some 46)
    (h47 : after'.head? = some 47 ↔ after.head? = some 47) :
    lexemeOutcome kind text after' o = lexemeOutcome kind text after o := by
  have hb46 : (after'.head? == some 46) = (after.head? == some 46) := by
    rw [Bool.eq_iff_iff, beq_iff_eq, beq_iff_eq, h46]
  have hb47 : (after'.head? == some 47) = (after.head? == some 47) := by
    rw [Bool.eq_iff_iff, beq_iff_eq, beq_iff_eq, h47]
  cases kind <;> simp only [lexemeOutcome, hb46, hb47]

/-- A comment is refused as open exactly when its body does not end with a star and a slash. -/
theorem commentOpen_iff (b : List UInt8) :
    ((47 :: 42 :: b).length < 4 ||
        !((47 :: 42 :: b).drop ((47 :: 42 :: b).length - 2) == [42, 47])) = true ↔
      ¬ [42, 47] <:+ b := by
  rcases b with _ | ⟨x, _ | ⟨y, t⟩⟩
  · simp
  · simp only [List.length_cons, List.length_nil]
    refine ⟨fun _ hs => ?_, fun _ => by simp⟩
    have := hs.length_le
    simp at this
  · rw [List.suffix_iff_eq_drop]
    simp only [List.length_cons, List.length_nil]
    have h₁ : t.length + 1 + 1 + 1 + 1 - 2 = t.length + 1 + 1 := by omega
    have h₂ : t.length + 1 + 1 - (0 + 1 + 1) = t.length := by omega
    rw [h₁, h₂, List.drop_succ_cons, List.drop_succ_cons, Bool.or_eq_true, decide_eq_true_iff,
      Bool.not_eq_true', beq_eq_false_iff_ne]
    refine ⟨?_, fun h => Or.inr fun h' => h h'.symm⟩
    rintro (h | h) h'
    · omega
    · exact h h'.symm

/-- A comment whose body is written with carriage returns is closed iff it is closed with line
feeds. -/
theorem comment_outcome_crlf (b after after' : List UInt8) (o : Nat) :
    lexemeOutcome .comment (47 :: 42 :: crlf b) after' o =
      lexemeOutcome .comment (47 :: 42 :: b) after o := by
  simp only [lexemeOutcome]
  by_cases hc : [42, 47] <:+ b
  · have hc' := (suffix_crlf b).2 hc
    rw [if_neg (by rwa [commentOpen_iff, not_not]), if_neg (by rwa [commentOpen_iff, not_not])]
  · have hc' : ¬ [42, 47] <:+ crlf b := fun h => hc ((suffix_crlf b).1 h)
    rw [if_pos ((commentOpen_iff _).2 hc'), if_pos ((commentOpen_iff _).2 hc)]

/-- A refused lexeme fails for its kind alone. -/
theorem lexemeOutcome_refused_view {kind : LexemeKind} (hk : Lexeme.refused kind = true)
    (text text' after after' : List UInt8) (o o' : Nat) :
    (lexemeOutcome kind text' after' o').view = (lexemeOutcome kind text after o).view := by
  cases kind <;> first | rfl | exact absurd hk (by decide)

/-- Agreeing lexemes have the same outcome, save for offsets. -/
theorem lexemeOutcome_agree {bs : List UInt8} {r r' : LexemeKind × Nat} (hag : Lexeme.Agree bs r r')
    (o o' : Nat) :
    (lexemeOutcome r'.1 ((crlf bs).take (max r'.2 1)) ((crlf bs).drop (max r'.2 1)) o').view =
      (lexemeOutcome r.1 (bs.take (max r.2 1)) (bs.drop (max r.2 1)) o).view := by
  rw [hag.kind]
  cases hr : Lexeme.refused r.1
  case true => exact lexemeOutcome_refused_view hr _ _ _ _ _ _
  rw [hag.take hr, hag.drop hr, lexemeOutcome_after _ _ _ (head?_crlf (by decide) (by decide))
    (head?_crlf (by decide) (by decide)), lexemeOutcome_view_offset]
  refine congrArg Outcome.view ?_
  -- only blanks and comments hold line feeds
  by_cases hb : r.1 = .blank
  · rw [hb]
    rfl
  by_cases hc : r.1 = .comment
  · rw [hc]
    rcases hag.comment hc with h10 | ⟨b, hbody⟩
    · rw [crlf_of_not_mem h10]
    · rw [hbody, crlf_cons_of_ne _ (by decide), crlf_cons_of_ne _ (by decide)]
      exact comment_outcome_crlf b _ _ o
  · rw [crlf_of_not_mem (hag.kept hr hb hc)]

theorem consumed_of_ne_delim {kind : LexemeKind} (hk : kind ≠ .delim) (w : Nat) (rest : List UInt8) :
    consumed kind w rest = w := by
  cases kind <;> first | rfl | exact absurd rfl hk

/-- After agreeing lexemes, and the line comment a double slash opens, the rest of the text with
carriage returns is the rest of the text with line feeds so written. -/
theorem consumed_agree {bs : List UInt8} {r r' : LexemeKind × Nat} (hag : Lexeme.Agree bs r r')
    (hr : Lexeme.refused r.1 = false) :
    (crlf bs).drop (consumed r'.1 (max r'.2 1) (crlf bs)) =
      crlf (bs.drop (consumed r.1 (max r.2 1) bs)) := by
  rw [hag.kind]
  by_cases hd : r.1 = .delim
  · have hkept := hag.kept hr (by rw [hd]; decide) (by rw [hd]; decide)
    have h47 : ((crlf (bs.drop (max r.2 1))).head? == some 47) =
        ((bs.drop (max r.2 1)).head? == some 47) := by
      rw [Bool.eq_iff_iff, beq_iff_eq, beq_iff_eq, head?_crlf (by decide) (by decide)]
    rw [hd]
    simp only [consumed]
    rw [hag.take hr, hag.drop hr, crlf_of_not_mem hkept, h47]
    split
    · unfold lineCommentWidth
      rw [← List.drop_drop, hag.drop hr, Lexeme.countWhile_crlf (by decide) (by decide),
        (crlf_take_drop (Lexeme.lf_not_mem_take_countWhile (by decide) _)).2, List.drop_drop]
    · exact hag.drop hr
  · rw [consumed_of_ne_delim hd, consumed_of_ne_delim hd]
    exact hag.drop hr

/-! ## The whole stream -/

/-- Only a kind that is not refused can give tokens or be skipped. -/
theorem not_refused_of_view {kind : LexemeKind} {text after : List UInt8} {o : Nat}
    {x : Option (List (TokenKind × String × Float))}
    (h : (lexemeOutcome kind text after o).view = .inr x) : Lexeme.refused kind = false := by
  cases kind <;> first | rfl | cases h

theorem crlf_cons_exists (c : UInt8) (cs : List UInt8) : ∃ c' cs', crlf (c :: cs) = c' :: cs' := by
  by_cases hc : c = 10
  · exact ⟨13, 10 :: crlf cs, by rw [hc, crlf_cons_lf]⟩
  · exact ⟨c, crlf cs, crlf_cons_of_ne _ hc⟩

/-- One step of both readings: the lexeme at the head of the text with carriage returns has the
outcome of the one at the head of the text with line feeds, save for offsets, and unless its kind
is refused it leaves the rest of that text rewritten. -/
theorem step_agree (data data' : List UInt8) {c : UInt8} {cs : List UInt8} (h : 92 ∉ c :: cs)
    {kind : LexemeKind} {width : Nat} (hnext : Lexeme.next (c :: cs) = (kind, width)) :
    ∃ c' cs' kind' width' out', crlf (c :: cs) = c' :: cs' ∧
      Lexeme.next (c' :: cs') = (kind', width') ∧
      lexemeOutcome kind' ((c' :: cs').take (max width' 1)) ((c' :: cs').drop (max width' 1))
        (data'.length - (c' :: cs').length) = out' ∧
      out'.view = (lexemeOutcome kind ((c :: cs).take (max width 1))
        ((c :: cs).drop (max width 1)) (data.length - (c :: cs).length)).view ∧
      (Lexeme.refused kind = false →
        (c' :: cs').drop (consumed kind' (max width' 1) (c' :: cs')) =
          crlf ((c :: cs).drop (consumed kind (max width 1) (c :: cs)))) := by
  obtain ⟨c', cs', hc'⟩ := crlf_cons_exists c cs
  have hag := Lexeme.next_crlf_agree h
  rw [hnext] at hag
  have hv := lexemeOutcome_agree hag (data.length - (c :: cs).length)
    (data'.length - (c' :: cs').length)
  have hrest := consumed_agree hag
  rw [hc'] at hv hrest
  exact ⟨c', cs', _, _, _, hc', rfl, rfl, hv, hrest⟩

/-- The tokens read from the text with carriage returns are those read from the text with line
feeds, save for offsets, and a reading that fails fails for the same problem. The induction
follows the reading of the text with line feeds, whose every lexeme agrees with one of the other
text. -/
theorem scan_crlf (data data' : List UInt8) (source : String) (rest : List UInt8)
    (acc acc' : List Token) (hr : 92 ∉ rest)
    (hacc : acc'.map Token.reading = acc.map Token.reading) :
    (scan data' source (crlf rest) acc').tokens.map Token.reading =
        (scan data source rest acc).tokens.map Token.reading ∧
      (scan data' source (crlf rest) acc').failure.map (·.problem) =
        (scan data source rest acc).failure.map (·.problem) := by
  induction rest, acc using TokenStream.scan.induct data generalizing acc' with
  | case1 acc =>
    rw [crlf_nil, scan.eq_1, scan.eq_1]
    simp only [List.map_append, List.map_reverse, hacc]
    -- the end token reads the same wherever it stands
    exact ⟨rfl, trivial⟩
  | case2 acc c cs kind width w problem o token hnext off hout =>
    simp only [w, off] at hout
    obtain ⟨c', cs', kind', width', out', hc', hnext', hout', hv, -⟩ :=
      step_agree data data' hr hnext
    rw [hout] at hv
    rw [hc']
    cases out' with
    | fail problem' o' token' =>
      simp only [Outcome.view, Sum.inl.injEq] at hv
      rw [scan_fail hnext' hout', scan_fail hnext hout, hv]
      simp only [List.map_reverse, hacc]
      exact ⟨trivial, rfl⟩
    | emit toks' => cases hv
    | skip => cases hv
  | case3 acc c cs kind width w toks hnext off hout ih =>
    simp only [w, off] at hout ih
    obtain ⟨c', cs', kind', width', out', hc', hnext', hout', hv, hrest⟩ :=
      step_agree data data' hr hnext
    have hkept := not_refused_of_view (by rw [hout]; rfl)
    rw [hout] at hv
    rw [hc']
    cases out' with
    | fail problem' o' token' => cases hv
    | emit toks' =>
      simp only [Outcome.view, Sum.inr.injEq, Option.some.injEq] at hv
      rw [scan_emit hnext' hout', scan_emit hnext hout, hrest hkept]
      refine ih (toks'.reverse ++ acc') (fun hm => hr (List.mem_of_mem_drop hm)) ?_
      simp only [List.map_append, List.map_reverse, hv, hacc]
    | skip => cases hv
  | case4 acc c cs kind width w hnext off hout ih =>
    simp only [w, off] at hout ih
    obtain ⟨c', cs', kind', width', out', hc', hnext', hout', hv, hrest⟩ :=
      step_agree data data' hr hnext
    have hkept := not_refused_of_view (by rw [hout]; rfl)
    rw [hout] at hv
    rw [hc']
    cases out' with
    | fail problem' o' token' => cases hv
    | emit toks' => cases hv
    | skip =>
      rw [scan_skip hnext' hout', scan_skip hnext hout, hrest hkept]
      exact ih acc' (fun hm => hr (List.mem_of_mem_drop hm)) hacc

/-- Writing line feeds as carriage returns and line feeds changes no token but in its offset,
and no failure but in its place, as long as no backslash is written. -/
theorem ofBytes_crlf (data : List UInt8) (source : String) (h : 92 ∉ data) :
    (ofBytes (crlf data) source).tokens.map Token.reading =
        (ofBytes data source).tokens.map Token.reading ∧
      (ofBytes (crlf data) source).failure.map (·.problem) =
        (ofBytes data source).failure.map (·.problem) :=
  scan_crlf data (crlf data) source data [] [] h rfl

theorem ofBytes_crlf_two_lines :
    92 ∉ [97, 10, 98] ∧
      (ofBytes (crlf [97, 10, 98]) "").tokens.map Token.reading =
          (ofBytes [97, 10, 98] "").tokens.map Token.reading ∧
        (ofBytes (crlf [97, 10, 98]) "").failure.map (·.problem) =
          (ofBytes [97, 10, 98] "").failure.map (·.problem) :=
  ⟨by decide, ofBytes_crlf [97, 10, 98] "" (by decide)⟩

/-- A string continued over a line break with a backslash: after a line feed the backslash and
the line feed are dropped, after a carriage return and a line feed both bytes are kept. -/
theorem continuation_keeps_crlf :
    (ofBytes [34, 97, 92, 10, 98, 34] "").tokens.map (·.text) = ["ab", ""] ∧
      (ofBytes (crlf [34, 97, 92, 10, 98, 34]) "").tokens.map (·.text) =
        ["a\r\nb", ""] := by
  decide +kernel

end TokenStream

end Theming.Sheet
