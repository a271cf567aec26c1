import Theming.Proofs.SheetParse

/-!
# Reading theme text accepts exactly its grammar

The top of the ladder: `StyleSheet.parse` returns a sheet exactly when the token stream of the
text has no lexical error and its tokens follow the grammar of `Theming.Sheet.Grammar`. The
sheet it returns is then determined by the blocks the grammar finds, through two last-wins rules:

* the style names are listed once each, in the order of their last blocks (`List.dedup` keeps
  last occurrences), and their number is the sheet's size;
* the style of a name is the body of its last block, where each path (compared by its dotted
  form) keeps only its last assignment, at the place of that assignment.

The token stream's part is `scan_closed`: a stream read without error ends with its only end
token, and one that stops at an error has no end token at all, so the reader can never accept a
text whose tokens are cut short by an error.
-/

set_option autoImplicit false

namespace Theming.Sheet

open Grammar

/-! ## How the token stream ends -/

/-- Lexemes never produce the end token; only the end of the text does. -/
theorem lexemeOutcome_emit_ne_eof {kind : LexemeKind} {text after : List UInt8} {offset : Nat}
    {toks : List Token} (h : TokenStream.lexemeOutcome kind text after offset = .emit toks) :
    ∀ t ∈ toks, t.kind ≠ .eof := by
  cases kind <;> simp only [TokenStream.lexemeOutcome] at h <;> (repeat' split at h) <;>
    simp only [reduceCtorEq, TokenStream.Outcome.emit.injEq] at h <;> subst h <;> simp

/-- A lexeme takes at least its own width. -/
theorem consumed_ge (kind : LexemeKind) (width : Nat) (rest : List UInt8) :
    width ≤ TokenStream.consumed kind width rest := by
  unfold TokenStream.consumed
  dsimp only
  split <;> (try split) <;> omega

section Step

/-! The three ways one lexeme moves `TokenStream.scan` on: it stops at an error, emits tokens or
is skipped. Proofs about the stream go by `TokenStream.scan.induct` and rewrite with these. -/

variable {data : List UInt8} {source : String} {acc : List Token} {c : UInt8} {cs : List UInt8}
  {kind : LexemeKind} {width : Nat}

theorem scan_fail {problem : Problem} {o : Nat} {token : String}
    (hnext : Lexeme.next (c :: cs) = (kind, width))
    (hout : TokenStream.lexemeOutcome kind ((c :: cs).take (max width 1))
      ((c :: cs).drop (max width 1)) (data.length - (c :: cs).length) = .fail problem o token) :
    TokenStream.scan data source (c :: cs) acc =
      { tokens := acc.reverse, failure := some (SyntaxError.make data source problem o token) } := by
  rw [TokenStream.scan.eq_2, hnext]
  dsimp only
  rw [hout]

theorem scan_emit {toks : List Token} (hnext : Lexeme.next (c :: cs) = (kind, width))
    (hout : TokenStream.lexemeOutcome kind ((c :: cs).take (max width 1))
      ((c :: cs).drop (max width 1)) (data.length - (c :: cs).length) = .emit toks) :
    TokenStream.scan data source (c :: cs) acc =
      TokenStream.scan data source ((c :: cs).drop (TokenStream.consumed kind (max width 1) (c :: cs)))
        (toks.reverse ++ acc) := by
  rw [TokenStream.scan.eq_2, hnext]
  dsimp only
  rw [hout]

theorem scan_skip (hnext : Lexeme.next (c :: cs) = (kind, width))
    (hout : TokenStream.lexemeOutcome kind ((c :: cs).take (max width 1))
      ((c :: cs).drop (max width 1)) (data.length - (c :: cs).length) = .skip) :
    TokenStream.scan data source (c :: cs) acc =
      TokenStream.scan data source ((c :: cs).drop (TokenStream.consumed kind (max width 1) (c :: cs)))
        acc := by
  rw [TokenStream.scan.eq_2, hnext]
  dsimp only
  rw [hout]

end Step

/-- The tokens of a stream are closed as the reader expects: by the end token when there was no
error, and without any end token when there was one. -/
theorem scan_closed (data : List UInt8) (source : String) (rest : List UInt8) (acc : List Token)
    (hacc : ∀ t ∈ acc, t.kind ≠ .eof) :
    ({ data, source, failure := (TokenStream.scan data source rest acc).failure } : Reader).Closed
      (TokenStream.scan data source rest acc).tokens := by
  induction rest, acc using TokenStream.scan.induct data with
  | case1 acc =>
    rw [TokenStream.scan.eq_1]
    exact .inl ⟨rfl, acc.reverse, _, rfl, by simpa using hacc, rfl⟩
  | case2 acc c cs kind width _ problem o token hnext _ hout =>
    rw [scan_fail hnext hout]
    exact .inr ⟨rfl, by simpa using hacc⟩
  | case3 acc c cs kind width _ toks hnext _ hout ih =>
    rw [scan_emit hnext hout]
    refine ih ?_
    intro t ht
    rcases List.mem_append.1 ht with h | h
    · exact lexemeOutcome_emit_ne_eof hout t (List.mem_reverse.1 h)
    · exact hacc t h
  | case4 acc c cs kind width _ hnext _ hout ih =>
    rw [scan_skip hnext hout]
    exact ih hacc

/-! ## What the last-wins rules keep -/

/-- The keys kept are all keys once each, in the order of their last entries. -/
theorem map_fst_lastByKey {γ : Type} (l : List (String × γ)) :
    (lastByKey Prod.fst l).map Prod.fst = (l.map Prod.fst).dedup := by
  rw [List.dedup, List.pwFilter_map]
  rfl

/-- Looking a key up among the kept entries finds its last entry. -/
theorem lookup_lastByKey {γ : Type} (name : String) (l : List (String × γ)) :
    (lastByKey Prod.fst l).lookup name = (l.reverse.find? (·.1 == name)).map Prod.snd := by
  induction l with
  | nil => rfl
  | cons x l ih =>
    rw [lastByKey_cons, List.reverse_cons, List.find?_append, List.find?_singleton]
    by_cases hlater : ∀ y ∈ l, x.1 ≠ y.1
    · rw [if_pos hlater, List.lookup_cons]
      split
      · -- `x` has the name and is its last entry
        next heq =>
        have hx : x.1 = name := (beq_iff_eq.1 heq).symm
        have hnone : l.reverse.find? (·.1 == name) = none := by
          rw [List.find?_eq_none]
          intro y hy hyn
          exact hlater y (List.mem_reverse.1 hy) (hx.trans (beq_iff_eq.1 hyn).symm)
        rw [hnone, Option.none_or, if_pos (beq_iff_eq.2 hx)]
        rfl
      · next hne =>
        have hx : (x.1 == name) = false := by
          rw [beq_eq_false_iff_ne]
          exact fun h => Bool.false_ne_true (hne.symm.trans (beq_iff_eq.2 h.symm))
        rw [ih, hx, if_neg Bool.false_ne_true, Option.or_none]
    · -- a later entry has the key of `x`, so the search from the end stops before `x`
      rw [if_neg hlater, ih]
      simp only [not_forall, not_not] at hlater
      obtain ⟨y, hy, hxy⟩ := hlater
      by_cases hx : (x.1 == name) = true
      · have hsome : (l.reverse.find? (·.1 == name)).isSome := by
          rw [List.find?_isSome]
          exact ⟨y, List.mem_reverse.2 hy, hxy ▸ hx⟩
        obtain ⟨z, hz⟩ := Option.isSome_iff_exists.1 hsome
        rw [hz, Option.some_or]
      · rw [if_neg hx, Option.or_none]

/-! ## The reader against the grammar -/

theorem parse_eq_file (data : List UInt8) (source : String) :
    StyleSheet.parse data source =
      ({ data, source, failure := (TokenStream.ofBytes data source).failure } : Reader).file
        { source } (TokenStream.ofBytes data source).tokens :=
  rfl

/-- A sheet read from text is made of the blocks its tokens spell, by the last-wins rule on
names. -/
theorem parse_sound {data : List UInt8} {source : String} {sheet : StyleSheet}
    (h : StyleSheet.parse data source = .ok sheet) :
    (TokenStream.ofBytes data source).failure = none ∧
      ∃ blocks, SheetText data (TokenStream.ofBytes data source).tokens blocks ∧
        sheet.styles = lastByKey Prod.fst (blocks.map StyleBlock.entry) := by
  obtain ⟨hf, blocks, hb, -, hsty⟩ :=
    Reader.file_sound _ (parse_eq_file data source ▸ h) (scan_closed data source data [] (by simp))
  refine ⟨hf, blocks, hb, ?_⟩
  rw [hsty, lastByKey_eq_foldl, List.foldl_map]

/-- Theme text is read into a sheet exactly when its token stream has no error and its tokens
follow the grammar `block* EOF`. The sheet then lists each style name once, ordered by its last
block, has as many styles as distinct names, and gives each name the assignments of its last
block with each path keeping only its last assignment, where that one was written. -/
theorem parse_ok_iff_sheetText (data : List UInt8) (source : String) :
    ((∃ sheet, StyleSheet.parse data source = .ok sheet) ↔
      (TokenStream.ofBytes data source).failure = none ∧
        ∃ blocks, SheetText data (TokenStream.ofBytes data source).tokens blocks) ∧
    ∀ sheet blocks, StyleSheet.parse data source = .ok sheet →
      SheetText data (TokenStream.ofBytes data source).tokens blocks →
      sheet.names = (blocks.map StyleBlock.name).dedup ∧
      sheet.size = (blocks.map StyleBlock.name).dedup.length ∧
      ∀ name, sheet.style? name =
        (blocks.reverse.find? (·.name == name)).map fun b => lastByKey (·.path.render) b.body := by
  -- every derivation is read, into the sheet the last-wins rules describe
  have hread : ∀ blocks, SheetText data (TokenStream.ofBytes data source).tokens blocks →
      ∃ s, StyleSheet.parse data source = .ok s ∧
        s.styles = lastByKey Prod.fst (blocks.map StyleBlock.entry) := by
    intro blocks hb
    obtain ⟨s, hs, -, hsty⟩ := Reader.file_complete
      { data, source, failure := (TokenStream.ofBytes data source).failure } { source } hb
    refine ⟨s, parse_eq_file data source ▸ hs, ?_⟩
    rw [hsty, lastByKey_eq_foldl, List.foldl_map]
  refine ⟨⟨?_, ?_⟩, ?_⟩
  · rintro ⟨sheet, h⟩
    obtain ⟨hf, blocks, hb, -⟩ := parse_sound h
    exact ⟨hf, blocks, hb⟩
  · rintro ⟨-, blocks, hb⟩
    obtain ⟨s, hs, -⟩ := hread blocks hb
    exact ⟨s, hs⟩
  · intro sheet blocks h hb
    obtain ⟨s, hs, hsty⟩ := hread blocks hb
    obtain rfl : sheet = s := by
      rw [h] at hs
      exact Except.ok.inj hs
    have hnames : sheet.names = (blocks.map StyleBlock.name).dedup := by
      rw [StyleSheet.names, hsty, map_fst_lastByKey, List.map_map]
      rfl
    refine ⟨hnames, ?_, ?_⟩
    · rw [← hnames, StyleSheet.names, List.length_map, StyleSheet.size]
    · intro name
      rw [StyleSheet.style?, hsty, lookup_lastByKey, ← List.map_reverse, List.find?_map,
        Option.map_map]
      rfl

/-! ## Paths of a sheet read from text -/

/-- Every assignment of every style of a sheet has a path of at least one segment. -/
def StyleSheet.PathsNonempty (s : StyleSheet) : Prop := ∀ st ∈ s.styles, ∀ a ∈ st.2, a.path ≠ []

/-- What is looked up under a key is listed under it. -/
theorem mem_of_lookup_eq_some {β : Type} {l : List (String × β)} {k : String} {v : β}
    (h : l.lookup k = some v) : (k, v) ∈ l := by
  induction l with
  | nil => cases h
  | cons x l ih =>
    obtain ⟨k', v'⟩ := x
    rw [List.lookup_cons] at h
    split at h
    · next hk =>
      cases h
      rw [beq_iff_eq.1 hk]
      exact List.mem_cons_self ..
    · exact List.mem_cons_of_mem _ (ih h)

/-- The assignments of a style found in a sheet whose paths are non-empty have non-empty
paths. -/
theorem StyleSheet.PathsNonempty.style {s : StyleSheet} (hs : s.PathsNonempty) {name : String}
    {list : List Assignment} (h : s.style? name = some list) : ∀ a ∈ list, a.path ≠ [] :=
  hs _ (mem_of_lookup_eq_some h)

theorem Grammar.AssignmentText.path_ne_nil {data : List UInt8} {ts rest : List Token} {a : Assignment}
    (h : AssignmentText data ts a rest) : a.path ≠ [] := by
  cases h
  exact List.cons_ne_nil _ _

theorem Grammar.BodyText.paths_ne_nil {data : List UInt8} {ts rest : List Token} {as : List Assignment}
    (h : BodyText data ts as rest) : ∀ a ∈ as, a.path ≠ [] := by
  induction h with
  | close => exact fun a ha => by cases ha
  | more first _ ih =>
    intro a ha
    rcases List.mem_cons.1 ha with rfl | ha
    · exact first.path_ne_nil
    · exact ih a ha

theorem Grammar.SheetText.paths_ne_nil {data : List UInt8} {ts : List Token} {bs : List StyleBlock}
    (h : SheetText data ts bs) : ∀ b ∈ bs, ∀ a ∈ b.body, a.path ≠ [] := by
  induction h with
  | eof => exact fun b hb => by cases hb
  | more first _ ih =>
    intro b hb
    rcases List.mem_cons.1 hb with rfl | hb
    · cases first with
      | mk _ _ body => exact body.paths_ne_nil
    · exact ih b hb

/-- Text never gives an assignment without a path: the grammar asks for a name before any dot. -/
theorem parse_pathsNonempty {data : List UInt8} {source : String} {sheet : StyleSheet}
    (h : StyleSheet.parse data source = .ok sheet) : sheet.PathsNonempty := by
  obtain ⟨-, blocks, hb, hsty⟩ := parse_sound h
  intro st hst a ha
  rw [hsty] at hst
  -- a kept style is the entry of one of the blocks, and keeps some of its assignments
  obtain ⟨b, hmem, rfl⟩ := List.mem_map.1 (List.pwFilter_subset _ hst)
  exact hb.paths_ne_nil b hmem a (List.pwFilter_subset _ ha)

end Theming.Sheet
