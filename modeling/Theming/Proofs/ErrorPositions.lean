import Mathlib
import Theming.Proofs.ReaderFailures

/-!
# Where a syntax error is reported

The reader stops at the first token it cannot use and reports its error there or before it,
with one exception: it reads an argument list to its end before it counts the numbers, so a list
with the wrong count is noticed only at its `)`, and a list that goes wrong after too many numbers
is reported at the first token that is neither `,` nor `)`.

So the bound holds for the grammar with argument counts left free (`Grammar.Viable`). The main
statement is `parse_error_before_loose_violation`: when reading fails, the error lies at or
before every token at which the tokens stop being viable, and at or before the lexical error the
token stream ended with. It is assembled from `file_fails`, which places the error right after a
viable part of the tokens, and `ofBytes_offsets`: the tokens come in the order of their offsets.
`parse_error_past_count_violation` shows that the grammar with exact counts gives no such bound:
in `s { p: CGSize(1, 2, 3 x; }` the tokens stop starting a sentence at the second comma, at offset
18, and the error is reported at `x`, at offset 22.
-/

set_option autoImplicit false

namespace Theming.Sheet

open Grammar

/-! ## Token offsets never go back -/

theorem lexemeOutcome_emit_offsets {kind : LexemeKind} {text after : List UInt8} {offset : Nat}
    {toks : List Token} (h : TokenStream.lexemeOutcome kind text after offset = .emit toks) :
    toks.Pairwise (fun a b => a.offset ≤ b.offset) ∧
      ∀ t ∈ toks, offset ≤ t.offset ∧ t.offset ≤ offset + text.length := by
  cases kind <;> simp only [TokenStream.lexemeOutcome] at h <;> (repeat' split at h) <;>
    simp only [reduceCtorEq, TokenStream.Outcome.emit.injEq] at h <;> subst h <;> simp

theorem lexemeOutcome_fail_offset {kind : LexemeKind} {text after : List UInt8} {offset : Nat}
    {problem : Problem} {o : Nat} {token : String}
    (h : TokenStream.lexemeOutcome kind text after offset = .fail problem o token) : offset ≤ o := by
  cases kind <;> simp only [TokenStream.lexemeOutcome] at h <;> (repeat' split at h) <;>
    simp only [reduceCtorEq, TokenStream.Outcome.fail.injEq] at h <;> omega

/-- The tokens of a stream come in the order of their offsets, and all lie at or before the
error the stream ends with. The induction carries that the tokens collected so far lie at or
before the current position. -/
theorem scan_offsets (data : List UInt8) (source : String) (rest : List UInt8) (acc : List Token)
    (hrest : rest.length ≤ data.length)
    (hacc : acc.reverse.Pairwise (fun a b => a.offset ≤ b.offset))
    (hle : ∀ t ∈ acc, t.offset ≤ data.length - rest.length) :
    (TokenStream.scan data source rest acc).tokens.Pairwise (fun a b => a.offset ≤ b.offset) ∧
      ∀ f, (TokenStream.scan data source rest acc).failure = some f →
        ∀ t ∈ (TokenStream.scan data source rest acc).tokens, t.offset ≤ f.offset := by
  induction rest, acc using TokenStream.scan.induct data with
  | case1 acc =>
    rw [TokenStream.scan.eq_1]
    refine ⟨List.pairwise_append.2 ⟨hacc, by simp, ?_⟩, fun f hf => by cases hf⟩
    intro a ha b hb
    simp only [List.mem_singleton] at hb
    subst hb
    simpa using hle a (List.mem_reverse.1 ha)
  | case2 acc c cs kind width _ problem o token hnext _ hout =>
    rw [scan_fail hnext hout]
    have ho := lexemeOutcome_fail_offset hout
    refine ⟨hacc, fun f hf t ht => ?_⟩
    cases hf
    have := hle t (List.mem_reverse.1 ht)
    simp only [SyntaxError.make]
    omega
  | case3 acc c cs kind width w toks hnext _ hout ih =>
    rw [scan_emit hnext hout]
    simp only [w] at ih hout
    have hcons := consumed_ge kind (max width 1) (c :: cs)
    -- the lexeme's tokens lie before the position after it, which is past the current one
    have hpast : data.length - (c :: cs).length + ((c :: cs).take (max width 1)).length ≤
        data.length -
          ((c :: cs).drop (TokenStream.consumed kind (max width 1) (c :: cs))).length := by
      rw [List.length_drop, List.length_take]
      omega
    obtain ⟨hsorted, hbounds⟩ := lexemeOutcome_emit_offsets hout
    refine ih (by rw [List.length_drop]; omega) ?_ ?_
    · rw [List.reverse_append, List.reverse_reverse]
      refine List.pairwise_append.2 ⟨hacc, hsorted, fun a ha b hb => ?_⟩
      have := hle a (List.mem_reverse.1 ha)
      have := (hbounds b hb).1
      omega
    · intro t ht
      rcases List.mem_append.1 ht with ht | ht
      · have := (hbounds t (List.mem_reverse.1 ht)).2
        omega
      · have := hle t ht
        omega
  | case4 acc c cs kind width w hnext _ hout ih =>
    rw [scan_skip hnext hout]
    simp only [w] at ih hout
    refine ih (by rw [List.length_drop]; omega) hacc ?_
    intro t ht
    have := hle t ht
    simp only [List.length_drop]
    omega

theorem ofBytes_offsets (data : List UInt8) (source : String) :
    (TokenStream.ofBytes data source).tokens.Pairwise (fun a b => a.offset ≤ b.offset) ∧
      ∀ f, (TokenStream.ofBytes data source).failure = some f →
        ∀ t ∈ (TokenStream.ofBytes data source).tokens, t.offset ≤ f.offset :=
  scan_offsets data source data [] le_rfl (by simp) (by simp)

/-! ## The first violation bounds the error -/

/-- When reading fails, its error lies at or before every token at which the tokens stop
starting a sentence of the grammar with argument counts left free, and at or before the lexical
error the token stream ended with. -/
theorem parse_error_before_loose_violation (data : List UInt8) (source : String)
    (e : SyntaxError) (h : StyleSheet.parse data source = .error e) :
    (∀ j (hj : j < (TokenStream.ofBytes data source).tokens.length),
      ¬ Viable ((TokenStream.ofBytes data source).tokens.take (j + 1)) →
        e.offset ≤ ((TokenStream.ofBytes data source).tokens[j]).offset) ∧
    (∀ f, (TokenStream.ofBytes data source).failure = some f → e.offset ≤ f.offset) := by
  obtain ⟨k, hk, -, he⟩ := Reader.file_fails (parse_eq_file data source ▸ h)
  obtain ⟨hsorted, hbefore⟩ := ofBytes_offsets data source
  -- the error lies at or before the token after the first `k`, which start a sentence
  have hnext : ∀ hk' : k < (TokenStream.ofBytes data source).tokens.length,
      e.offset ≤ ((TokenStream.ofBytes data source).tokens[k]).offset := by
    intro hk'
    rwa [List.drop_eq_getElem_cons hk'] at he
  refine ⟨fun j hj hnot => ?_, fun f hf => ?_⟩
  · have hkj : k ≤ j := by
      by_contra hlt
      apply hnot
      have := hk.take (j + 1)
      rwa [List.take_take, Nat.min_eq_left (by omega)] at this
    refine (hnext (by omega)).trans ?_
    rcases Nat.lt_or_eq_of_le hkj with hlt | rfl
    · exact List.pairwise_iff_getElem.1 hsorted k j (by omega) hj hlt
    · exact le_rfl
  · rcases lt_or_ge k (TokenStream.ofBytes data source).tokens.length with hlt | hge
    · exact (hnext hlt).trans (hbefore f hf _ (List.getElem_mem hlt))
    · rw [List.drop_eq_nil_of_le hge] at he
      simpa [Reader.offsetAt, hf] using he

/-! ## The exact counts give no such bound -/

/-- After `name : CGSize ( NUMBER , NUMBER ,` no sentence of the grammar goes on: `CGSize` takes
two numbers, so the second comma can only be its closing parenthesis. -/
theorem not_sheetText_cgsize_third {data : List UInt8} {n o p c f lp a cm b cm2 : Token}
    {ext : List Token} {bs : List StyleBlock} (hp : p.kind = .ident) (hc : c.kind = .colon)
    (hf : f.text = "CGSize") (hlp : lp.kind = .lparen) (hcm : cm.kind = .comma)
    (hcm2 : cm2.kind = .comma) :
    ¬ SheetText data (n :: o :: p :: c :: f :: lp :: a :: cm :: b :: cm2 :: ext) bs := by
  intro h
  cases h with
  | more first _ =>
  cases first with
  | mk _ _ body =>
  cases body with
  | close ht => simp [hp] at ht
  | more first _ =>
  cases first with
  | mk _ path _ value hs =>
  cases path with
  | more hd _ _ => simp [hc] at hd
  | done =>
  cases value
  case size args =>
    cases args with
    | mk _ nums hcount =>
    cases nums with
    | last _ hrp => simp [hcm] at hrp
    | more _ _ tail =>
    cases tail with
    | last _ hrp => simp [hcm2] at hrp
    | more _ _ rest =>
    -- a third number: more than two arguments
    simp only [List.length_cons, List.mem_singleton] at hcount
    cases rest <;> simp at hcount
  all_goals simp_all

/-- The text `s { p: CGSize(1, 2, 3 x; }`. -/
def cgsizeText : List UInt8 := Text.Utf8.encode "s \x7b p: CGSize(1, 2, 3 x; \x7d"

theorem cgsizeText_error_offset :
    ((StyleSheet.parse cgsizeText "").map (fun _ => ())).mapError (·.offset) = .error 22 := by
  decide +kernel

theorem cgsize_error_within_loose_bound :
    ∃ e, StyleSheet.parse cgsizeText "" = .error e ∧ e.offset = 22 ∧
      ∀ j (hj : j < (TokenStream.ofBytes cgsizeText "").tokens.length),
        ¬ Viable ((TokenStream.ofBytes cgsizeText "").tokens.take (j + 1)) →
          e.offset ≤ ((TokenStream.ofBytes cgsizeText "").tokens[j]).offset := by
  have hres := cgsizeText_error_offset
  cases hp : StyleSheet.parse cgsizeText "" with
  | ok sheet =>
    rw [hp] at hres
    cases hres
  | error e =>
    rw [hp] at hres
    have he : e.offset = 22 := by simpa [Except.map, Except.mapError] using hres
    exact ⟨e, rfl, he, (parse_error_before_loose_violation cgsizeText "" e hp).1⟩

/-- In `s { p: CGSize(1, 2, 3 x; }` the tokens stop starting a sentence of the grammar with exact
counts at the second comma, at offset 18, and the error is reported at offset 22. -/
theorem parse_error_past_count_violation :
    ((TokenStream.ofBytes cgsizeText "").tokens[9]?).map (·.offset) = some 18 ∧
      (∀ ext bs,
        ¬ SheetText cgsizeText ((TokenStream.ofBytes cgsizeText "").tokens.take 10 ++ ext) bs) ∧
      ((StyleSheet.parse cgsizeText "").map (fun _ => ())).mapError (·.offset) = .error 22 := by
  refine ⟨by decide +kernel, fun ext bs => ?_, cgsizeText_error_offset⟩
  -- the first ten tokens are `s { p : CGSize ( 1 , 2 ,`
  have hkinds : ((TokenStream.ofBytes cgsizeText "").tokens.take 10).map (·.kind) =
      [.ident, .lbrace, .ident, .colon, .ident, .lparen, .number, .comma, .number, .comma] := by
    decide +kernel
  have htext : ((TokenStream.ofBytes cgsizeText "").tokens[4]?).map (·.text) = some "CGSize" := by
    decide +kernel
  generalize (TokenStream.ofBytes cgsizeText "").tokens = toks at hkinds htext ⊢
  rcases toks with _ | ⟨n, _ | ⟨o, _ | ⟨p, _ | ⟨c, _ | ⟨f, _ | ⟨lp, _ | ⟨a, _ | ⟨cm, _ |
    ⟨b, _ | ⟨cm2, rest⟩⟩⟩⟩⟩⟩⟩⟩⟩⟩ <;> simp at hkinds
  simp only [List.getElem?_cons_succ, List.getElem?_cons_zero, Option.map_some,
    Option.some.injEq] at htext
  simpa using @not_sheetText_cgsize_third cgsizeText n o p c f lp a cm b cm2 ext bs
    hkinds.2.2.1 hkinds.2.2.2.1 htext hkinds.2.2.2.2.2.1 hkinds.2.2.2.2.2.2.2.1
    hkinds.2.2.2.2.2.2.2.2.2

end Theming.Sheet
