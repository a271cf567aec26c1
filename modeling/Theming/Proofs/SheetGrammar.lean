import Theming.Sheet.Parse
import Mathlib

/-!
# The grammar of theme text, as relations on tokens

Theme text is read from its token stream by one-token lookahead. This file writes the grammar
down a second time, as inductive relations over token lists, each production a constructor:

```
file       = block* EOF ;
block      = IDENT '{' assignment* '}' ;
assignment = IDENT ('.' IDENT)* ':' value ';' ;
value      = NUMBER | HASH | STRING | STRING 'capInsets' args(4)
           | ('rgb' | 'rgba') args(3 or 4) | 'CGRect' args(4) | 'CGSize' args(2)
           | IDENT NUMBER | IDENT ;
args(N)    = '(' NUMBER (',' NUMBER)* ')'      -- with exactly N numbers
```

A relation `R ts x rest` says that the front of `ts` spells `x` and that `rest` follows it. The
value forms share prefixes (`STRING` and `STRING capInsets`, a bare name and a name followed by
`(` or a number), so a value alone can be read in more than one way; after it the grammar asks
for `;`, which leaves exactly one reading of every assignment.

Every production spells at least one token and never the end of the text (`Passes`); the
parser's own progress and the fact that it stops exactly at the final end token both come from
that.
-/

set_option autoImplicit false

namespace Theming.Sheet.Grammar

open Theming.Text

/-- A hash word whose digits, the bytes after its first one, are six or eight hex digits. -/
def HexWord (s : String) : Prop :=
  ((Utf8.encode s).drop 1).length ∈ [6, 8] ∧ ∀ c ∈ (Utf8.encode s).drop 1, Reader.isHexByte c = true

/-- What a bare name stands for: a truth value, `nil`, or a plain name. -/
def nameValue (s : String) : RawValue :=
  match Reader.boolLiteral s with
  | some b => { kind := .boolean, bool := b, text := s }
  | none => if s = "nil" then { kind := .nil } else { kind := .ident, text := s }

/-- `NUMBER (',' NUMBER)* ')'`: the numbers of an argument list and its closing parenthesis. -/
inductive Numbers : List Token → List Float → List Token → Prop
  | last {n c : Token} {rest : List Token} (hn : n.kind = .number) (hc : c.kind = .rparen) :
      Numbers (n :: c :: rest) [n.number] rest
  | more {n c : Token} {ts rest : List Token} {xs : List Float} (hn : n.kind = .number)
      (hc : c.kind = .comma) (tail : Numbers ts xs rest) :
      Numbers (n :: c :: ts) (n.number :: xs) rest

/-- `'(' NUMBER (',' NUMBER)* ')'` holding as many numbers as one of `counts`. -/
inductive Args (counts : List Nat) : List Token → List Float → List Token → Prop
  | mk {o : Token} {ts rest : List Token} {xs : List Float} (ho : o.kind = .lparen)
      (nums : Numbers ts xs rest) (hcount : xs.length ∈ counts) :
      Args counts (o :: ts) xs rest

/-- The written value forms, with the value each one stands for. -/
inductive ValueText : List Token → RawValue → List Token → Prop
  | number {t : Token} {rest : List Token} (ht : t.kind = .number) :
      ValueText (t :: rest) { kind := .number, numbers := [t.number] } rest
  | hex {t : Token} {rest : List Token} (ht : t.kind = .hash) (hw : HexWord t.text) :
      ValueText (t :: rest) { kind := .color, text := t.text } rest
  | string {t : Token} {rest : List Token} (ht : t.kind = .string) :
      ValueText (t :: rest) { kind := .string, text := t.text } rest
  | image {t c : Token} {ts rest : List Token} {xs : List Float} (ht : t.kind = .string)
      (hc : c.kind = .ident) (hcap : c.text = "capInsets") (args : Args [4] ts xs rest) :
      ValueText (t :: c :: ts) { kind := .image, text := t.text, insets := xs } rest
  | rgb {t : Token} {ts rest : List Token} {xs : List Float} (ht : t.kind = .ident)
      (hname : t.text = "rgb" ∨ t.text = "rgba") (args : Args [3, 4] ts xs rest) :
      ValueText (t :: ts) { kind := .color, numbers := xs } rest
  | rect {t : Token} {ts rest : List Token} {xs : List Float} (ht : t.kind = .ident)
      (hname : t.text = "CGRect") (args : Args [4] ts xs rest) :
      ValueText (t :: ts) { kind := .rect, numbers := xs } rest
  | size {t : Token} {ts rest : List Token} {xs : List Float} (ht : t.kind = .ident)
      (hname : t.text = "CGSize") (args : Args [2] ts xs rest) :
      ValueText (t :: ts) { kind := .size, numbers := xs } rest
  | font {t n : Token} {rest : List Token} (ht : t.kind = .ident) (hn : n.kind = .number) :
      ValueText (t :: n :: rest) { kind := .font, text := t.text, numbers := [n.number] } rest
  | name {t : Token} {rest : List Token} (ht : t.kind = .ident) :
      ValueText (t :: rest) (nameValue t.text) rest

/-- `('.' IDENT)*`: the segments of a path after its first one. -/
inductive Segments : List Token → List String → List Token → Prop
  | done {rest : List Token} : Segments rest [] rest
  | more {d s : Token} {ts rest : List Token} {segs : List String} (hd : d.kind = .dot)
      (hs : s.kind = .ident) (tail : Segments ts segs rest) :
      Segments (d :: s :: ts) (s.text :: segs) rest

/-- `IDENT ('.' IDENT)* ':' value ';'`, read from the text `data`: the assignment's line is the
line of its first token. -/
inductive AssignmentText (data : List UInt8) : List Token → Assignment → List Token → Prop
  | mk {t c s : Token} {ts ts' rest : List Token} {segs : List String} {v : RawValue}
      (ht : t.kind = .ident) (path : Segments ts segs (c :: ts')) (hc : c.kind = .colon)
      (value : ValueText ts' v (s :: rest)) (hs : s.kind = .semicolon) :
      AssignmentText data (t :: ts)
        { path := t.text :: segs, value := v, line := Position.lineOf data t.offset } rest

/-- `assignment* '}'`: the assignments of a block, in source order, and its closing brace. -/
inductive BodyText (data : List UInt8) : List Token → List Assignment → List Token → Prop
  | close {t : Token} {rest : List Token} (ht : t.kind = .rbrace) : BodyText data (t :: rest) [] rest
  | more {ts ts' rest : List Token} {a : Assignment} {as : List Assignment}
      (first : AssignmentText data ts a ts') (tail : BodyText data ts' as rest) :
      BodyText data ts (a :: as) rest

/-- A block as written: its style name and its assignments in source order. -/
structure StyleBlock where
  name : String
  body : List Assignment

/-- `IDENT '{' assignment* '}'`. -/
inductive BlockText (data : List UInt8) : List Token → StyleBlock → List Token → Prop
  | mk {n o : Token} {ts rest : List Token} {as : List Assignment} (hn : n.kind = .ident)
      (ho : o.kind = .lbrace) (body : BodyText data ts as rest) :
      BlockText data (n :: o :: ts) ⟨n.text, as⟩ rest

/-- `block* EOF`: the whole token sequence, its blocks in source order. -/
inductive SheetText (data : List UInt8) : List Token → List StyleBlock → Prop
  | eof {t : Token} (ht : t.kind = .eof) : SheetText data [t] []
  | more {ts rest : List Token} {b : StyleBlock} {bs : List StyleBlock}
      (first : BlockText data ts b rest) (tail : SheetText data rest bs) :
      SheetText data ts (b :: bs)

/-! ## Progress -/

/-- `ts` is `rest` after at least one token, none of them the end of the text. -/
def Passes (ts rest : List Token) : Prop :=
  ∃ pre : List Token, pre ≠ [] ∧ (∀ t ∈ pre, t.kind ≠ .eof) ∧ ts = pre ++ rest

/-- A token sequence that ends with its only end token, as the token stream of a text that
was read without error does. -/
def Ended (ts : List Token) : Prop :=
  ∃ body : List Token, ∃ e : Token, e.kind = .eof ∧ (∀ t ∈ body, t.kind ≠ .eof) ∧
    ts = body ++ [e]

namespace Passes

theorem single {t : Token} {ts : List Token} (ht : t.kind ≠ .eof) : Passes (t :: ts) ts :=
  ⟨[t], by simp, by simpa using ht, rfl⟩

theorem cons {t : Token} {ts rest : List Token} (ht : t.kind ≠ .eof) (h : Passes ts rest) :
    Passes (t :: ts) rest := by
  obtain ⟨pre, -, hpre, rfl⟩ := h
  exact ⟨t :: pre, by simp, by simpa [ht] using hpre, rfl⟩

theorem trans {ts mid rest : List Token} (h₁ : Passes ts mid) (h₂ : Passes mid rest) :
    Passes ts rest := by
  obtain ⟨pre, hne, hpre, rfl⟩ := h₁
  obtain ⟨pre', -, hpre', rfl⟩ := h₂
  refine ⟨pre ++ pre', by simp [hne], ?_, by simp⟩
  intro t ht
  rcases List.mem_append.1 ht with h | h
  · exact hpre t h
  · exact hpre' t h

/-- Passing tokens shortens what is left. -/
theorem length_lt {ts rest : List Token} (h : Passes ts rest) : rest.length < ts.length := by
  obtain ⟨pre, hne, -, rfl⟩ := h
  have : 0 < pre.length := List.length_pos_iff.2 hne
  simp only [List.length_append]
  omega

/-- Passing tokens other than the end keeps the end in place. -/
theorem ended {ts rest : List Token} (h : Passes ts rest) (he : Ended ts) : Ended rest := by
  obtain ⟨pre, -, hpre, rfl⟩ := h
  obtain ⟨body, e, heof, hbody, hts⟩ := he
  rcases List.append_eq_append_iff.1 hts with ⟨mid, rfl, hrest⟩ | ⟨mid, hpre', hlast⟩
  · exact ⟨mid, e, heof, fun t ht => hbody t (List.mem_append_right _ ht), hrest⟩
  · -- `pre` would swallow the end token unless `rest` is exactly that token
    rcases List.append_eq_singleton_iff.1 hlast.symm with ⟨rfl, rfl⟩ | ⟨rfl, rfl⟩
    · exact ⟨[], e, heof, by simp, rfl⟩
    · exact absurd heof (hpre e (by simp [hpre']))

end Passes

/-- An ended sequence whose first token is the end is that token alone. -/
theorem Ended.eq_singleton {t : Token} {ts : List Token} (he : Ended (t :: ts))
    (ht : t.kind = .eof) : ts = [] := by
  obtain ⟨body, e, -, hbody, hts⟩ := he
  cases body with
  | nil =>
    simp only [List.nil_append, List.cons.injEq] at hts
    exact hts.2
  | cons b body =>
    simp only [List.cons_append, List.cons.injEq] at hts
    exact absurd (hts.1 ▸ ht) (hbody b (by simp))

theorem Numbers.passes {ts rest : List Token} {xs : List Float} (h : Numbers ts xs rest) :
    Passes ts rest := by
  induction h with
  | last hn hc => exact Passes.cons (by simp [hn]) (Passes.single (by simp [hc]))
  | more hn hc _ ih => exact Passes.cons (by simp [hn]) (Passes.cons (by simp [hc]) ih)

theorem Args.passes {counts : List Nat} {ts rest : List Token} {xs : List Float}
    (h : Args counts ts xs rest) : Passes ts rest := by
  cases h with
  | mk ho nums _ => exact Passes.cons (by simp [ho]) nums.passes

theorem ValueText.passes {ts rest : List Token} {v : RawValue} (h : ValueText ts v rest) :
    Passes ts rest := by
  cases h with
  | number ht | hex ht _ | string ht | name ht => exact Passes.single (by simp [ht])
  | image ht hc _ args => exact Passes.cons (by simp [ht]) (Passes.cons (by simp [hc]) args.passes)
  | rgb ht _ args | rect ht _ args | size ht _ args => exact Passes.cons (by simp [ht]) args.passes
  | font ht hn => exact Passes.cons (by simp [ht]) (Passes.single (by simp [hn]))

/-- The path segments pass over nothing or over some tokens, never over the end. -/
theorem Segments.passes {ts rest : List Token} {segs : List String} (h : Segments ts segs rest) :
    ts = rest ∨ Passes ts rest := by
  induction h with
  | done => exact .inl rfl
  | @more d s ts _ _ hd hs _ ih =>
    have hds : Passes (d :: s :: ts) ts := Passes.cons (by simp [hd]) (Passes.single (by simp [hs]))
    rcases ih with rfl | h
    · exact .inr hds
    · exact .inr (hds.trans h)

theorem AssignmentText.passes {data : List UInt8} {ts rest : List Token} {a : Assignment}
    (h : AssignmentText data ts a rest) : Passes ts rest := by
  cases h with
  | @mk t c s ts ts' _ _ _ ht path hc value hs =>
    have hcolon : Passes (c :: ts') (s :: rest) := Passes.cons (by simp [hc]) value.passes
    have hsemi : Passes (s :: rest) rest := Passes.single (by simp [hs])
    rcases path.passes with heq | hpath
    · exact Passes.cons (by simp [ht]) (heq ▸ hcolon.trans hsemi)
    · exact Passes.cons (by simp [ht]) ((hpath.trans hcolon).trans hsemi)

theorem BodyText.passes {data : List UInt8} {ts rest : List Token} {as : List Assignment}
    (h : BodyText data ts as rest) : Passes ts rest := by
  induction h with
  | close ht => exact Passes.single (by simp [ht])
  | more first _ ih => exact first.passes.trans ih

theorem BlockText.passes {data : List UInt8} {ts rest : List Token} {b : StyleBlock}
    (h : BlockText data ts b rest) : Passes ts rest := by
  cases h with
  | mk hn ho body => exact Passes.cons (by simp [hn]) (Passes.cons (by simp [ho]) body.passes)

/-- An assignment starts with the name of its first path segment. -/
theorem AssignmentText.head {data : List UInt8} {ts rest : List Token} {a : Assignment}
    (h : AssignmentText data ts a rest) : ∃ t ts', ts = t :: ts' ∧ t.kind = .ident := by
  cases h with
  | mk ht _ _ _ _ => exact ⟨_, _, rfl, ht⟩

/-- A block starts with its style name. -/
theorem BlockText.head {data : List UInt8} {ts rest : List Token} {b : StyleBlock}
    (h : BlockText data ts b rest) : ∃ t ts', ts = t :: ts' ∧ t.kind = .ident := by
  cases h with
  | mk hn _ _ => exact ⟨_, _, rfl, hn⟩

/-! ## The last entry for a key wins -/

section LastWins

variable {α β : Type}

/-- Appends an entry after dropping the entries with its key. -/
def upsertBy [BEq β] (key : α → β) (l : List α) (a : α) : List α :=
  l.filter (fun b => key b != key a) ++ [a]

/-- The entries that no later entry shares a key with, in their order: for each key, the last
entry written, standing where it was written. -/
def lastByKey [DecidableEq β] (key : α → β) (l : List α) : List α :=
  l.pwFilter (fun a b => key a ≠ key b)

variable [DecidableEq β]

/-- An entry survives exactly when no later entry has its key. -/
theorem lastByKey_cons (key : α → β) (x : α) (l : List α) :
    lastByKey key (x :: l) =
      if ∀ y ∈ l, key x ≠ key y then x :: lastByKey key l else lastByKey key l := by
  have hiff := @List.forall_mem_pwFilter _ (fun a b : α => key a ≠ key b) _
    (fun {x y z} hxz => by
      by_cases hxy : key x = key y
      · exact .inr (hxy ▸ hxz)
      · exact .inl hxy) x l
  unfold lastByKey
  by_cases h : ∀ y ∈ l, key x ≠ key y
  · rw [if_pos h, List.pwFilter_cons_of_pos (hiff.2 h)]
  · rw [if_neg h, List.pwFilter_cons_of_neg (fun h' => h (hiff.1 h'))]

/-- Writing one more entry drops the entries of its key and appends it. -/
theorem lastByKey_append_singleton (key : α → β) (l : List α) (a : α) :
    lastByKey key (l ++ [a]) = upsertBy key (lastByKey key l) a := by
  induction l with
  | nil =>
    rw [List.nil_append, lastByKey_cons]
    simp [lastByKey, upsertBy]
  | cons x l ih =>
    rw [List.cons_append, lastByKey_cons, lastByKey_cons, ih]
    have hmem : (∀ y ∈ l ++ [a], key x ≠ key y) ↔ (∀ y ∈ l, key x ≠ key y) ∧ key x ≠ key a := by
      simp [or_imp, forall_and]
    by_cases h₁ : ∀ y ∈ l, key x ≠ key y
    · by_cases h₂ : key x = key a
      · -- `x` is overridden by `a` itself
        rw [if_neg (fun h => (hmem.1 h).2 h₂), if_pos h₁]
        simp [upsertBy, h₂]
      · rw [if_pos (hmem.2 ⟨h₁, h₂⟩), if_pos h₁]
        simp [upsertBy, h₂]
    · rw [if_neg (fun h => h₁ (hmem.1 h).1), if_neg h₁]

/-- Upserting entries one by one keeps the last entry of each key. -/
theorem foldl_upsertBy (key : α → β) (pre as : List α) :
    as.foldl (upsertBy key) (lastByKey key pre) = lastByKey key (pre ++ as) := by
  induction as generalizing pre with
  | nil => simp
  | cons a as ih =>
    rw [List.foldl_cons, ← lastByKey_append_singleton, ih, List.append_assoc, List.singleton_append]

/-- The entries kept are what upserting them one by one from nothing leaves. -/
theorem lastByKey_eq_foldl (key : α → β) (l : List α) :
    lastByKey key l = l.foldl (upsertBy key) [] := by
  simpa [lastByKey] using (foldl_upsertBy key [] l).symm

end LastWins

/-- What a block gives a sheet: its name, and its assignments with only the last assignment to
each path (compared by its dotted form) kept. -/
def StyleBlock.entry (b : StyleBlock) : String × List Assignment :=
  (b.name, lastByKey (fun a => a.path.render) b.body)

end Theming.Sheet.Grammar
