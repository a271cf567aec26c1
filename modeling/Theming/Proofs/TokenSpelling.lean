import Mathlib
import Theming.Proofs.ErrorPositions
import Theming.Proofs.Doubles

/-!
# Tokens are spelled by the text they are read from

The token stream of theme text (`TokenStream.ofBytes`) is faithful to the bytes it reads
(`ofBytes_faithful`). It ends with its only end token, or with an error and no end token. Token
offsets strictly increase. The end token stands at the end of the text, and every other token
is read from the bytes at its offset (`Token.ReadFrom`):

* a string starts at its opening quote;
* any other token's text is the text of the bytes it starts, the name and the parenthesis that a
  function lexeme `name(` is cut into included;
* a number does not start with a plus sign, has no point right after it, and is the finite
  double its text reads as.

The argument goes lexeme by lexeme. What a lexeme's kind says about its first bytes is one
record, `Lexeme.Shape`, proved of every lexeme `Lexeme.next` reads (`shape_next`); a number
lexeme is written with signs, digits, points and exponent letters only (`numberWidth_all`), and
such a text reads as a finite double (`Number.readFloat_isFinite`). From the shape, the tokens
of one lexeme lie inside it, in order, each read from the bytes (`lexemeOutcome_tokens`); the
induction over the stream (`scan_spelled`) carries that the tokens collected so far lie before
the current position.
-/

set_option autoImplicit false

namespace Theming.Text.Utf8

/-- An ASCII byte decodes to the character of its code. -/
theorem decode_cons_of_lt {b : UInt8} {r : List UInt8} (hb : b < 0x80) :
    decode (b :: r) = Char.ofNat b.toNat :: decode r := by
  rw [decode.eq_def]
  simp [hb]

theorem decode_nil : decode [] = [] := by
  rw [decode.eq_def]

end Theming.Text.Utf8

namespace Theming.Sheet

open Theming.Text

/-! ## What a lexeme's kind says about its bytes -/

namespace LexemeKind

/-- The byte of a punctuation lexeme. -/
def mark : LexemeKind → Option UInt8
  | .colon => some 58
  | .semicolon => some 59
  | .comma => some 44
  | .lbrace => some 123
  | .rbrace => some 125
  | .lparen => some 40
  | .rparen => some 41
  | _ => none

end LexemeKind

namespace Lexeme

/-- What the kind and width of a lexeme say about the bytes `bs` it is read from: a punctuation
lexeme is its mark, a string starts with a quote, a number is as wide as `numberWidth` says, and
a function is a name of at least one byte followed by `(`. -/
def Shape (bs : List UInt8) (lexeme : LexemeKind × Nat) : Prop :=
  (∀ b, lexeme.1.mark = some b → bs.head? = some b) ∧
  (lexeme.1 = .string → bs.head? = some 34 ∨ bs.head? = some 39) ∧
  (lexeme.1 = .number → numberWidth bs = some lexeme.2) ∧
  (lexeme.1 = .function → 2 ≤ lexeme.2 ∧ bs[lexeme.2 - 1]? = some 40)

variable {bs : List UInt8}

/-- Kinds with no mark that are neither strings, numbers nor functions say nothing. -/
theorem shape_plain {kind : LexemeKind} (w : Nat) (hmark : kind.mark = none)
    (hstring : kind ≠ .string) (hnumber : kind ≠ .number) (hfunction : kind ≠ .function) :
    Shape bs (kind, w) :=
  ⟨fun b h => by simp [hmark] at h, fun h => absurd h hstring, fun h => absurd h hnumber,
    fun h => absurd h hfunction⟩

theorem shape_mark {kind : LexemeKind} {b : UInt8} (w : Nat) (hhead : bs.head? = some b)
    (hmark : kind.mark = some b) : Shape bs (kind, w) := by
  refine ⟨fun b' h => ?_, fun h => ?_, fun h => ?_, fun h => ?_⟩
  · rw [hmark] at h
    cases h
    exact hhead
  all_goals subst h; cases hmark

theorem shape_orDelim {o : Option (LexemeKind × Nat)} (h : ∀ r, o = some r → Shape bs r) :
    Shape bs (orDelim o) := by
  cases o with
  | none => exact shape_plain 1 rfl (by decide) (by decide) (by decide)
  | some r => exact h r rfl

theorem shape_numeric {r : LexemeKind × Nat} (h : numeric bs = some r) : Shape bs r := by
  unfold numeric at h
  cases hw : numberWidth bs with
  | none => simp [hw] at h
  | some w =>
    simp only [hw, Option.map_some, Option.some.injEq] at h
    subst h
    split
    · exact shape_plain _ rfl (by decide) (by decide) (by decide)
    · split
      · exact shape_plain _ rfl (by decide) (by decide) (by decide)
      · exact ⟨fun b h => (by cases h), fun h => (by cases h), fun _ => hw, fun h => (by cases h)⟩

/-- An escape takes at least one byte. -/
theorem escapeWidth_pos {w : Nat} (h : escapeWidth bs = some w) : 1 ≤ w := by
  unfold escapeWidth at h
  split at h
  · split at h
    · cases h
    · split at h
      · cases h
        omega
      · split at h <;> (cases h; omega)
  · cases h

/-- A name takes at least one byte. -/
theorem identWidth_pos {w : Nat} (h : identWidth bs = some w) : 1 ≤ w := by
  unfold identWidth at h
  obtain ⟨first, hfirst, rfl⟩ := Option.map_eq_some_iff.1 h
  -- the first byte or escape of the name takes at least one byte
  have hpos : 1 ≤ first := by
    split at hfirst
    · split at hfirst
      · cases hfirst
        exact le_rfl
      · split at hfirst
        · exact escapeWidth_pos hfirst
        · cases hfirst
    · cases hfirst
  omega

theorem shape_identlike {r : LexemeKind × Nat} (h : identlike bs = some r) : Shape bs r := by
  unfold identlike at h
  cases hw : identWidth bs with
  | none => simp [hw] at h
  | some w =>
    simp only [hw, Option.map_some, Option.some.injEq] at h
    subst h
    have hpos := identWidth_pos hw
    split
    case h_1 rest hparen =>
      split
      · exact shape_plain _ rfl (by decide) (by decide) (by decide)
      · -- the name is followed by its parenthesis
        refine ⟨fun b h => (by cases h), fun h => (by cases h), fun h => (by cases h),
          fun _ => ⟨by omega, ?_⟩⟩
        rw [Nat.add_sub_cancel, ← List.head?_drop, hparen]
        rfl
    · exact shape_plain _ rfl (by decide) (by decide) (by decide)

theorem shape_orElse {a : Option (LexemeKind × Nat)} {b : Unit → Option (LexemeKind × Nat)}
    (ha : ∀ r, a = some r → Shape bs r) (hb : ∀ r, b () = some r → Shape bs r) :
    ∀ r, a.orElse b = some r → Shape bs r := by
  intro r h
  cases a with
  | none => exact hb r h
  | some r' => exact ha r (by simpa using h)

/-- Lexemes that theme text does not use: they have no mark and are no string, number or
function. -/
theorem shape_other_map {o : Option Nat} {f : Nat → Nat} :
    ∀ r, (o.map fun w => (LexemeKind.other, f w)) = some r → Shape bs r := by
  intro r h
  obtain ⟨w, -, rfl⟩ := Option.map_eq_some_iff.1 h
  exact shape_plain _ rfl (by decide) (by decide) (by decide)

theorem shape_head {c b : UInt8} {r : List UInt8} {kind : LexemeKind} (w : Nat)
    (h : (c == b) = true) (hmark : kind.mark = some b) : Shape (c :: r) (kind, w) :=
  shape_mark w (by simpa using h) hmark

theorem shape_ite {p : Prop} [Decidable p] {a b : LexemeKind × Nat} (ha : p → Shape bs a)
    (hb : ¬p → Shape bs b) : Shape bs (if p then a else b) := by
  by_cases h : p
  · rw [if_pos h]
    exact ha h
  · rw [if_neg h]
    exact hb h

/-- A string lexeme read at a quote. -/
theorem shape_stringLexeme {c : UInt8} {r : List UInt8} (h : (c == 34 || c == 39) = true) :
    Shape (c :: r) (stringLexeme (c :: r)) := by
  unfold stringLexeme
  dsimp only
  obtain ⟨bad, w⟩ := stringBodyWidth c r
  cases bad
  · -- a string that no line break cut
    refine ⟨fun b hb => (by cases hb), fun _ => ?_, fun hk => (by cases hk),
      fun hk => (by cases hk)⟩
    simpa using h
  · show Shape (c :: r) (.badString, 1 + w)
    exact shape_plain _ rfl (by decide) (by decide) (by decide)

/-- The lexeme `next` reads at the head of the input has the shape its kind says. -/
theorem shape_next (bs : List UInt8) : Shape bs (next bs) := by
  unfold next
  split
  · exact shape_plain _ rfl (by decide) (by decide) (by decide)
  rename_i c r
  -- the dispatch on the first byte, in its order
  refine shape_ite (fun _ => shape_plain _ rfl (by decide) (by decide) (by decide)) fun _ => ?_
  refine shape_ite (fun h => shape_head 1 h rfl) fun _ => ?_
  refine shape_ite (fun h => shape_head 1 h rfl) fun _ => ?_
  refine shape_ite (fun h => shape_head 1 h rfl) fun _ => ?_
  refine shape_ite (fun h => shape_head 1 h rfl) fun _ => ?_
  refine shape_ite (fun h => shape_head 1 h rfl) fun _ => ?_
  refine shape_ite (fun h => shape_head 1 h rfl) fun _ => ?_
  refine shape_ite (fun h => shape_head 1 h rfl) fun _ => ?_
  refine shape_ite (fun _ => shape_plain _ rfl (by decide) (by decide) (by decide)) fun _ => ?_
  refine shape_ite (fun _ => shape_orDelim fun r h => ?_) fun _ => ?_
  · obtain ⟨w, -, rfl⟩ := Option.map_eq_some_iff.1 h
    exact shape_plain _ rfl (by decide) (by decide) (by decide)
  refine shape_ite shape_stringLexeme fun _ => ?_
  refine shape_ite (fun _ => shape_orDelim fun _ => shape_numeric) fun _ => ?_
  refine shape_ite (fun _ => shape_orDelim (shape_orElse (fun _ => shape_numeric)
    (shape_orElse (fun _ => shape_identlike) fun r h => ?_))) fun _ => ?_
  · -- the comment mark `-->` and custom property names are no lexemes of theme text
    split at h
    · cases h
      exact shape_plain _ rfl (by decide) (by decide) (by decide)
    · exact shape_other_map r h
  refine shape_ite (fun _ => shape_orDelim shape_other_map) fun _ => ?_
  refine shape_ite (fun _ => shape_orDelim shape_other_map) fun _ => ?_
  refine shape_ite (fun _ => ?_) fun _ => ?_
  · split
    · exact shape_plain _ rfl (by decide) (by decide) (by decide)
    · exact shape_plain _ rfl (by decide) (by decide) (by decide)
  refine shape_ite (fun _ => ?_) fun _ => ?_
  · split
    · exact shape_plain _ rfl (by decide) (by decide) (by decide)
    · exact shape_plain _ rfl (by decide) (by decide) (by decide)
  refine shape_ite (fun _ => shape_orDelim fun _ => shape_identlike) fun _ => ?_
  refine shape_ite (fun _ => shape_orDelim (shape_orElse shape_other_map fun _ => shape_identlike))
    fun _ => ?_
  refine shape_ite (fun _ => shape_orDelim (shape_orElse shape_other_map fun r h => ?_)) fun _ => ?_
  · split at h
    · cases h
      exact shape_plain _ rfl (by decide) (by decide) (by decide)
    · cases h
  refine shape_ite (fun _ => shape_plain _ rfl (by decide) (by decide) (by decide)) fun _ => ?_
  exact shape_orDelim (shape_orElse (fun _ => shape_numeric) fun _ => shape_identlike)

/-! ## Number lexemes are written with number bytes -/

/-- The bytes a number lexeme is written with: signs, digits, the point and the exponent
letters. -/
def isNumberByte (b : UInt8) : Bool :=
  b == 43 || b == 45 || b == 46 || isDigit b || b == 101 || b == 69

theorem all_take_countWhile (p : UInt8 → Bool) (bs : List UInt8) :
    (bs.take (countWhile p bs)).all p = true := by
  induction bs with
  | nil => rfl
  | cons c r ih =>
    unfold countWhile
    split
    · simp_all
    · rfl

theorem all_take_add {p : UInt8 → Bool} {bs : List UInt8} {m n : Nat}
    (h1 : (bs.take m).all p = true) (h2 : ((bs.drop m).take n).all p = true) :
    (bs.take (m + n)).all p = true := by
  rw [List.take_add, List.all_append, h1, h2]
  rfl

theorem number_take_digits (bs : List UInt8) :
    (bs.take (countWhile isDigit bs)).all isNumberByte = true := by
  have h := all_take_countWhile isDigit bs
  simp only [List.all_eq_true] at h ⊢
  intro b hb
  simp [isNumberByte, h b hb]

theorem number_take_one {bs r : List UInt8} {c : UInt8} (h : bs = c :: r)
    (hc : isNumberByte c = true) : (bs.take 1).all isNumberByte = true := by
  subst h
  simpa using hc

/-- The width of the sign a number or its exponent starts with. -/
def signWidth (l : List UInt8) : Nat :=
  match l with
  | 43 :: _ => 1
  | 45 :: _ => 1
  | _ => 0

/-- A sign is a number byte. -/
theorem signWidth_all (l : List UInt8) : (l.take (signWidth l)).all isNumberByte = true := by
  unfold signWidth
  split <;> rfl

/-- A number lexeme takes at least one byte, and only number bytes. The proof follows the
lexeme's parts: the sign, the digits, the point with the digits after it, and the exponent. -/
theorem numberWidth_all {bs : List UInt8} {w : Nat} (h : numberWidth bs = some w) :
    0 < w ∧ (bs.take w).all isNumberByte = true := by
  unfold numberWidth at h
  extract_lets sign r whole afterWhole mantissa at h
  have hsign : (bs.take sign).all isNumberByte = true := signWidth_all bs
  have hwhole : (bs.take (sign + whole)).all isNumberByte = true :=
    all_take_add hsign (number_take_digits r)
  have hafter : afterWhole = bs.drop (sign + whole) := List.drop_drop ..
  clear_value afterWhole
  -- a mantissa without a point has digits; one with a point has digits after it, or stops
  -- before the point
  have hmantissa : ∀ v, mantissa = some v →
      0 < whole ∧ v = none ∨ ∃ n, v = some n ∧ 0 < n ∧ (bs.take n).all isNumberByte = true := by
    intro v hv
    simp only [mantissa] at hv
    split at hv
    · rename_i _ frac
      split at hv
      · cases hv
        have hpoint : bs.drop (sign + whole) = 46 :: frac := hafter.symm
        have hfrac : bs.drop (sign + whole + 1) = frac := by
          rw [← List.drop_drop, hpoint]
          rfl
        refine .inr ⟨_, rfl, by omega,
          all_take_add (all_take_add hwhole (number_take_one hpoint rfl)) ?_⟩
        rw [hfrac]
        exact number_take_digits frac
      · split at hv
        · cases hv
          exact .inl ⟨by assumption, rfl⟩
        · cases hv
    · split at hv
      · cases hv
        exact .inr ⟨_, rfl, by omega, hwhole⟩
      · cases hv
  clear_value mantissa
  split at h
  · cases h
  · cases h
    obtain ⟨hpos, -⟩ | ⟨n, hn, -⟩ := hmantissa none rfl
    · exact ⟨by omega, hwhole⟩
    · cases hn
  · rename_i _ v
    obtain ⟨-, hv⟩ | ⟨n, hn, hpos, hv⟩ := hmantissa (some v) rfl
    · cases hv
    cases hn
    -- an exponent is kept only with digits
    split at h
    · rename_i e r2 hr2
      split at h
      · rename_i he
        extract_lets esign k at h
        have hr2' : bs.drop (v + 1) = r2 := by
          rw [← List.drop_drop, hr2]
          rfl
        have hletter : isNumberByte e = true := by
          simp only [Bool.or_eq_true, beq_iff_eq] at he
          rcases he with rfl | rfl <;> rfl
        have hesign : ((bs.drop (v + 1)).take esign).all isNumberByte = true := by
          rw [hr2']
          exact signWidth_all r2
        have hdigits : ((bs.drop (v + 1 + esign)).take k).all isNumberByte = true := by
          rw [← List.drop_drop, hr2']
          exact number_take_digits _
        split at h
        · cases h
          exact ⟨by omega, all_take_add (all_take_add (all_take_add hv
            (number_take_one hr2 hletter)) hesign) hdigits⟩
        · cases h
          exact ⟨hpos, hv⟩
      · cases h
        exact ⟨hpos, hv⟩
    · cases h
      exact ⟨hpos, hv⟩

/-- Number bytes are ASCII, and read as the characters of a decimal number. -/
theorem isNumberByte_char {b : UInt8} (h : isNumberByte b = true) :
    b < 0x80 ∧ Number.isDecimalChar (Char.ofNat b.toNat) = true := by
  simp only [isNumberByte, Bool.or_eq_true, beq_iff_eq] at h
  rcases h with ((((rfl | rfl) | rfl) | hd) | rfl) | rfl
  all_goals try decide
  simp only [isDigit, Bool.and_eq_true, decide_eq_true_eq, UInt8.le_iff_toNat_le,
    UInt8.toNat_ofNat] at hd
  have hval : (Char.ofNat b.toNat).toNat = b.toNat := by
    rw [Char.toNat_ofNat, if_pos]
    left
    omega
  have hdigit : (Char.ofNat b.toNat).isDigit = true := by
    simp only [Char.isDigit, Bool.and_eq_true, decide_eq_true_eq, ge_iff_le,
      UInt32.le_iff_toNat_le]
    simp only [Char.toNat] at hval
    rw [hval]
    exact ⟨hd.1, hd.2⟩
  refine ⟨?_, by simp [Number.isDecimalChar, hdigit]⟩
  rw [UInt8.lt_iff_toNat_lt]
  simp only [UInt8.toNat_ofNat]
  omega

/-- The text of number bytes is made of decimal characters. -/
theorem toText_decimal {l : List UInt8} (h : l.all isNumberByte = true) :
    ∀ c ∈ (Utf8.toText l).toList, Number.isDecimalChar c = true := by
  rw [Utf8.toText, String.toList_ofList]
  induction l with
  | nil => simp [Utf8.decode_nil]
  | cons b r ih =>
    simp only [List.all_cons, Bool.and_eq_true] at h
    obtain ⟨hb, hc⟩ := isNumberByte_char h.1
    rw [Utf8.decode_cons_of_lt hb]
    intro c hmem
    rcases List.mem_cons.1 hmem with rfl | hmem
    · exact hc
    · exact ih h.2 c hmem

end Lexeme

/-! ## What a token says about the bytes it is read from -/

namespace Token

/-- What a token says about the bytes `data` it is read from: it starts inside them; a string
starts at its opening quote; any other token is spelled by the bytes from its offset on, and a
number among them is read from its text as a finite double, starts with no plus sign and has no
point right after it. -/
structure ReadFrom (data : List UInt8) (t : Token) : Prop where
  offset_lt : t.offset < data.length
  quote : t.kind = .string → data[t.offset]? = some 34 ∨ data[t.offset]? = some 39
  spelled : t.kind ≠ .string → ∃ n, 0 < n ∧ t.offset + n ≤ data.length ∧
    t.text = Utf8.toText ((data.drop t.offset).take n) ∧
    (t.kind = .number → data[t.offset]? ≠ some 43 ∧ data[t.offset + n]? ≠ some 46 ∧
      Number.readFloat t.text = .ok t.number ∧ t.number.isFinite = true)

end Token

/-! ## The tokens of one lexeme -/

/-- The tokens of one lexeme read at `pos` and `w` bytes wide: in the order of their offsets,
each inside the lexeme and read from the bytes. -/
def LexemeTokens (data : List UInt8) (pos w : Nat) (toks : List Token) : Prop :=
  toks.Pairwise (fun a b => a.offset < b.offset) ∧
    ∀ t ∈ toks, pos ≤ t.offset ∧ t.offset < pos + w ∧ t.ReadFrom data

section OneLexeme

variable {data : List UInt8} {pos w : Nat} {c : UInt8} {cs : List UInt8}

theorem getElem?_of_drop (hrest : data.drop pos = c :: cs) : data[pos]? = some c := by
  rw [← List.head?_drop, hrest]
  rfl

theorem length_of_drop (hrest : data.drop pos = c :: cs) : cs.length + 1 = data.length - pos := by
  rw [← List.length_cons, ← hrest, List.length_drop]

theorem lt_length_of_drop (hrest : data.drop pos = c :: cs) : pos < data.length :=
  (List.getElem?_eq_some_iff.1 (getElem?_of_drop hrest)).1

/-- The bytes of a lexeme that starts at `pos`: as many as it is wide, up to the end. -/
theorem lexeme_take (hrest : data.drop pos = c :: cs) (hw : 0 < w) :
    0 < min w (c :: cs).length ∧ pos + min w (c :: cs).length ≤ data.length ∧
      (data.drop pos).take (min w (c :: cs).length) = (c :: cs).take w := by
  have hlen := length_of_drop hrest
  simp only [List.length_cons]
  refine ⟨by omega, by omega, ?_⟩
  rw [hrest, min_comm, ← List.take_take, List.take_of_length_le (by simp)]

/-- The byte after a lexeme that starts at `pos` and is `w` bytes wide. -/
theorem getElem?_after_lexeme (hrest : data.drop pos = c :: cs) (w : Nat) :
    data[pos + min w (c :: cs).length]? = ((c :: cs).drop w).head? := by
  have hlen := length_of_drop hrest
  have hafter : (c :: cs)[w]? = data[pos + w]? := by rw [← hrest, List.getElem?_drop]
  rw [List.head?_drop, hafter]
  by_cases hw : w ≤ (c :: cs).length
  · rw [Nat.min_eq_left hw]
  · -- a lexeme cut by the end of the text has nothing after it
    simp only [List.length_cons] at hw ⊢
    rw [List.getElem?_eq_none (by omega), List.getElem?_eq_none (by omega)]

/-- A token that is neither a string nor a number, spelled by the `n` bytes at its offset. -/
theorem readFrom_spelled {t : Token} {n : Nat} (hn : 0 < n) (hle : t.offset + n ≤ data.length)
    (hstring : t.kind ≠ .string) (hnumber : t.kind ≠ .number)
    (htext : t.text = Utf8.toText ((data.drop t.offset).take n)) : t.ReadFrom data :=
  ⟨by omega, fun h => absurd h hstring, fun _ => ⟨n, hn, hle, htext, fun h => absurd h hnumber⟩⟩

/-- A token spelled by the one ASCII byte at its offset. -/
theorem readFrom_mark {t : Token} {b : UInt8} (hb : data[t.offset]? = some b) (hascii : b < 0x80)
    (hstring : t.kind ≠ .string) (hnumber : t.kind ≠ .number)
    (htext : t.text = String.ofList [Char.ofNat b.toNat]) : t.ReadFrom data := by
  obtain ⟨hlt, hget⟩ := List.getElem?_eq_some_iff.1 hb
  refine readFrom_spelled Nat.one_pos (by omega) hstring hnumber ?_
  rw [List.drop_eq_getElem_cons hlt, hget, List.take_succ_cons, List.take_zero, htext,
    Utf8.toText, Utf8.decode_cons_of_lt hascii, Utf8.decode_nil]

theorem lexemeTokens_single {t : Token} (hoff : t.offset = pos) (hw : 0 < w)
    (h : t.ReadFrom data) : LexemeTokens data pos w [t] := by
  refine ⟨List.pairwise_singleton _ _, fun t' ht' => ?_⟩
  rw [List.mem_singleton] at ht'
  subst ht'
  exact ⟨hoff.ge, by omega, h⟩

/-- A one-token lexeme whose token is spelled by all its bytes. -/
theorem lexemeTokens_whole {kind : TokenKind} (hrest : data.drop pos = c :: cs) (hw : 0 < w)
    (hstring : kind ≠ .string) (hnumber : kind ≠ .number) :
    LexemeTokens data pos w [{ kind, text := Utf8.toText ((c :: cs).take w), offset := pos }] := by
  obtain ⟨hn, hle, htake⟩ := lexeme_take hrest hw
  refine lexemeTokens_single rfl hw (readFrom_spelled hn hle hstring hnumber ?_)
  show Utf8.toText ((c :: cs).take w) = Utf8.toText ((data.drop pos).take _)
  rw [htake]

theorem lexemeTokens_mark {kind : TokenKind} {text : String} {b : UInt8}
    (hrest : data.drop pos = b :: cs) (hw : 0 < w) (hascii : b < 0x80) (hstring : kind ≠ .string)
    (hnumber : kind ≠ .number) (htext : text = String.ofList [Char.ofNat b.toNat]) :
    LexemeTokens data pos w [{ kind, text, offset := pos }] :=
  lexemeTokens_single rfl hw (readFrom_mark (getElem?_of_drop hrest) hascii hstring hnumber htext)

/-- A number lexeme, with no plus sign before it and no point after it, whose text reads as the
double `x`: its one token is read from the bytes. -/
theorem lexemeTokens_number {x : Float} (hrest : data.drop pos = c :: cs)
    (hwidth : Lexeme.numberWidth (c :: cs) = some w)
    (hplus : ((c :: cs).take w).head? ≠ some 43) (hpoint : ((c :: cs).drop w).head? ≠ some 46)
    (hx : Number.readFloat (Utf8.toText ((c :: cs).take w)) = .ok x) :
    LexemeTokens data pos w
      [{ kind := .number, text := Utf8.toText ((c :: cs).take w), number := x, offset := pos }] := by
  obtain ⟨hpos, hall⟩ := Lexeme.numberWidth_all hwidth
  obtain ⟨hn, hle, htake⟩ := lexeme_take hrest hpos
  refine lexemeTokens_single rfl hpos ⟨lt_length_of_drop hrest, fun h => (by cases h),
    fun _ => ⟨_, hn, hle, by rw [htake], fun _ => ⟨?_, ?_, hx, ?_⟩⟩⟩
  · -- the number starts with no plus sign
    rw [getElem?_of_drop hrest]
    rw [List.head?_take, if_neg (by omega)] at hplus
    simpa using hplus
  · -- and has no point right after it
    rw [getElem?_after_lexeme hrest]
    exact hpoint
  · exact Number.readFloat_isFinite (Lexeme.toText_decimal hall) hx

/-- A function lexeme whose last byte is `(`: a name spelled by the bytes before the parenthesis,
then the parenthesis. -/
theorem lexemeTokens_function (hrest : data.drop pos = c :: cs) (hw2 : 2 ≤ w)
    (hparen : (c :: cs)[w - 1]? = some 40) :
    LexemeTokens data pos w
      [{ kind := .ident, text := Utf8.toText ((c :: cs).take (w - 1)), offset := pos },
        { kind := .lparen, text := "(", offset := pos + (w - 1) }] := by
  have hlen := length_of_drop hrest
  have hlt : w - 1 < cs.length + 1 := (List.getElem?_eq_some_iff.1 hparen).1
  refine ⟨List.pairwise_pair.2 (show pos < pos + (w - 1) by omega), ?_⟩
  intro t ht
  simp only [List.mem_cons, List.not_mem_nil, or_false] at ht
  rcases ht with rfl | rfl
  · have htext : Utf8.toText ((c :: cs).take (w - 1)) =
        Utf8.toText ((data.drop pos).take (w - 1)) := by
      rw [hrest]
    exact ⟨le_rfl, show pos < pos + w by omega,
      readFrom_spelled (show 0 < w - 1 by omega) (show pos + (w - 1) ≤ data.length by omega)
        (fun h => by cases h) (fun h => by cases h) htext⟩
  · -- the parenthesis is the lexeme's last byte
    have hat : data[pos + (w - 1)]? = some 40 := by
      rw [← List.getElem?_drop, hrest]
      exact hparen
    exact ⟨show pos ≤ pos + (w - 1) by omega, show pos + (w - 1) < pos + w by omega,
      readFrom_mark hat (by decide) (fun h => by cases h) (fun h => by cases h) rfl⟩

/-- The tokens of every lexeme that gives tokens lie inside it, in order, and are read from the
bytes: one case per kind of lexeme, with the lexeme's shape (`Lexeme.shape_next`) giving the
bytes that its kind promises. -/
theorem lexemeOutcome_tokens {kind : LexemeKind} {width : Nat} {toks : List Token}
    (hrest : data.drop pos = c :: cs) (hnext : Lexeme.next (c :: cs) = (kind, width))
    (hout : TokenStream.lexemeOutcome kind ((c :: cs).take (max width 1))
      ((c :: cs).drop (max width 1)) pos = .emit toks) :
    LexemeTokens data pos (max width 1) toks := by
  have hshape := Lexeme.shape_next (c :: cs)
  rw [hnext] at hshape
  obtain ⟨hmark, hquote, hnumber, hfunction⟩ := hshape
  have hw : 0 < max width 1 := by omega
  -- the head byte of a punctuation lexeme is its mark
  have hhead : ∀ b, kind.mark = some b → data.drop pos = b :: cs := by
    intro b hb
    have := hmark b hb
    simp only [List.head?_cons, Option.some.injEq] at this
    rw [hrest, this]
  cases kind with
  | ident =>
    simp only [TokenStream.lexemeOutcome] at hout
    split at hout
    · cases hout
    · cases hout
      exact lexemeTokens_whole hrest hw (by decide) (by decide)
  | hash =>
    simp only [TokenStream.lexemeOutcome, TokenStream.Outcome.emit.injEq] at hout
    subst hout
    exact lexemeTokens_whole hrest hw (by decide) (by decide)
  | colon | semicolon | comma | lbrace | rbrace | lparen | rparen =>
    simp only [TokenStream.lexemeOutcome, TokenStream.Outcome.emit.injEq] at hout
    subst hout
    exact lexemeTokens_mark (hhead _ rfl) hw (by decide) (by decide) (by decide) (by decide)
  | blank | comment | badString | dimension | percentage | other =>
    simp only [TokenStream.lexemeOutcome] at hout
    repeat' split at hout
    all_goals cases hout
  | string =>
    simp only [TokenStream.lexemeOutcome] at hout
    split at hout
    · cases hout
      refine lexemeTokens_single rfl hw
        ⟨lt_length_of_drop hrest, fun _ => ?_, fun h => absurd rfl h⟩
      rw [getElem?_of_drop hrest]
      simpa using hquote rfl
    · cases hout
  | number =>
    have hwidth := hnumber rfl
    have hmax : max width 1 = width := by
      have := (Lexeme.numberWidth_all hwidth).1
      omega
    rw [hmax] at hout ⊢
    simp only [TokenStream.lexemeOutcome] at hout
    -- a plus sign, a point after the digits and a number out of range are failures
    split at hout
    · cases hout
    split at hout
    · cases hout
    split at hout
    · rename_i hplus hpoint _ x hx
      cases hout
      exact lexemeTokens_number hrest hwidth (by simpa using hplus) (by simpa using hpoint) hx
    · cases hout
  | delim =>
    simp only [TokenStream.lexemeOutcome] at hout
    split at hout
    · rename_i hdot
      cases hout
      -- a point alone is the dot token
      have hc : c = 46 := by
        have := congrArg List.head? (beq_iff_eq.1 hdot)
        rw [List.head?_take, if_neg (by omega)] at this
        simpa using this
      subst hc
      exact lexemeTokens_mark hrest hw (by decide) (by decide) (by decide) (by decide)
    · split at hout <;> cases hout
  | function =>
    obtain ⟨hw2, hparen⟩ := hfunction rfl
    have hlt : width - 1 < (c :: cs).length := (List.getElem?_eq_some_iff.1 hparen).1
    have hmax : max width 1 = width := by omega
    rw [hmax] at hout ⊢
    simp only [TokenStream.lexemeOutcome] at hout
    split at hout
    · cases hout
    · cases hout
      -- the name is the lexeme less its parenthesis
      have hname : ((c :: cs).take width).take (((c :: cs).take width).length - 1) =
          (c :: cs).take (width - 1) := by
        rw [List.take_take, List.length_take]
        congr 1
        omega
      rw [hname, List.length_take, Nat.min_eq_left (by omega)]
      exact lexemeTokens_function hrest hw2 hparen

end OneLexeme

/-! ## The whole stream -/

theorem drop_of_suffix {data rest : List UInt8} (h : rest <:+ data) :
    data.drop (data.length - rest.length) = rest := by
  obtain ⟨pre, rfl⟩ := h
  rw [List.length_append, Nat.add_sub_cancel, List.drop_left]

/-- Every token of a stream lies at or after those before it, strictly, and is placed in the
text: the end token at its end, every other token read from the bytes at its offset. The
induction carries that the rest of the input is a suffix of the text and that the tokens
collected so far lie before the current position. -/
theorem scan_spelled (data : List UInt8) (source : String) (rest : List UInt8) (acc : List Token)
    (hrest : rest <:+ data) (hacc : acc.reverse.Pairwise (fun a b => a.offset < b.offset))
    (hlt : ∀ t ∈ acc, t.offset < data.length - rest.length)
    (hread : ∀ t ∈ acc, (t.kind = .eof → t.offset = data.length) ∧
      (t.kind ≠ .eof → t.ReadFrom data)) :
    (TokenStream.scan data source rest acc).tokens.Pairwise (fun a b => a.offset < b.offset) ∧
      ∀ t ∈ (TokenStream.scan data source rest acc).tokens,
        (t.kind = .eof → t.offset = data.length) ∧ (t.kind ≠ .eof → t.ReadFrom data) := by
  induction rest, acc using TokenStream.scan.induct data with
  | case1 acc =>
    rw [TokenStream.scan.eq_1]
    refine ⟨List.pairwise_append.2 ⟨hacc, by simp, ?_⟩, ?_⟩
    · intro a ha b hb
      rw [List.mem_singleton] at hb
      subst hb
      simpa using hlt a (List.mem_reverse.1 ha)
    · intro t ht
      rcases List.mem_append.1 ht with ht | ht
      · exact hread t (List.mem_reverse.1 ht)
      · rw [List.mem_singleton] at ht
        subst ht
        exact ⟨fun _ => rfl, fun h => absurd rfl h⟩
  | case2 acc c cs kind width _ problem o token hnext _ hout =>
    rw [scan_fail hnext hout]
    exact ⟨hacc, fun t ht => hread t (List.mem_reverse.1 ht)⟩
  | case3 acc c cs kind width w toks hnext _ hout ih =>
    rw [scan_emit hnext hout]
    simp only [w] at ih hout
    have hdrop := drop_of_suffix hrest
    have hlen := hrest.length_le
    obtain ⟨hsorted, hinside⟩ := lexemeOutcome_tokens hdrop hnext hout
    have hcons := consumed_ge kind (max width 1) (c :: cs)
    -- the next lexeme starts past this one, or at the end of the text
    have hnextpos : ∀ t ∈ toks, t.offset < data.length -
        ((c :: cs).drop (TokenStream.consumed kind (max width 1) (c :: cs))).length := by
      intro t ht
      have h1 := (hinside t ht).2.1
      have h2 := (hinside t ht).2.2.offset_lt
      rw [List.length_drop]
      omega
    refine ih ((List.drop_suffix _ _).trans hrest) ?_ ?_ ?_
    · rw [List.reverse_append, List.reverse_reverse]
      refine List.pairwise_append.2 ⟨hacc, hsorted, fun a ha b hb => ?_⟩
      have := hlt a (List.mem_reverse.1 ha)
      have := (hinside b hb).1
      omega
    · intro t ht
      rcases List.mem_append.1 ht with ht | ht
      · exact hnextpos t (List.mem_reverse.1 ht)
      · have := hlt t ht
        rw [List.length_drop]
        omega
    · intro t ht
      rcases List.mem_append.1 ht with ht | ht
      · have ht := List.mem_reverse.1 ht
        exact ⟨fun h => absurd h (lexemeOutcome_emit_ne_eof hout t ht),
          fun _ => (hinside t ht).2.2⟩
      · exact hread t ht
  | case4 acc c cs kind width w hnext _ hout ih =>
    rw [scan_skip hnext hout]
    simp only [w] at ih hout
    refine ih ((List.drop_suffix _ _).trans hrest) hacc ?_ hread
    intro t ht
    have := hlt t ht
    rw [List.length_drop]
    omega

/-- Theme text is read faithfully: the token stream ends with its only end token or with an
error and no end token, token offsets strictly increase, the end token stands at the end of the
text, and every other token is read from the bytes at its offset: a string starts at its
opening quote, any other token is spelled by the bytes it starts, and a number is the finite
double its text reads as, with no plus sign before it and no point after it. -/
theorem ofBytes_faithful (data : List UInt8) (source : String) :
    ({ data, source, failure := (TokenStream.ofBytes data source).failure } : Reader).Closed
      (TokenStream.ofBytes data source).tokens ∧
    (TokenStream.ofBytes data source).tokens.Pairwise (fun a b => a.offset < b.offset) ∧
    ∀ t ∈ (TokenStream.ofBytes data source).tokens,
      (t.kind = .eof → t.offset = data.length) ∧ (t.kind ≠ .eof → t.ReadFrom data) :=
  ⟨scan_closed data source data [] (by simp),
    scan_spelled data source data [] (List.suffix_refl data) (by simp) (by simp) (by simp)⟩

end Theming.Sheet
