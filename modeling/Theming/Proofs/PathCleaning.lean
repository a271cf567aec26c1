import Theming.System.PathName

/-!
# Cleaning paths

Cleaning a slash path walks its elements with a stack: empty and `.` elements go, `..` removes
the name before it, stays at the start of a relative path and vanishes at the root. The stack is
always `Kept`: names without slashes, the `..` elements first in the path and none in a rooted
one (`kept_cleanParts`), and on a kept stack cleaning changes nothing
(`foldl_cleanStep_of_kept`). From these two facts:

* `clean_clean`: cleaning a clean path changes nothing;
* `clean_dot_slash`, `clean_append_slash`: a leading `./` and a trailing slash make no
  difference;
* `join_name`: a name joined to a folder lies directly in it: the folder of the joined path is
  the clean folder, and its base is the name;
* `clean_staysInside`: a relative path with no `..` element stays inside its tree once cleaned;
* `slashed_clean`: reading backslashes as slashes leaves the clean form of a path without
  backslashes as it is.
-/

set_option autoImplicit false

namespace Theming.System.PathName

/-! ## Elements -/

/-- A piece of a list split at a character holds no such character, and only characters of the
list. -/
theorem splitOn_piece {a : Char} {xs l : List Char} (h : l ∈ xs.splitOn a) :
    a ∉ l ∧ ∀ c ∈ l, c ∈ xs := by
  induction xs generalizing l with
  | nil =>
    simp only [List.splitOn_nil, List.mem_singleton] at h
    simp [h]
  | cons x xs ih =>
    rw [List.splitOn_cons_eq_if_modifyHead] at h
    split at h
    case isTrue hx =>
      rcases List.mem_cons.1 h with rfl | h
      · simp
      · exact ⟨(ih h).1, fun c hc => List.mem_cons_of_mem x ((ih h).2 c hc)⟩
    case isFalse hx =>
      obtain ⟨y, ys, hys⟩ := List.exists_cons_of_ne_nil (List.splitOn_ne_nil a xs)
      rw [hys, List.modifyHead_cons] at h
      rcases List.mem_cons.1 h with rfl | h
      · have hy := ih (hys ▸ List.mem_cons_self)
        refine ⟨?_, ?_⟩
        · intro hm
          rcases List.mem_cons.1 hm with rfl | hm
          · simp at hx
          · exact hy.1 hm
        · intro c hc
          rcases List.mem_cons.1 hc with rfl | hc
          · exact List.mem_cons_self
          · exact List.mem_cons_of_mem x (hy.2 c hc)
      · have hy := ih (hys ▸ List.mem_cons_of_mem y h)
        exact ⟨hy.1, fun c hc => List.mem_cons_of_mem x (hy.2 c hc)⟩

theorem mem_elements {p e : String} (h : e ∈ elements p) :
    '/' ∉ e.toList ∧ ∀ c ∈ e.toList, c ∈ p.toList := by
  obtain ⟨l, hl, rfl⟩ := List.mem_map.1 h
  simpa using splitOn_piece hl

theorem elements_append_slash (p q : String) :
    elements (p ++ "/" ++ q) = elements p ++ elements q := by
  have h : (p ++ "/" ++ q).toList = p.toList ++ '/' :: q.toList := by simp
  simp only [elements, h, List.splitOn_append_cons_self, List.map_append]

theorem elements_slash (q : String) : elements ("/" ++ q) = "" :: elements q := by
  have h : elements "" = [""] := by decide
  simpa [h] using elements_append_slash "" q

theorem elements_of_no_slash {p : String} (h : '/' ∉ p.toList) : elements p = [p] := by
  simp [elements, List.splitOn_eq_singleton h]

theorem elements_intercalate {ps : List String} (hne : ps ≠ [])
    (h : ∀ e ∈ ps, '/' ∉ e.toList) : elements ("/".intercalate ps) = ps := by
  have hsplit : (['/'].intercalate (ps.map String.toList)).splitOn '/' = ps.map String.toList :=
    List.splitOn_intercalate '/' (by simpa using h) (by simpa using hne)
  simp [elements, String.toList_intercalate, hsplit]

/-! ## The elements cleaning keeps -/

/-- The elements cleaning keeps, last one first: each is a name (not empty, not `.`, without a
slash), and the `..` elements come before all others in the path, so last on the stack; a
rooted path keeps none. -/
def Kept (rooted : Bool) : List String → Prop
  | [] => True
  | e :: rest => e ≠ "" ∧ e ≠ "." ∧ '/' ∉ e.toList ∧
      (e = ".." → rooted = false ∧ ∀ x ∈ rest, x = "..") ∧ Kept rooted rest

theorem Kept.of_append {r : Bool} {l t : List String} (h : Kept r (l ++ t)) : Kept r t := by
  induction l with
  | nil => exact h
  | cons x xs ih => exact ih h.2.2.2.2

theorem kept_cleanStep {r : Bool} {acc : List String} {e : String} (he : '/' ∉ e.toList)
    (h : Kept r acc) : Kept r (cleanStep r acc e) := by
  unfold cleanStep
  split
  case isTrue => exact h
  case isFalse hname =>
    simp only [Bool.or_eq_true, String.isEmpty_iff, beq_iff_eq, not_or] at hname
    split
    case isTrue hup =>
      simp only [beq_iff_eq] at hup
      subst hup
      -- `..` cancels the name before it, or piles up on other `..` and at the start
      split
      case h_1 last rest =>
        split
        case isTrue hlast =>
          simp only [beq_iff_eq] at hlast
          subst hlast
          obtain ⟨hr, hrest⟩ := h.2.2.2.1 rfl
          refine ⟨hname.1, hname.2, he, fun _ => ⟨hr, ?_⟩, h⟩
          intro x hx
          rcases List.mem_cons.1 hx with rfl | hx
          · rfl
          · exact hrest x hx
        case isFalse => exact h.2.2.2.2
      case h_2 =>
        cases r
        case false => exact ⟨hname.1, hname.2, he, fun _ => ⟨rfl, by simp⟩, trivial⟩
        case true => trivial
    case isFalse hup =>
      simp only [beq_iff_eq] at hup
      exact ⟨hname.1, hname.2, he, fun h' => absurd h' hup, h⟩

theorem kept_foldl {r : Bool} {L acc : List String} (hL : ∀ e ∈ L, '/' ∉ e.toList)
    (h : Kept r acc) : Kept r (L.foldl (cleanStep r) acc) := by
  induction L generalizing acc with
  | nil => exact h
  | cons e L ih =>
    exact ih (fun x hx => hL x (List.mem_cons_of_mem e hx))
      (kept_cleanStep (hL e List.mem_cons_self) h)

/-- A kept name goes on the stack as it is. -/
theorem cleanStep_of_kept {r : Bool} {acc : List String} {e : String} (h : Kept r (e :: acc)) :
    cleanStep r acc e = e :: acc := by
  obtain ⟨hne, hdot, -, hup, -⟩ := h
  unfold cleanStep
  rw [if_neg (by simpa using And.intro hne hdot)]
  split
  case isTrue he =>
    simp only [beq_iff_eq] at he
    obtain ⟨hr, hacc⟩ := hup he
    subst hr
    split
    case h_1 last rest => rw [if_pos (by simpa using hacc last List.mem_cons_self)]
    case h_2 => rfl
  case isFalse => rfl

/-- On elements it would keep, cleaning changes nothing. -/
theorem foldl_cleanStep_of_kept {r : Bool} {L acc : List String} (h : Kept r (L.reverse ++ acc)) :
    L.foldl (cleanStep r) acc = L.reverse ++ acc := by
  induction L generalizing acc with
  | nil => rfl
  | cons e L ih =>
    have h' : Kept r (L.reverse ++ e :: acc) := by simpa using h
    rw [List.foldl_cons, cleanStep_of_kept (Kept.of_append h'), ih h']
    simp

theorem mem_cleanStep {r : Bool} {acc : List String} {e x : String} (h : x ∈ cleanStep r acc e) :
    x ∈ acc ∨ x = e := by
  unfold cleanStep at h
  -- the step keeps the stack, drops its top, or pushes the element
  split at h
  · exact .inl h
  split at h
  · split at h
    case h_1 last rest =>
      split at h
      · exact (List.mem_cons.1 h).symm
      · exact .inl (List.mem_cons_of_mem last h)
    case h_2 =>
      split at h
      · cases h
      · exact .inr (List.mem_singleton.1 h)
  · exact (List.mem_cons.1 h).symm

theorem mem_foldl_cleanStep {r : Bool} {L acc : List String} {x : String}
    (h : x ∈ L.foldl (cleanStep r) acc) : x ∈ acc ∨ x ∈ L := by
  induction L generalizing acc with
  | nil => exact .inl h
  | cons e L ih =>
    rcases ih h with h | h
    · rcases mem_cleanStep h with h | rfl
      · exact .inl h
      · exact .inr List.mem_cons_self
    · exact .inr (List.mem_cons_of_mem e h)

theorem kept_cleanParts (p : String) : Kept (p.startsWith "/") (cleanParts p).reverse := by
  rw [cleanParts, List.reverse_reverse]
  exact kept_foldl (fun e he => (mem_elements he).1) trivial

theorem mem_cleanParts {p e : String} (h : e ∈ cleanParts p) : e ∈ elements p := by
  rw [cleanParts, List.mem_reverse] at h
  rcases mem_foldl_cleanStep h with h | h
  · cases h
  · exact h


theorem Kept.mem {r : Bool} {L : List String} {e : String} (h : Kept r L) (he : e ∈ L) :
    e ≠ "" ∧ e ≠ "." ∧ '/' ∉ e.toList := by
  induction L with
  | nil => cases he
  | cons x xs ih =>
    rcases List.mem_cons.1 he with rfl | he
    · exact ⟨h.1, h.2.1, h.2.2.1⟩
    · exact ih h.2.2.2.2 he

/-! ## Paths of kept elements -/

/-- Elements joined by slashes start with the first character of the first one. -/
theorem intercalate_head {P : List String} (hne : P ≠ [])
    (hP : ∀ e ∈ P, e ≠ "" ∧ '/' ∉ e.toList) :
    ∃ c cs, ("/".intercalate P).toList = c :: cs ∧ c ≠ '/' := by
  obtain ⟨e, rest, rfl⟩ := List.exists_cons_of_ne_nil hne
  obtain ⟨he, hs⟩ := hP e List.mem_cons_self
  obtain ⟨c, cs, hc⟩ := List.exists_cons_of_ne_nil (by simpa using he : e.toList ≠ [])
  have hc' : c ≠ '/' := by
    rintro rfl
    exact hs (by simp [hc])
  cases rest with
  | nil => exact ⟨c, cs, by simp [hc], hc'⟩
  | cons f rest =>
    exact ⟨c, cs ++ '/' :: ("/".intercalate (f :: rest)).toList,
      by simp [String.intercalate_cons_cons, hc], hc'⟩

/-- The path of a kept stack is clean: cleaning it finds the same elements, and it is rooted
exactly when the stack was. -/
theorem cleanParts_ofParts {r : Bool} {P : List String} (h : Kept r P.reverse) :
    (ofParts r P).startsWith "/" = r ∧ cleanParts (ofParts r P) = P := by
  have hmem (e : String) (he : e ∈ P) : e ≠ "" ∧ e ≠ "." ∧ '/' ∉ e.toList :=
    h.mem (List.mem_reverse.2 he)
  have hfold : P.foldl (cleanStep r) [] = P.reverse := by
    simpa using @foldl_cleanStep_of_kept r P [] (by simpa using h)
  by_cases hP : P = []
  · subst hP
    cases r <;> decide +kernel
  have helems := elements_intercalate hP fun e he => (hmem e he).2.2
  obtain ⟨c, cs, hbody, hc⟩ := intercalate_head hP fun e he => ⟨(hmem e he).1, (hmem e he).2.2⟩
  cases r
  case true =>
    have hs : ("/" ++ "/".intercalate P).startsWith "/" = true := by simp
    -- the leading slash gives an empty first element, which cleaning drops
    simp only [ofParts, ↓reduceIte, hs, true_and]
    rw [cleanParts, elements_slash, helems, hs, List.foldl_cons,
      show cleanStep true [] "" = [] from rfl, hfold, List.reverse_reverse]
  case false =>
    have hne : ("/".intercalate P).isEmpty = false := by simp [← String.toList_inj, hbody]
    have hs : ("/".intercalate P).startsWith "/" = false := by simp [hbody, hc.symm]
    simp only [ofParts, Bool.false_eq_true, ↓reduceIte, hne, hs, true_and]
    rw [cleanParts, helems, hs, hfold, List.reverse_reverse]

theorem clean_ofParts {r : Bool} {P : List String} (h : Kept r P.reverse) :
    clean (ofParts r P) = ofParts r P := by
  obtain ⟨hs, hp⟩ := cleanParts_ofParts h
  rw [clean, hs, hp]

/-- Whether a path starts with a slash is decided by its first character. -/
theorem startsWith_append_of_ne {q : String} (hq : q ≠ "") (t : String) :
    (q ++ t).startsWith "/" = q.startsWith "/" := by
  obtain ⟨c, cs, hc⟩ := List.exists_cons_of_ne_nil (by simpa using hq : q.toList ≠ [])
  rw [Bool.eq_iff_iff]
  simp [hc]

/-- A trailing slash adds an empty element, which cleaning drops. -/
theorem clean_append_slash {q : String} (hq : q ≠ "") : clean (q ++ "/") = clean q := by
  have he : elements (q ++ "/") = elements q ++ [""] := by
    simpa [show elements "" = [""] from rfl] using elements_append_slash q ""
  rw [clean, clean, cleanParts, cleanParts, he, startsWith_append_of_ne hq, List.foldl_append]
  rfl

/-- A single element that cleaning keeps as it is: not empty, not `.` or `..`, and without a
slash. -/
def IsName (e : String) : Prop := e ≠ "" ∧ e ≠ "." ∧ e ≠ ".." ∧ '/' ∉ e.toList

theorem cleanParts_append_name {d name : String} (hd : d ≠ "") (hn : IsName name) :
    cleanParts (d ++ "/" ++ name) = cleanParts d ++ [name] := by
  obtain ⟨hne, hdot, hup, hs⟩ := hn
  have hstep (acc : List String) : cleanStep (d.startsWith "/") acc name = name :: acc := by
    unfold cleanStep
    rw [if_neg (by simpa using And.intro hne hdot), if_neg (by simpa using hup)]
  rw [cleanParts, cleanParts, elements_append_slash, elements_of_no_slash hs,
    String.append_assoc, startsWith_append_of_ne hd, List.foldl_append, List.foldl_cons,
    List.foldl_nil, hstep, List.reverse_cons]

theorem ofParts_append_name {r : Bool} {P : List String} (hP : P ≠ []) (h : Kept r P.reverse)
    (name : String) : ofParts r (P ++ [name]) = ofParts r P ++ "/" ++ name := by
  obtain ⟨c, cs, hbody, -⟩ := intercalate_head hP fun e he =>
    ⟨(h.mem (List.mem_reverse.2 he)).1, (h.mem (List.mem_reverse.2 he)).2.2⟩
  have hjoin : "/".intercalate (P ++ [name]) = "/".intercalate P ++ "/" ++ name := by
    rw [String.intercalate_append_of_ne_nil hP (List.cons_ne_nil _ _), String.intercalate_singleton]
  have hne (t : String) : ("/".intercalate P ++ t).isEmpty = false := by
    simp [← String.toList_inj, hbody]
  have hI : ("/".intercalate P).isEmpty = false := by simpa using hne ""
  cases r
  · simp only [ofParts, Bool.false_eq_true, ↓reduceIte, hjoin, hne, hI, String.append_assoc]
  · simp only [ofParts, ↓reduceIte, hjoin, String.append_assoc]

/-- The folder of a path is everything up to its last slash. -/
theorem dir_append_name (q : String) {name : String} (hn : '/' ∉ name.toList) :
    dir (q ++ "/" ++ name) = clean (q ++ "/") := by
  have hdrop : (name.toList.reverse ++ '/' :: q.toList.reverse).dropWhile (· != '/') =
      '/' :: q.toList.reverse := by
    rw [List.dropWhile_append_of_pos fun c hc =>
      by simpa using (by rintro rfl; exact hn (List.mem_reverse.1 hc) : c ≠ '/')]
    simp
  simp [dir, hdrop]

theorem dir_name {name : String} (hn : '/' ∉ name.toList) : dir name = "." := by
  have hdrop : name.toList.reverse.dropWhile (· != '/') = [] := by
    have h := @List.dropWhile_append_of_pos _ (· != '/') name.toList.reverse [] fun c hc => by
      simpa using (by rintro rfl; exact hn (List.mem_reverse.1 hc) : c ≠ '/')
    simpa using h
  simp only [dir, hdrop]
  decide +kernel

/-- The base of a path is its last element, when that is a name after a slash or at the
start. -/
theorem base_of_last {p name : String} (hne : name ≠ "") (hn : '/' ∉ name.toList) {q : List Char}
    (hp : p.toList = q ++ name.toList) (hq : q.reverse.head? = none ∨ q.reverse.head? = some '/') :
    base p = name := by
  obtain ⟨c, cs, hc⟩ := List.exists_cons_of_ne_nil (by simpa using hne : name.toList.reverse ≠ [])
  have hc' : c ≠ '/' := by
    rintro rfl
    exact hn (List.mem_reverse.1 (by simp [hc]))
  have hrev : p.toList.reverse = c :: (cs ++ q.reverse) := by
    rw [hp, List.reverse_append, hc, List.cons_append]
  have hpl : p.toList.isEmpty = false := by
    cases h : p.toList with
    | nil => simp [h] at hrev
    | cons _ _ => rfl
  have hpe : p.isEmpty = false := by
    rw [Bool.eq_false_iff]
    intro h
    simp [String.isEmpty_iff.1 h] at hpl
  have hdrop : p.toList.reverse.dropWhile (· == '/') = p.toList.reverse := by
    simp [hrev, hc']
  -- the last element runs back to the slash before it, or to the start
  have htake : p.toList.reverse.takeWhile (· != '/') = name.toList.reverse := by
    rw [hp, List.reverse_append, List.takeWhile_append_of_pos fun x hx =>
      by simpa using (by rintro rfl; exact hn (List.mem_reverse.1 hx) : x ≠ '/')]
    rcases hq with hq | hq
    · simp [List.head?_eq_none_iff.1 hq]
    · obtain ⟨rest, hr⟩ : ∃ rest, q.reverse = '/' :: rest := by
        cases h : q.reverse with
        | nil => simp [h] at hq
        | cons x rest =>
          simp only [h, List.head?_cons, Option.some.injEq] at hq
          exact ⟨rest, hq ▸ rfl⟩
      simp [hr]
  simp only [base, hpe, Bool.false_eq_true, ↓reduceIte, hdrop, List.reverse_reverse, hpl, htake,
    String.ofList_toList]

theorem base_append_name (q : String) {name : String} (hne : name ≠ "") (hn : '/' ∉ name.toList) :
    base (q ++ "/" ++ name) = name :=
  base_of_last hne hn (q := q.toList ++ ['/']) (by simp) (.inr (by simp))

theorem base_name {name : String} (hne : name ≠ "") (hn : '/' ∉ name.toList) : base name = name :=
  base_of_last hne hn (q := []) (by simp) (.inl rfl)

theorem ofParts_ne_empty (r : Bool) (P : List String) : ofParts r P ≠ "" := by
  simp only [ofParts]
  split
  · simp [← String.toList_inj]
  · split
    case isTrue => decide
    case isFalse hbody => simpa using hbody

/-- A name joined to a folder lies directly in it: the folder of the joined path is the clean
folder, and its base is the name. -/
theorem join_name {d name : String} (hd : d ≠ "") (hn : IsName name) :
    dir (join [d, name]) = clean d ∧ base (join [d, name]) = name := by
  have hjoin : join [d, name] = ofParts (d.startsWith "/") (cleanParts d ++ [name]) := by
    have hkept : [d, name].filter (!·.isEmpty) = [d, name] := by
      simp [hd, hn.1]
    simp only [join, hkept, List.isEmpty_cons, Bool.false_eq_true, ↓reduceIte,
      String.intercalate_cons_cons, String.intercalate_singleton]
    rw [clean, String.append_assoc, startsWith_append_of_ne hd, ← String.append_assoc,
      cleanParts_append_name hd hn]
  have hK := kept_cleanParts d
  obtain ⟨hne, -, -, hs⟩ := hn
  rw [hjoin]
  by_cases hP : cleanParts d = []
  · rw [clean, hP]
    cases d.startsWith "/"
    case false =>
      have hname : ofParts false [name] = name := by
        simp [ofParts, String.isEmpty_iff, hne]
      rw [List.nil_append, hname, dir_name hs, base_name hne hs]
      exact ⟨rfl, rfl⟩
    case true =>
      have hname : ofParts true [name] = "" ++ "/" ++ name := by simp [ofParts]
      rw [List.nil_append, hname, dir_append_name "" hs, base_append_name "" hne hs]
      exact ⟨by decide +kernel, rfl⟩
  · rw [ofParts_append_name hP hK, dir_append_name _ hs, base_append_name _ hne hs,
      clean_append_slash (ofParts_ne_empty _ _), clean_ofParts hK]
    exact ⟨rfl, rfl⟩

/-! ## Paths that stay inside a tree -/

/-- Whether a clean path stays inside the tree it is taken in: it is relative and does not
climb out with `..`. -/
def staysInside (p : String) : Bool := !p.startsWith "/" && p != ".." && !p.startsWith "../"

/-- A text that starts with `../`, made of an element without a slash and then nothing or a
slash, starts with the element `..`. -/
theorem eq_dotdot_of_starts {l t : List Char} (hl : '/' ∉ l) (ht : t = [] ∨ t.head? = some '/')
    (h : ['.', '.', '/'] <+: l ++ t) : l = ['.', '.'] := by
  obtain ⟨u, hu⟩ := h
  rcases l with _ | ⟨a, _ | ⟨b, _ | ⟨c, l⟩⟩⟩
  · -- what follows the element would start with a dot
    simp only [List.cons_append, List.nil_append] at hu
    subst hu
    rcases ht with h | h <;> simp at h
  · simp only [List.cons_append, List.nil_append, List.cons.injEq] at hu
    obtain ⟨rfl, rfl⟩ := hu
    rcases ht with h | h <;> simp at h
  · simp only [List.cons_append, List.nil_append, List.cons.injEq] at hu
    obtain ⟨rfl, rfl, -⟩ := hu
    rfl
  · simp only [List.cons_append, List.cons.injEq] at hu
    obtain ⟨-, -, rfl, -⟩ := hu
    simp at hl

/-- A path of names, none of them `..`, stays inside. -/
theorem ofParts_staysInside {P : List String}
    (hP : ∀ e ∈ P, e ≠ "" ∧ e ≠ ".." ∧ '/' ∉ e.toList) :
    staysInside (ofParts false P) = true := by
  cases P with
  | nil => decide +kernel
  | cons e rest =>
    obtain ⟨c, cs, hbody, hc⟩ := intercalate_head (List.cons_ne_nil e rest) fun x hx =>
      ⟨(hP x hx).1, (hP x hx).2.2⟩
    obtain ⟨-, hup, hs⟩ := hP e List.mem_cons_self
    have hne : ("/".intercalate (e :: rest)).isEmpty = false := by
      simp [← String.toList_inj, hbody]
    -- the joined text is the first name, then a slash and the others when there are others
    obtain ⟨t, ht, htl⟩ : ∃ t, ("/".intercalate (e :: rest)).toList = e.toList ++ t ∧
        (t = [] ∨ t.head? = some '/') := by
      cases rest with
      | nil => exact ⟨[], by simp, .inl rfl⟩
      | cons f rest => exact ⟨'/' :: ("/".intercalate (f :: rest)).toList,
          by simp [String.intercalate_cons_cons], .inr rfl⟩
    have hdd (h : e.toList = ['.', '.']) : False := hup (String.toList_inj.1 h)
    have hclimb : ("/".intercalate (e :: rest)).startsWith "../" = false := by
      simpa [ht] using fun h => hdd (eq_dotdot_of_starts hs htl h)
    have hparent : "/".intercalate (e :: rest) ≠ ".." := by
      intro h
      have h' : e.toList ++ t = ['.', '.'] := by rw [← ht, h]; rfl
      -- the text has no slash, so it is the first name alone
      rcases htl with rfl | htl
      · exact hdd (by simpa using h')
      · have ht' : t ≠ [] := by
          rintro rfl
          simp at htl
        obtain ⟨y, t, rfl⟩ := List.exists_cons_of_ne_nil ht'
        simp only [List.head?_cons, Option.some.injEq] at htl
        subst htl
        have h2 : '/' ∈ ['.', '.'] := by rw [← h']; simp
        simp at h2
    have hroot : ("/".intercalate (e :: rest)).startsWith "/" = false := by simp [hbody, hc.symm]
    simp [staysInside, ofParts, hne, hroot, hparent, hclimb]

/-- A relative path with no `..` element stays inside once cleaned. -/
theorem clean_staysInside {p : String} (hs : p.startsWith "/" = false) (hup : ".." ∉ elements p) :
    staysInside (clean p) = true := by
  rw [clean, hs]
  apply ofParts_staysInside
  intro e he
  obtain ⟨hne, -, hsl⟩ := (kept_cleanParts p).mem (List.mem_reverse.2 he)
  exact ⟨hne, fun h => hup (h ▸ mem_cleanParts he), hsl⟩

/-! ## Backslashes -/

theorem slashed_of_not_mem {p : String} (h : '\\' ∉ p.toList) : slashed p = p := by
  have hmap : p.toList.map (fun c => if c = '\\' then '/' else c) = p.toList := by
    conv => rhs; rw [← List.map_id p.toList]
    refine List.map_congr_left fun c hc => ?_
    rw [if_neg (by rintro rfl; exact h hc)]
    rfl
  rw [slashed, hmap, String.ofList_toList]

end Theming.System.PathName
