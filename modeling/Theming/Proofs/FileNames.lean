import Theming.Program.Inspect
import Theming.Proofs.PathCleaning
import Theming.Proofs.SheetParse

/-!
# Safe file names

`cleanFileName` makes a file name out of any text. What it returns is a name for one file in a
folder: not empty, without a path or path-list separator, NUL or white space, and not starting
with a dot (`isFileName`). Such a name is left as it is, so cleaning twice is cleaning once.

A rendered widget is written inside a destination folder under a name cleaned so, with `.png`
added when it has no extension; the file then sits directly in that folder.

* `cleanFileName_single_name`: every cleaned name is a file name and a fixed point of cleaning,
  and a render into a folder writes a file whose folder is that folder and whose base is a file
  name.
-/

set_option autoImplicit false

namespace Theming.Config

open Theming.System Theming.Text

/-- A character a file name keeps as it is: no path or path-list separator, no NUL and no white
space. -/
def isFileNameChar (c : Char) : Bool :=
  c != '/' && c != ':' && c.toNat != 0 && !Printable.isSpace c

/-- A name for one file in a folder: not empty, of characters kept as they are, and not starting
with a dot. -/
def isFileName (n : String) : Bool :=
  !n.isEmpty && n.toList.all isFileNameChar && n.toList.head? != some '.'

theorem isFileName_iff {n : String} :
    isFileName n = true ↔
      n ≠ "" ∧ (∀ c ∈ n.toList, isFileNameChar c = true) ∧ n.toList.head? ≠ some '.' := by
  simp [isFileName, and_assoc]

theorem fileNameChar_of_isFileNameChar {c : Char} (h : isFileNameChar c = true) :
    fileNameChar c = some c := by
  simp only [isFileNameChar, Bool.and_eq_true, bne_iff_ne, ne_eq, Bool.not_eq_true'] at h
  simp [fileNameChar, h]

theorem isFileNameChar_of_fileNameChar {c d : Char} (h : fileNameChar c = some d) :
    isFileNameChar d = true := by
  unfold fileNameChar at h
  split at h
  · contradiction
  · split at h
    · cases h
      decide
    · cases h
      simp_all [isFileNameChar]

theorem filterMap_fileNameChar {l : List Char} (h : ∀ c ∈ l, isFileNameChar c = true) :
    l.filterMap fileNameChar = l := by
  induction l with
  | nil => rfl
  | cons c cs ih =>
    rw [List.filterMap_cons_some (fileNameChar_of_isFileNameChar (h c (by simp))),
      ih fun d hd => h d (by simp [hd])]

/-- Cleaning leaves a file name as it is. -/
theorem cleanFileName_of_isFileName {n : String} (h : isFileName n = true) :
    cleanFileName n = n := by
  obtain ⟨hne, hall, hhead⟩ := isFileName_iff.1 h
  obtain ⟨c, cs, hcs⟩ := List.exists_cons_of_ne_nil (by simpa using hne : n.toList ≠ [])
  have hc : c ≠ '.' := by simpa [hcs] using hhead
  have hout : (n.toList.filterMap fileNameChar).dropWhile (· == '.') = n.toList := by
    rw [filterMap_fileNameChar hall, hcs, List.dropWhile_cons_of_neg (by simpa using hc)]
  simp [cleanFileName, hout, hne]

theorem badFileName_isFileName : isFileName badFileName = true := by decide

/-- What `cleanFileName` returns is a file name: every kept character passed `fileNameChar`, and
the leading dots are gone. -/
theorem isFileName_cleanFileName (s : String) : isFileName (cleanFileName s) = true := by
  simp only [cleanFileName]
  split
  · exact badFileName_isFileName
  · rename_i hout
    have hall : ∀ c ∈ (s.toList.filterMap fileNameChar).dropWhile (· == '.'),
        isFileNameChar c = true := by
      intro c hc
      obtain ⟨a, -, ha⟩ := List.mem_filterMap.1 ((List.dropWhile_sublist _).subset hc)
      exact isFileNameChar_of_fileNameChar ha
    have hhead := List.head?_dropWhile_not (· == '.') (s.toList.filterMap fileNameChar)
    generalize (s.toList.filterMap fileNameChar).dropWhile (· == '.') = out at hall hhead hout ⊢
    cases out with
    | nil => simp at hout
    | cons c cs =>
      have hc : c ≠ '.' := by simpa using hhead
      simp only [List.forall_mem_cons] at hall
      simpa [isFileName, hc, hall.1] using hall.2

example : cleanFileName "..a b/c:d" = "a_bcd" ∧ cleanFileName "./:" = badFileName := by
  decide +kernel

/-- A file name is one element of a path. -/
theorem isName_of_isFileName {n : String} (h : isFileName n = true) : PathName.IsName n := by
  obtain ⟨hne, hall, hhead⟩ := isFileName_iff.1 h
  refine ⟨hne, ?_, ?_, fun hs => ?_⟩
  · rintro rfl
    exact hhead rfl
  · rintro rfl
    exact hhead rfl
  · have := hall '/' hs
    simp [isFileNameChar] at this

/-- Adding the picture extension keeps a file name. -/
theorem isFileName_append_png {n : String} (h : isFileName n = true) :
    isFileName (n ++ ".png") = true := by
  obtain ⟨hne, hall, hhead⟩ := isFileName_iff.1 h
  obtain ⟨c, cs, hcs⟩ := List.exists_cons_of_ne_nil (by simpa using hne : n.toList ≠ [])
  have hpng : ∀ c ∈ ".png".toList, isFileNameChar c = true := by
    simp [isFileNameChar, Printable.isSpace]
  refine isFileName_iff.2 ⟨by simp [hne], ?_, ?_⟩
  · intro c hc
    rw [String.toList_append, List.mem_append] at hc
    rcases hc with hc | hc
    · exact hall c hc
    · exact hpng c hc
  · simpa [hcs] using hhead

end Theming.Config

namespace Theming.Program

open Theming.System Theming.Config

/-- A rendered picture's name is a file name. -/
theorem isFileName_renderName {template name : String} {a : Applied}
    (h : renderName template a = .ok name) : isFileName name = true := by
  unfold renderName at h
  obtain ⟨t, -, h⟩ := Sheet.bind_eq_ok.1 h
  obtain ⟨out, -, h⟩ := Sheet.bind_eq_ok.1 h
  simp only [Sheet.pure_eq_ok, Except.ok.injEq] at h
  subst h
  split
  · exact isFileName_append_png (isFileName_cleanFileName out)
  · exact isFileName_cleanFileName out

/-- Nothing is a folder at the empty path. -/
theorem isFolder_empty (v : Volume) : v.isFolder "" = false := by
  simp [Volume.isFolder, Volume.find]

/-- Rendering into a folder writes a file directly inside that folder. -/
theorem renderPath_in_folder {v : Volume} {template dst path : String} {a : Applied}
    (hdst : v.isFolder dst = true) (h : renderPath v template a dst = .ok path) :
    PathName.dir path = PathName.clean dst ∧ isFileName (PathName.base path) = true := by
  have hne : dst ≠ "" := by
    rintro rfl
    simp [isFolder_empty] at hdst
  simp only [renderPath, hdst, ↓reduceIte] at h
  cases hname : renderName template a with
  | error e => simp [hname, Except.map] at h
  | ok name =>
    simp only [hname, Except.map, Except.ok.injEq] at h
    subst h
    have hfile := isFileName_renderName hname
    obtain ⟨hdir, hbase⟩ := PathName.join_name hne (isName_of_isFileName hfile)
    refine ⟨hdir, ?_⟩
    rw [hbase]
    exact hfile

example : (renderPath { nodes := [("/out", .folder true)] } "w"
    ⟨"t.sct", "s", "view", [], default⟩ "out").toOption = some "out/w.png" := by
  decide +kernel

theorem cleanFileName_single_name (s : String) :
    isFileName (cleanFileName s) = true ∧ cleanFileName (cleanFileName s) = cleanFileName s ∧
      ∀ (v : Volume) (template dst path : String) (a : Applied), v.isFolder dst = true →
        renderPath v template a dst = .ok path →
          PathName.dir path = PathName.clean dst ∧ isFileName (PathName.base path) = true :=
  ⟨isFileName_cleanFileName s, cleanFileName_of_isFileName (isFileName_cleanFileName s),
    fun _ _ _ _ _ hdst h => renderPath_in_folder hdst h⟩

end Theming.Program
