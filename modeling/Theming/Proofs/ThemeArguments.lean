import Theming.Program.Inspect

/-!
# Naming a bundled theme on the command line

A theme inside a bundle is shown as the bundle's path, a colon and the theme's entry name:
`check` prints it so, and the theme is loaded under that name. `openTheme` reads such an
argument back by splitting it at its last colon, and takes the part before for a bundle's path
when a bundle is there.

* `splitThemeArgument_last_colon`: an argument whose text after the last colon holds no colon is
  split there exactly when a bundle is at the part before; otherwise it is read whole.
* `openTheme_bundled_theme`: for a bundle at `P` and a theme `N` it lists, the argument `P:N`
  runs as loading theme `N` of that bundle when `N` has no colon; when it has one, the argument
  is split at the last colon of `N`, and read whole unless a bundle is at the part before.
  `colon_theme_read_whole` is a bundle whose one theme is named `a:b.sct`: the theme loads,
  and the argument `b.zip:a:b.sct` fails, read as a file that is not there.
-/

set_option autoImplicit false

namespace Theming.Archive.Bundle

/-- The themes of a bundle are names with the theme extension. -/
theorem hasThemeExtension_of_mem_themes {b : Bundle} {name : String} (h : name ∈ b.themes) :
    hasThemeExtension name = true := by
  have hmem := (List.mergeSort_perm _ _).mem_iff.1 h
  simp only [List.mem_filter] at hmem
  exact hmem.2

theorem ne_empty_of_mem_themes {b : Bundle} {name : String} (h : name ∈ b.themes) :
    name ≠ "" := by
  rintro rfl
  exact absurd (hasThemeExtension_of_mem_themes h) (by decide)

end Theming.Archive.Bundle

namespace Theming.Program

open Theming.System Theming.Archive

/-- Over `q ++ ':' :: b` with no colon in `b`, the search from the end stops at the colon after
`q`. -/
theorem find_last_colon {q b : List Char} (hb : ':' ∉ b) :
    (List.range (q ++ ':' :: b).length).reverse.find? (fun i => (q ++ ':' :: b)[i]? == some ':') =
      some q.length := by
  have hlen : (q ++ ':' :: b).length = (q.length + 1) + b.length := by simp; omega
  have hafter (j : Nat) : (q ++ ':' :: b)[q.length + 1 + j]? = b[j]? := by
    rw [List.getElem?_append_right (by omega), show q.length + 1 + j - q.length = j + 1 by omega]
    rfl
  -- the reversed range reads the indices past the colon first, all of them inside `b`
  rw [hlen, List.range_add, List.range_succ, List.reverse_append, List.find?_append,
    List.find?_eq_none.2]
  · simp
  · intro i hi
    simp only [List.mem_reverse, List.mem_map, List.mem_range] at hi
    obtain ⟨j, hj, rfl⟩ := hi
    rw [hafter j]
    simpa using fun h => hb (List.mem_of_getElem? h)

/-- Nothing is a bundle at the empty path. -/
theorem isBundleAt_empty (v : Volume) : isBundleAt v "" = false := by
  simp [isBundleAt, Volume.load, Volume.find]

theorem splitThemeArgument_last_colon (v : Volume) (Q B : String) (hB : ':' ∉ B.toList) :
    splitThemeArgument v (Q ++ ":" ++ B) =
      if isBundleAt v Q then (Q, B) else (Q ++ ":" ++ B, "") := by
  have hchars : (Q ++ ":" ++ B).toList = Q.toList ++ ':' :: B.toList := by simp
  simp only [splitThemeArgument, hchars, find_last_colon hB]
  -- the split also asks for a non-empty bundle path, which a bundle's path always is
  by_cases hQ : Q = ""
  · subst hQ
    simp [isBundleAt_empty]
  · have hpos : 0 < Q.toList.length := List.length_pos_iff.2 (by simpa using hQ)
    simp [hpos]

/-- A named theme of the bundle at `P` is loaded from `P:N` when `N` has no colon. -/
theorem openTheme_bundle_name (s : Session) {P N : String} {b : Bundle}
    (hP : isBundleAt s.world.volume P = true) (hb : openBundle s.world.volume P = .ok b)
    (hN : N ≠ "") (hc : ':' ∉ N.toList) :
    (openTheme (P ++ ":" ++ N)).run s = (loadBundledTheme b N).run s := by
  simp [openTheme, Run.volume, splitThemeArgument_last_colon _ _ _ hc, hP, hb, hN]

theorem openTheme_bundled_theme (s : Session) {P N : String} {b : Bundle}
    (hP : isBundleAt s.world.volume P = true) (hb : openBundle s.world.volume P = .ok b)
    (hN : N ∈ b.themes) :
    (':' ∉ N.toList → (openTheme (P ++ ":" ++ N)).run s = (loadBundledTheme b N).run s) ∧
      ∀ A B, N = A ++ ":" ++ B → ':' ∉ B.toList →
        splitThemeArgument s.world.volume (P ++ ":" ++ N) =
          if isBundleAt s.world.volume (P ++ ":" ++ A) then (P ++ ":" ++ A, B)
          else (P ++ ":" ++ N, "") := by
  refine ⟨openTheme_bundle_name s hP hb (Bundle.ne_empty_of_mem_themes hN), ?_⟩
  rintro A B rfl hB
  simpa only [String.append_assoc] using
    splitThemeArgument_last_colon s.world.volume (P ++ ":" ++ A) B hB

theorem openTheme_bundled_theme_single :
    let v : Volume := { nodes := [("/b.zip", .file (write [("t.sct", "s { p: 1; }".toUTF8)]))] }
    let s : Session := { world := { volume := v } }
    ∃ b : Bundle, openBundle v "b.zip" = .ok b ∧ "t.sct" ∈ b.themes ∧
      (openTheme ("b.zip" ++ ":" ++ "t.sct")).run s = (loadBundledTheme b "t.sct").run s := by
  intro v s
  have hopen : (openBundle v "b.zip").toOption.map Bundle.themes = some ["t.sct"] := by
    decide +kernel
  cases hb : openBundle v "b.zip" with
  | error e =>
    rw [hb] at hopen
    contradiction
  | ok b =>
    have hN : "t.sct" ∈ b.themes := by
      rw [hb] at hopen
      simp [Option.some.inj hopen]
    exact ⟨b, rfl, hN,
      (openTheme_bundled_theme s (by decide +kernel) hb hN).1 (by decide)⟩

theorem colon_theme_read_whole :
    let v : Volume := { nodes := [("/b.zip", .file (write [("a:b.sct", "s { p: 1; }".toUTF8)]))] }
    let s : Session := { world := { volume := v } }
    (openBundle v "b.zip").toOption.map Bundle.themes = some ["a:b.sct"] ∧
      ((openBundle v "b.zip").toOption.map fun b =>
        ((loadBundledTheme b "a:b.sct").run s).1.toBool) = some true ∧
      splitThemeArgument v ("b.zip" ++ ":" ++ "a:b.sct") = ("b.zip" ++ ":" ++ "a:b.sct", "") ∧
      ((openTheme ("b.zip" ++ ":" ++ "a:b.sct")).run s).1.toBool = false := by
  decide +kernel

end Theming.Program
