import Theming.Program.Report
import Mathlib.Data.List.Nodup

/-!
# What a debug report keeps

Data and copies are stored in a report under names. A name already taken is versioned once with
the time of the call (`Report.freeName`), and filing under a name replaces an entry of that name
(`Report.set`). So a call loses an earlier item exactly when its name and its versioned name are
both taken, which a repeated time or a caller's name of the versioned form makes happen. And the
archive leaves out empty data.

`Report.storeAll` performs store calls in turn and records the name each successful call filed
under. The step lemma is `Report.storeAll_cons`: a call fails and changes nothing, or it files one
entry. From it, by induction over the calls:

* entry names stay distinct (`storeAll_nodup`);
* an entry whose name is not filed under again is kept (`storeAll_keeps`);
* the entries grow by one for each successful call exactly when the filed names are new and
  distinct (`storeAll_length_iff`).

`stores_kept_iff_names_distinct` is the statement for a report from its creation. It also says
that then the data of every data call is kept under its name and is a member of the archive
unless empty.
-/

set_option autoImplicit false

namespace Theming.Program

open Theming.System

/-- A call that stores into a report: data held in memory, or a copy of what a path holds now. -/
inductive StoreCall where
  | data (name : String) (bytes : ByteArray) (stamp : Nat)
  | copy (name path : String) (stamp : Nat)

namespace Report

/-- The names of a report's entries, in the order they were filed. -/
def entryNames (r : Report) : List String := r.entries.map Prod.fst

/-- Performs store calls in turn, a copy that fails changing nothing. Gives the final report and
each call that succeeded with the name its entry was filed under. -/
def storeAll (v : Volume) : Report → List StoreCall → Report × List (StoreCall × String)
  | r, [] => (r, [])
  | r, .data name bytes stamp :: cs =>
    let run := (r.storeData name bytes stamp).storeAll v cs
    (run.1, (.data name bytes stamp, r.freeName name stamp) :: run.2)
  | r, .copy name path stamp :: cs =>
    match r.storeCopy v name path stamp with
    | .ok r₁ =>
      let run := r₁.storeAll v cs
      (run.1, (.copy name path stamp, r.freeName name stamp) :: run.2)
    | .error _ => r.storeAll v cs

section Filing

variable {r : Report} {n : String} {e : ReportEntry}

theorem has_iff_mem : r.has n = true ↔ n ∈ r.entryNames := by
  simp only [has, entryNames, List.any_eq_true, beq_iff_eq, List.mem_map]

@[simp] theorem length_entryNames (r : Report) : r.entryNames.length = r.entries.length := by
  simp [entryNames]

theorem entryNames_set : (r.set n e).entryNames = r.entryNames.filter (· != n) ++ [n] := by
  simp [set, entryNames, List.filter_map, Function.comp_def]

/-- Filing under a free name appends an entry and keeps all others. -/
theorem set_entries_of_not_mem (h : n ∉ r.entryNames) : (r.set n e).entries = r.entries ++ [(n, e)] := by
  simp only [set, List.append_cancel_right_eq]
  rw [List.filter_eq_self]
  intro x hx
  have : x.1 ≠ n := fun hxn => h (hxn ▸ List.mem_map_of_mem hx)
  simpa using this

theorem nodup_set (h : r.entryNames.Nodup) : (r.set n e).entryNames.Nodup := by
  rw [entryNames_set, List.nodup_append]
  refine ⟨h.filter _, List.nodup_singleton n, ?_⟩
  intro a ha b hb
  simp only [List.mem_filter, bne_iff_ne, ne_eq] at ha
  simp only [List.mem_singleton] at hb
  exact hb ▸ ha.2

/-- Filing under a taken name replaces that entry: the number of entries stays. -/
theorem length_set_of_mem (h : r.entryNames.Nodup) (hn : n ∈ r.entryNames) :
    (r.set n e).entries.length = r.entries.length := by
  rw [← length_entryNames, entryNames_set, ← h.erase_eq_filter, List.length_append,
    List.length_erase_of_mem hn, length_entryNames, List.length_singleton]
  have : 0 < r.entries.length := by rw [← length_entryNames]; exact List.length_pos_of_mem hn
  omega

theorem length_set_le : (r.set n e).entries.length ≤ r.entries.length + 1 := by
  simp only [set, List.length_append, List.length_singleton]
  have := List.length_filter_le (fun x : String × ReportEntry => x.1 != n) r.entries
  omega

end Filing

/-- A copy that succeeds files one entry under the name `freeName` picks. -/
theorem storeCopy_ok {v : Volume} {r r₁ : Report} {name path : String} {stamp : Nat}
    (h : r.storeCopy v name path stamp = .ok r₁) : ∃ e, r₁ = r.set (r.freeName name stamp) e := by
  simp only [storeCopy] at h
  cases hs : v.stat path with
  | error reason =>
    simp [hs, Except.mapError, bind, Except.bind] at h
  | ok node =>
    -- a file or a folder is copied, anything else is refused
    cases node <;> simp [hs, Except.mapError, bind, Except.bind, pure, Except.pure, throw,
      throwThe, MonadExceptOf.throw] at h
    all_goals exact ⟨_, h.symm⟩

/-- Every store call either fails, changing nothing, or files one entry under a name; data is filed
as it was given. -/
theorem storeAll_cons (v : Volume) (r : Report) (c : StoreCall) (cs : List StoreCall) :
    r.storeAll v (c :: cs) = r.storeAll v cs ∨
      ∃ n e, (∀ name bytes stamp, c = .data name bytes stamp → e = { stored := .data bytes, stamp }) ∧
        r.storeAll v (c :: cs) = (((r.set n e).storeAll v cs).1, (c, n) :: ((r.set n e).storeAll v cs).2) := by
  cases c with
  | data name bytes stamp =>
    refine Or.inr ⟨_, _, fun _ _ _ h => ?_, rfl⟩
    cases h
    rfl
  | copy name path stamp =>
    simp only [storeAll]
    split
    next r₁ h =>
      obtain ⟨e, rfl⟩ := storeCopy_ok h
      exact Or.inr ⟨_, e, by rintro _ _ _ ⟨⟩, rfl⟩
    next => exact Or.inl rfl

section Runs

variable (v : Volume)

/-- Entry names stay distinct along a run. -/
theorem storeAll_nodup (cs : List StoreCall) :
    ∀ {r : Report}, r.entryNames.Nodup → (r.storeAll v cs).1.entryNames.Nodup := by
  induction cs with
  | nil => exact id
  | cons c cs ih =>
    intro r hr
    rcases storeAll_cons v r c cs with h | ⟨n, e, -, h⟩ <;> rw [h]
    · exact ih hr
    · exact ih (nodup_set hr)

/-- Each call that succeeds adds at most one entry. -/
theorem storeAll_length_le (cs : List StoreCall) :
    ∀ r : Report, (r.storeAll v cs).1.entries.length ≤ r.entries.length + (r.storeAll v cs).2.length := by
  induction cs with
  | nil => intro r; simp [storeAll]
  | cons c cs ih =>
    intro r
    rcases storeAll_cons v r c cs with h | ⟨n, e, -, h⟩ <;> rw [h]
    · exact ih r
    · have h₁ := ih (r.set n e)
      have h₂ := length_set_le (r := r) (n := n) (e := e)
      simp only [List.length_cons]
      omega

/-- The frame of a run: an entry whose name no later call files under is kept. -/
theorem storeAll_keeps (cs : List StoreCall) :
    ∀ {r : Report} {x : String × ReportEntry}, x ∈ r.entries →
      x.1 ∉ (r.storeAll v cs).2.map Prod.snd → x ∈ (r.storeAll v cs).1.entries := by
  induction cs with
  | nil => intro r x hx _; exact hx
  | cons c cs ih =>
    intro r x hx hfree
    rcases storeAll_cons v r c cs with h | ⟨n, e, -, h⟩ <;> rw [h] at hfree ⊢
    · exact ih hx hfree
    · simp only [List.map_cons, List.mem_cons, not_or] at hfree
      refine ih ?_ hfree.2
      simp only [set, List.mem_append, List.mem_filter, bne_iff_ne, ne_eq]
      exact Or.inl ⟨hx, by simpa using hfree.1⟩

/-- A run keeps every entry and adds one for each call that succeeds exactly when the names the
calls file under are new and distinct. -/
theorem storeAll_length_iff (cs : List StoreCall) :
    ∀ {r : Report}, r.entryNames.Nodup →
      ((r.storeAll v cs).1.entries.length = r.entries.length + (r.storeAll v cs).2.length ↔
        (r.entryNames ++ (r.storeAll v cs).2.map Prod.snd).Nodup) := by
  induction cs with
  | nil => intro r hr; simp [storeAll, hr]
  | cons c cs ih =>
    intro r hr
    rcases storeAll_cons v r c cs with h | ⟨n, e, -, h⟩ <;> rw [h]
    · exact ih hr
    · simp only [List.length_cons, List.map_cons]
      by_cases hn : n ∈ r.entryNames
      · -- filing under a taken name loses an entry, and the names are not distinct
        have hle := storeAll_length_le v cs (r.set n e)
        rw [length_set_of_mem hr hn] at hle
        have hdup : ¬ (r.entryNames ++ n :: ((r.set n e).storeAll v cs).2.map Prod.snd).Nodup := by
          rw [List.nodup_append]
          rintro ⟨-, -, hdisj⟩
          exact hdisj n hn n (List.mem_cons_self) rfl
        simp only [hdup, iff_false]
        omega
      · have hset := set_entries_of_not_mem (e := e) hn
        have hnames : (r.set n e).entryNames = r.entryNames ++ [n] := by
          simp [entryNames, hset]
        have hih := @ih (r.set n e) (nodup_set hr)
        rw [hnames, hset, List.append_assoc, List.singleton_append, List.length_append,
          List.length_singleton] at hih
        rw [← hih]
        constructor <;> intro h <;> omega

/-- Names that are new and distinct before filing under one of them stay so after. -/
theorem nodup_set_append {r : Report} {n : String} {e : ReportEntry} {names : List String}
    (h : (r.entryNames ++ n :: names).Nodup) : ((r.set n e).entryNames ++ names).Nodup := by
  rw [entryNames_set, List.append_assoc, List.singleton_append]
  exact h.sublist ((List.filter_sublist).append_right _)

/-- When the names the calls file under are new and distinct, the data of every data call is in an
entry of the final report, under the name it was filed under. -/
theorem storeAll_data_mem (cs : List StoreCall) :
    ∀ {r : Report}, (r.entryNames ++ (r.storeAll v cs).2.map Prod.snd).Nodup →
      ∀ {name : String} {bytes : ByteArray} {stamp : Nat} {n : String},
        (StoreCall.data name bytes stamp, n) ∈ (r.storeAll v cs).2 →
          (n, { stored := .data bytes, stamp }) ∈ (r.storeAll v cs).1.entries := by
  induction cs with
  | nil => intro r _ name bytes stamp n hmem; simp [storeAll] at hmem
  | cons c cs ih =>
    intro r hfresh name bytes stamp n' hmem
    rcases storeAll_cons v r c cs with h | ⟨n, e, he, h⟩ <;> rw [h] at hfresh hmem ⊢
    · exact ih hfresh hmem
    · simp only [List.map_cons] at hfresh
      rcases List.mem_cons.mp hmem with hhead | htail
      · -- the call filed its own entry, and no later call files under its name
        obtain ⟨hc, rfl⟩ := Prod.mk.inj hhead
        obtain rfl := he _ _ _ hc.symm
        exact storeAll_keeps v cs (by simp [set])
          (List.nodup_cons.mp (List.nodup_append.mp hfresh).2.1).1
      · exact ih (nodup_set_append hfresh) htail

end Runs

/-- In a list whose keys are distinct, the value of a key is the one it is paired with. -/
theorem lookup_of_mem {l : List (String × ReportEntry)} {n : String} {e : ReportEntry}
    (hnodup : (l.map Prod.fst).Nodup) (h : (n, e) ∈ l) : l.lookup n = some e := by
  obtain ⟨s, t, rfl⟩ := List.append_of_mem h
  rw [List.lookup_eq_some_iff]
  refine ⟨s, t, rfl, fun p hp => ?_⟩
  rw [List.map_append, List.nodup_append] at hnodup
  have hne := hnodup.2.2 p.1 (List.mem_map_of_mem hp) n (by simp)
  simp only [bne_iff_ne, ne_eq]
  exact fun h => hne h.symm

/-- Data that is not empty, held in an entry of a report with distinct names, is a member of its
archive under the entry's name. -/
theorem mem_members_of_data {v : Volume} {r : Report} {n : String} {e : ReportEntry}
    {bytes : ByteArray} (hnodup : r.entryNames.Nodup) (h : (n, e) ∈ r.entries)
    (hdata : e.stored = .data bytes) (hne : bytes.isEmpty = false) : (n, bytes) ∈ r.members v := by
  have hlookup := lookup_of_mem hnodup h
  have hname : n ∈ r.names := by
    simpa [names, entryNames] using List.mem_map_of_mem (f := Prod.fst) h
  simp only [members, List.mem_cons, List.mem_flatMap]
  refine Or.inr ⟨n, hname, ?_⟩
  simp [hlookup, entryFiles, hdata, hne]

/-- The entries of a report from its creation through store calls: each call that succeeds adds a
new entry, none replacing an earlier one, exactly when the names the calls file under are distinct;
and then the data of each data call is kept under its name, and is a member of the archive unless
it is empty. -/
theorem stores_kept_iff_names_distinct (v : Volume) (destination : String) (cs : List StoreCall) :
    let run := ({ destination := destination } : Report).storeAll v cs
    (run.1.entries.length = run.2.length ↔ (run.2.map Prod.snd).Nodup) ∧
    ((run.2.map Prod.snd).Nodup → ∀ name bytes stamp n, (StoreCall.data name bytes stamp, n) ∈ run.2 →
      (n, { stored := .data bytes, stamp }) ∈ run.1.entries ∧
      (bytes.isEmpty = false → (n, bytes) ∈ run.1.members v)) := by
  intro run
  have hfresh : ({ destination := destination } : Report).entryNames.Nodup := List.nodup_nil
  have hlength := storeAll_length_iff v cs hfresh
  simp only [entryNames, List.map_nil, List.nil_append, List.length_nil, Nat.zero_add] at hlength
  refine ⟨hlength, fun hdistinct name bytes stamp n hmem => ?_⟩
  have hentry := storeAll_data_mem v cs (r := { destination := destination })
    (by simpa [entryNames] using hdistinct) hmem
  exact ⟨hentry, mem_members_of_data (storeAll_nodup v cs hfresh) hentry rfl⟩

/-- Two ways a report loses a stored item: empty data is left out of the archive, and a call whose
name and versioned name are both taken replaces an entry. -/
theorem empty_data_unarchived_and_repeated_stamp_replaces :
    let v := Volume.machine "/work"
    let empty := ({ destination := "report.zip" } : Report).storeAll v
      [.data "tokens/source.sct" ByteArray.empty 1]
    let repeated := ({ destination := "report.zip" } : Report).storeAll v
      [.data "a" ⟨#[97]⟩ 1, .data "a" ⟨#[98]⟩ 2, .data "a" ⟨#[99]⟩ 2]
    empty.2.length = 1 ∧ (empty.1.members v).map Prod.fst = ["MANIFEST"] ∧
      repeated.2.length = 3 ∧ repeated.1.entries.length = 2 := by
  decide +kernel
end Report

end Theming.Program
