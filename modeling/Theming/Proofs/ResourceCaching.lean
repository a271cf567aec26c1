import Theming.Resource.Usage
import Mathlib.Data.List.Dedup

/-!
# Caches are transparent

Requests to a tree of providers are traced in a `Usage`: every provider asked counts the request
at its number, and a cache keeps the answers it remembers. Here a request is shown to answer as
the provider does whatever caches the tree holds, and a cache at the root to save exactly the
requests it promises.

The invariant of a tree is `Provider.Sound`: every cache remembers only answers its provider
gives, and only answers a cache keeps (resources found and names not found, not other failures).
`Provider.request_answered` is the step lemma: one request keeps the tree sound, answers as
`Provider.fetch` does, changes nothing outside the tree's numbers and counts the tree's root once.

For a cache over `p` asked for names in turn, `Provider.CacheState` says which names it holds
and how often `p` was asked; `Provider.CacheState.request` is its step lemma,
`Provider.CacheState.requests` the run lemma, and `Provider.cached_transparent` the main
statement: the answers are those of `p`, `p` is asked once for each distinct name whose answer is
kept and on every request answered by another failure, and the cache holds one entry for each
distinct name asked whose answer is kept.
-/

set_option autoImplicit false

namespace Theming.Resource

/-- The answers a cache remembers: resources found and names not found, not other failures. -/
def Fetched.remembered : Fetched → Bool
  | .failed _ => false
  | _ => true

/-! ## Usage -/

namespace Usage

@[simp] theorem count_calls (u : Usage) (node k : Nat) :
    (u.count node).calls k = if k = node then u.calls k + 1 else u.calls k := by
  simp [count]

@[simp] theorem count_memo (u : Usage) (node : Nat) : (u.count node).memo = u.memo := rfl

@[simp] theorem remember_calls (u : Usage) (node : Nat) (name : String) (answer : Fetched) :
    (u.remember node name answer).calls = u.calls := rfl

@[simp] theorem remember_memo (u : Usage) (node k : Nat) (name : String) (answer : Fetched) :
    (u.remember node name answer).memo k =
      if k = node then u.memo k ++ [(name, answer)] else u.memo k := by
  simp [remember]

/-- Nothing changes at the numbers outside `[lo, hi)`. -/
def Within (lo hi : Nat) (u u' : Usage) : Prop :=
  ∀ k, k < lo ∨ hi ≤ k → u'.calls k = u.calls k ∧ u'.memo k = u.memo k

theorem Within.refl (lo hi : Nat) (u : Usage) : u.Within lo hi u := fun _ _ => ⟨rfl, rfl⟩

theorem Within.trans {lo hi : Nat} {u₁ u₂ u₃ : Usage} (h₁ : Within lo hi u₁ u₂)
    (h₂ : Within lo hi u₂ u₃) : Within lo hi u₁ u₃ := fun k hk =>
  ⟨(h₂ k hk).1.trans (h₁ k hk).1, (h₂ k hk).2.trans (h₁ k hk).2⟩

theorem Within.mono {lo hi lo' hi' : Nat} {u u' : Usage} (h : Within lo hi u u')
    (hlo : lo' ≤ lo) (hhi : hi ≤ hi') : Within lo' hi' u u' := fun k hk =>
  h k (by omega)

theorem run_bind {β γ : Type} (x : StateM Usage β) (f : β → StateM Usage γ) (u : Usage) :
    (x >>= f).run u = (f (x.run u).1).run (x.run u).2 := rfl

theorem run_modify (f : Usage → Usage) (u : Usage) :
    (modify f : StateM Usage PUnit).run u = (PUnit.unit, f u) := rfl

theorem run_pure {β : Type} (a : β) (u : Usage) : (pure a : StateM Usage β).run u = (a, u) :=
  rfl

theorem run_get (u : Usage) : (get : StateM Usage Usage).run u = (u, u) := rfl

end Usage

/-! ## Sound trees -/

mutual
/-- Every cache of a provider numbered from `base` remembers only answers its provider gives,
and only answers a cache remembers. -/
def Provider.Sound : Provider → Nat → Usage → Prop
  | .chain members, base, u => Provider.MembersSound members base u
  | .cached inner, base, u => inner.Sound base u ∧
      ∀ e ∈ u.memo (base + inner.size), e.2 = inner.fetch e.1 ∧ e.2.remembered = true
  | _, _, _ => True

/-- Every cache among chain members numbered from `base` is sound. -/
def Provider.MembersSound : List (Option Provider) → Nat → Usage → Prop
  | [], _, _ => True
  | none :: rest, base, u => Provider.MembersSound rest base u
  | some p :: rest, base, u => p.Sound base u ∧ Provider.MembersSound rest (base + p.size) u
end

theorem Provider.size_pos (p : Provider) : 0 < p.size := by
  cases p <;> simp [Provider.size]

mutual
/-- Soundness of the caches of a provider reads only the memories of its own numbers. -/
theorem Provider.sound_congr : ∀ (p : Provider) (base : Nat) (u u' : Usage),
    (∀ k, base ≤ k → k < base + p.size → u'.memo k = u.memo k) → p.Sound base u →
      p.Sound base u'
  | .chain members, base, u, u', h, hs =>
    Provider.membersSound_congr members base u u'
      (fun k h₁ h₂ => h k h₁ (by simp only [Provider.size]; omega)) hs
  | .cached inner, base, u, u', h, ⟨hinner, hmemo⟩ => by
    refine ⟨Provider.sound_congr inner base u u'
      (fun k h₁ h₂ => h k h₁ (by simp only [Provider.size]; omega)) hinner, ?_⟩
    rw [h _ (Nat.le_add_right _ _) (by simp only [Provider.size]; omega)]
    exact hmemo
  | .table _, _, _, _, _, _ => trivial
  | .files _, _, _, _, _, _ => trivial
  | .nothing, _, _, _, _, _ => trivial
  | .failing _, _, _, _, _, _ => trivial
  | .directory _ _, _, _, _, _, _ => trivial
  | .archive _, _, _, _, _, _ => trivial
  | .within _ _, _, _, _, _, _ => trivial

/-- Soundness of the caches among chain members reads only the memories of their numbers. -/
theorem Provider.membersSound_congr : ∀ (members : List (Option Provider)) (base : Nat)
    (u u' : Usage), (∀ k, base ≤ k → k < base + Provider.membersSize members →
      u'.memo k = u.memo k) → Provider.MembersSound members base u →
      Provider.MembersSound members base u'
  | [], _, _, _, _, _ => trivial
  | none :: rest, base, u, u', h, hs =>
    Provider.membersSound_congr rest base u u' (fun k h₁ h₂ => h k h₁ (by
      simpa only [Provider.membersSize] using h₂)) hs
  | some p :: rest, base, u, u', h, ⟨hp, hrest⟩ =>
    ⟨Provider.sound_congr p base u u'
      (fun k h₁ h₂ => h k h₁ (by simp only [Provider.membersSize]; omega)) hp,
     Provider.membersSound_congr rest (base + p.size) u u'
      (fun k h₁ h₂ => h k (by omega) (by simp only [Provider.membersSize]; omega)) hrest⟩
end

mutual
/-- Before any request, no cache remembers anything, so all caches are sound. -/
theorem Provider.sound_fresh : ∀ (p : Provider) (base : Nat), p.Sound base {}
  | .chain members, base => Provider.membersSound_fresh members base
  | .cached inner, base => ⟨Provider.sound_fresh inner base, fun _ he => nomatch he⟩
  | .table _, _ => trivial
  | .files _, _ => trivial
  | .nothing, _ => trivial
  | .failing _, _ => trivial
  | .directory _ _, _ => trivial
  | .archive _, _ => trivial
  | .within _ _, _ => trivial

/-- Before any request, the caches among chain members are sound. -/
theorem Provider.membersSound_fresh : ∀ (members : List (Option Provider)) (base : Nat),
    Provider.MembersSound members base {}
  | [], _ => trivial
  | none :: rest, base => Provider.membersSound_fresh rest base
  | some p :: rest, base => ⟨Provider.sound_fresh p base, Provider.membersSound_fresh rest _⟩
end

/-! ## Requests -/

/-- What a request to a provider numbered from `base` does from the usage `u`, ending in `r`: it
answers as the provider does, keeps its caches sound, changes nothing outside the provider's own
numbers, and counts one request at the provider's number. -/
structure Provider.Answered (p : Provider) (base : Nat) (name : String) (u : Usage)
    (r : Fetched × Usage) : Prop where
  answer : r.1 = p.fetch name
  sound : p.Sound base r.2
  within : Usage.Within base (base + p.size) u r.2
  root : r.2.calls (base + p.size - 1) = u.calls (base + p.size - 1) + 1

/-- What asking chain members in order does: it answers as the chain does and changes nothing
outside the members' numbers. -/
structure Provider.MembersAnswered (members : List (Option Provider)) (base : Nat) (name : String)
    (u : Usage) (r : Fetched × Usage) : Prop where
  answer : r.1 = Provider.fetch.go name members
  sound : Provider.MembersSound members base r.2
  within : Usage.Within base (base + Provider.membersSize members) u r.2

/-- A provider that is neither a chain nor a cache answers at once and counts itself. -/
theorem Provider.answered_of_leaf {p : Provider} {base : Nat} {name : String} {u : Usage}
    (hsize : p.size = 1) (hsound : ∀ u, p.Sound base u)
    (hrun : (p.request base name).run u = (p.fetch name, u.count base)) :
    p.Answered base name u ((p.request base name).run u) := by
  rw [hrun]
  refine ⟨rfl, hsound _, fun k hk => ?_, by simp [hsize]⟩
  have hne : k ≠ base := by omega
  simp [hne]

/-- Remembering an answer of the inner provider that a cache keeps leaves the cache sound. -/
theorem Provider.sound_remember {inner : Provider} {base : Nat} {u : Usage} {name : String}
    {a : Fetched} (hs : (Provider.cached inner).Sound base u) (ha : a = inner.fetch name)
    (hr : a.remembered = true) :
    (Provider.cached inner).Sound base (u.remember (base + inner.size) name a) := by
  obtain ⟨hinner, hmemo⟩ := hs
  refine ⟨Provider.sound_congr inner base u _ (fun k _ hk => by simp [Nat.ne_of_lt hk]) hinner, ?_⟩
  intro e he
  simp only [Usage.remember_memo, reduceIte, List.mem_append, List.mem_singleton] at he
  rcases he with he | rfl
  · exact hmemo e he
  · exact ⟨ha, hr⟩

theorem Provider.run_request_chain (members : List (Option Provider)) (base : Nat) (name : String)
    (u : Usage) : ((Provider.chain members).request base name).run u =
      (Provider.requestMembers members base name).run
        (u.count (base + Provider.membersSize members)) := rfl

/-- A cache answers a name it remembers at once; otherwise it asks its provider and remembers
the answer unless it is a failure. -/
theorem Provider.run_request_cached (inner : Provider) (base : Nat) (name : String) (u : Usage) :
    ((Provider.cached inner).request base name).run u =
      match (u.memo (base + inner.size)).lookup name with
      | some answer => (answer, u.count (base + inner.size))
      | none =>
        let r := (inner.request base name).run (u.count (base + inner.size))
        if r.1.remembered then (r.1, r.2.remember (base + inner.size) name r.1) else r := by
  simp only [Provider.request, Usage.run_bind, Usage.run_modify, Usage.run_get, Usage.count_memo]
  cases (u.memo (base + inner.size)).lookup name with
  | some answer => rfl
  | none =>
    dsimp only
    rw [Usage.run_bind]
    generalize (inner.request base name).run (u.count (base + inner.size)) = r
    obtain ⟨a, u'⟩ := r
    cases a <;> rfl

/-- A number outside a chain's lies outside its members' and is not the chain's own. -/
theorem Provider.outside_chain {members : List (Option Provider)} {base k : Nat}
    (hk : k < base ∨ base + (Provider.chain members).size ≤ k) :
    (k < base ∨ base + Provider.membersSize members ≤ k) ∧ k ≠ base + Provider.membersSize members := by
  simp only [Provider.size] at hk
  omega

/-- A number outside a cache's lies outside its provider's and is not the cache's own. -/
theorem Provider.outside_cached {inner : Provider} {base k : Nat}
    (hk : k < base ∨ base + (Provider.cached inner).size ≤ k) :
    (k < base ∨ base + inner.size ≤ k) ∧ k ≠ base + inner.size := by
  simp only [Provider.size] at hk
  omega

mutual
/-- The step lemma of requests: every request answers as its provider does, keeps the caches
sound, stays within the provider's numbers and counts one request at its root. -/
theorem Provider.request_answered : ∀ (p : Provider) (base : Nat) (name : String) (u : Usage),
    p.Sound base u → p.Answered base name u ((p.request base name).run u)
  | .chain members, base, name, u, hs => by
    have hroot : base + Provider.membersSize members = base + (Provider.chain members).size - 1 := by
      simp only [Provider.size]; omega
    have h := Provider.requestMembers_answered members base name
      (u.count (base + Provider.membersSize members))
      (Provider.membersSound_congr members base u _ (fun _ _ _ => rfl) hs)
    rw [Provider.run_request_chain]
    refine ⟨h.answer, h.sound, fun k hk => ?_, ?_⟩
    · -- the chain counts itself, the members change only their own numbers
      obtain ⟨hout, hk'⟩ := Provider.outside_chain hk
      rw [(h.within k hout).1, (h.within k hout).2]
      simp [hk']
    · rw [← hroot, (h.within _ (Or.inr (Nat.le_refl _))).1]
      simp
  | .cached inner, base, name, u, ⟨hinner, hmemo⟩ => by
    have hsize : (Provider.cached inner).size = inner.size + 1 := rfl
    rw [Provider.run_request_cached]
    split
    next answer hlookup =>
      -- a remembered answer is the inner provider's own
      obtain ⟨l₁, l₂, hsplit, -⟩ := List.lookup_eq_some_iff.mp hlookup
      have hmem : (name, answer) ∈ u.memo (base + inner.size) := by simp [hsplit]
      refine ⟨(hmemo _ hmem).1, Provider.sound_congr _ base u _ (fun _ _ _ => rfl) ⟨hinner, hmemo⟩,
        fun k hk => ?_, by simp [hsize]⟩
      simp [(Provider.outside_cached hk).2]
    next hlookup =>
      have h₁ := Provider.request_answered inner base name (u.count (base + inner.size))
        (Provider.sound_congr inner base u _ (fun _ _ _ => rfl) hinner)
      generalize (inner.request base name).run (u.count (base + inner.size)) = r₁ at h₁ ⊢
      obtain ⟨a, u₁⟩ := r₁
      -- the cache's own number lies just past the inner provider's numbers
      have hnode := h₁.within (base + inner.size) (Or.inr (Nat.le_refl _))
      simp only [Usage.count_calls, Usage.count_memo, reduceIte] at hnode
      have hwithin : Usage.Within base (base + inner.cached.size) u u₁ := fun k hk => by
        obtain ⟨hout, hne⟩ := Provider.outside_cached hk
        simpa [hne] using h₁.within k hout
      have hsound : inner.cached.Sound base u₁ := ⟨h₁.sound, by rw [hnode.2]; exact hmemo⟩
      have hroot : u₁.calls (base + inner.cached.size - 1) =
          u.calls (base + inner.cached.size - 1) + 1 := by
        rw [hsize, ← Nat.add_assoc, Nat.add_sub_cancel]
        exact hnode.1
      -- failures are passed on, other answers are remembered at the cache's own number
      dsimp only
      split
      next hr =>
        refine ⟨h₁.answer, Provider.sound_remember hsound h₁.answer hr, fun k hk => ?_, hroot⟩
        simp only [Usage.remember_calls, Usage.remember_memo, (Provider.outside_cached hk).2,
          reduceIte]
        exact hwithin k hk
      next => exact ⟨h₁.answer, hsound, hwithin, hroot⟩
  | .table _, _, _, _, _ => Provider.answered_of_leaf rfl (fun _ => trivial) rfl
  | .files _, _, _, _, _ => Provider.answered_of_leaf rfl (fun _ => trivial) rfl
  | .nothing, _, _, _, _ => Provider.answered_of_leaf rfl (fun _ => trivial) rfl
  | .failing _, _, _, _, _ => Provider.answered_of_leaf rfl (fun _ => trivial) rfl
  | .directory _ _, _, _, _, _ => Provider.answered_of_leaf rfl (fun _ => trivial) rfl
  | .archive _, _, _, _, _ => Provider.answered_of_leaf rfl (fun _ => trivial) rfl
  | .within _ _, _, _, _, _ => Provider.answered_of_leaf rfl (fun _ => trivial) rfl

/-- The members' step lemma: asking members in order answers as the chain does. -/
theorem Provider.requestMembers_answered : ∀ (members : List (Option Provider)) (base : Nat)
    (name : String) (u : Usage), Provider.MembersSound members base u →
    Provider.MembersAnswered members base name u ((Provider.requestMembers members base name).run u)
  | [], _, _, u, _ => ⟨rfl, trivial, Usage.Within.refl _ _ u⟩
  | none :: rest, base, name, u, hs => by
    have h := Provider.requestMembers_answered rest base name u hs
    exact ⟨h.answer, h.sound, h.within⟩
  | some p :: rest, base, name, u, ⟨hp, hrest⟩ => by
    have h₁ := Provider.request_answered p base name u hp
    simp only [Provider.requestMembers, Usage.run_bind]
    generalize (p.request base name).run u = r₁ at h₁ ⊢
    obtain ⟨a, u₁⟩ := r₁
    -- the rest of the chain starts where the first member's numbers end
    have hrest₁ : Provider.MembersSound rest (base + p.size) u₁ :=
      Provider.membersSound_congr rest _ u u₁ (fun k hk _ => (h₁.within k (Or.inr hk)).2) hrest
    have hwithin₁ : Usage.Within base (base + Provider.membersSize (some p :: rest)) u u₁ :=
      h₁.within.mono (Nat.le_refl _) (by simp only [Provider.membersSize]; omega)
    cases a with
    | missing n =>
      have h₂ := Provider.requestMembers_answered rest (base + p.size) name u₁ hrest₁
      refine ⟨?_, ⟨Provider.sound_congr p base u₁ _
        (fun k _ hk => (h₂.within k (Or.inl hk)).2) h₁.sound, h₂.sound⟩,
        hwithin₁.trans (h₂.within.mono (by omega) (by simp only [Provider.membersSize]; omega))⟩
      rw [Provider.fetch.go, ← h₁.answer]
      exact h₂.answer
    | found _ | failed _ =>
      refine ⟨?_, ⟨h₁.sound, hrest₁⟩, hwithin₁⟩
      rw [Provider.fetch.go, ← h₁.answer]
      rfl
end

/-! ## A cache at the root -/

section Transparency

variable {p : Provider} {base : Nat}

/-- What requests to a cache over `p` keep true once the names `seen` were asked: the caches are
sound; the cache remembers each name once, and exactly the names asked whose answer it keeps; and
`p` was asked once for each of these and once more for every request answered by a failure. -/
structure Provider.CacheState (p : Provider) (base : Nat) (seen : List String) (u : Usage) :
    Prop where
  sound : (Provider.cached p).Sound base u
  nodup : ((u.memo (base + p.size)).map Prod.fst).Nodup
  mem : ∀ n, n ∈ (u.memo (base + p.size)).map Prod.fst ↔
    n ∈ seen ∧ (p.fetch n).remembered = true
  calls : u.calls (base + p.size - 1) =
    (seen.filter fun n => !(p.fetch n).remembered).length + (u.memo (base + p.size)).length

theorem Provider.CacheState.fresh (p : Provider) (base : Nat) : Provider.CacheState p base [] {} :=
  ⟨Provider.sound_fresh _ base, List.nodup_nil, fun _ => by simp, rfl⟩

/-- A miss whose answer the cache remembers: the name joins the cache's memory, and the request
to the provider is counted. -/
theorem Provider.CacheState.remember_new {seen : List String} {u u₁ : Usage}
    (h : Provider.CacheState p base seen u) {name : String}
    (hnew : name ∉ (u.memo (base + p.size)).map Prod.fst)
    (hmemo : u₁.memo (base + p.size) = u.memo (base + p.size))
    (hcalls : u₁.calls (base + p.size - 1) = u.calls (base + p.size - 1) + 1)
    (hr : (p.fetch name).remembered = true)
    (hsound : (Provider.cached p).Sound base (u₁.remember (base + p.size) name (p.fetch name))) :
    Provider.CacheState p base (seen ++ [name]) (u₁.remember (base + p.size) name (p.fetch name)) := by
  refine ⟨hsound, ?_, fun n => ?_, ?_⟩
  · simp only [Usage.remember_memo, reduceIte, hmemo, List.map_append, List.map_cons, List.map_nil]
    exact h.nodup.append (List.nodup_singleton name) (by simpa using hnew)
  · by_cases hn : n = name
    · subst hn
      simp [hmemo, hr]
    · simp [hmemo, hn, h.mem n]
  · simp [hmemo, hcalls, h.calls, hr]
    omega

/-- A miss whose answer is a failure: the cache's memory stays as it was, and the request to the
provider is counted. -/
theorem Provider.CacheState.skip_new {seen : List String} {u u₁ : Usage}
    (h : Provider.CacheState p base seen u) {name : String}
    (hnew : name ∉ (u.memo (base + p.size)).map Prod.fst)
    (hmemo : u₁.memo (base + p.size) = u.memo (base + p.size))
    (hcalls : u₁.calls (base + p.size - 1) = u.calls (base + p.size - 1) + 1)
    (hr : (p.fetch name).remembered = false) (hsound : (Provider.cached p).Sound base u₁) :
    Provider.CacheState p base (seen ++ [name]) u₁ := by
  refine ⟨hsound, by rw [hmemo]; exact h.nodup, fun n => ?_, ?_⟩
  · by_cases hn : n = name
    · subst hn
      simp only [hmemo, hr] at hnew ⊢
      simp [hnew]
    · simp [hmemo, hn, h.mem n]
  · simp [hmemo, hcalls, h.calls, hr]
    omega

/-- The step lemma of a cache: one request keeps its state, with the name added to those asked. -/
theorem Provider.CacheState.request {seen : List String} {u : Usage}
    (h : Provider.CacheState p base seen u) (name : String) :
    Provider.CacheState p base (seen ++ [name]) (((Provider.cached p).request base name).run u).2 := by
  have hans := Provider.request_answered (Provider.cached p) base name u h.sound
  have hroot : base + p.size - 1 ≠ base + p.size := by have := p.size_pos; omega
  rw [Provider.run_request_cached] at hans ⊢
  split
  next answer hlookup =>
    simp only [hlookup] at hans
    -- a name the cache remembers was asked before, and its answer is kept
    obtain ⟨l₁, l₂, hsplit, -⟩ := List.lookup_eq_some_iff.mp hlookup
    have hmem : (name, answer) ∈ u.memo (base + p.size) := by simp [hsplit]
    have hold := (h.mem name).mp (List.mem_map_of_mem hmem)
    refine ⟨hans.sound, h.nodup, fun n => ?_, ?_⟩
    · simp only [Usage.count_memo, h.mem n, List.mem_append, List.mem_singleton]
      constructor
      · rintro ⟨hn, hr⟩
        exact ⟨Or.inl hn, hr⟩
      · rintro ⟨hn | rfl, hr⟩
        · exact ⟨hn, hr⟩
        · exact ⟨hold.1, hr⟩
    · simp [hroot, h.calls, hold.2]
  next hlookup =>
    simp only [hlookup] at hans
    have h₁ := Provider.request_answered p base name (u.count (base + p.size))
      (Provider.sound_congr p base u _ (fun _ _ _ => rfl) h.sound.1)
    generalize (p.request base name).run (u.count (base + p.size)) = r₁ at h₁ hans ⊢
    obtain ⟨a, u₁⟩ := r₁
    -- the provider's request leaves the cache's memory alone and counts `p` once more
    have hnode := (h₁.within (base + p.size) (Or.inr (Nat.le_refl _))).2
    have hcalls : u₁.calls (base + p.size - 1) = u.calls (base + p.size - 1) + 1 := by
      rw [h₁.root, Usage.count_calls, if_neg hroot]
    have hnew : name ∉ (u.memo (base + p.size)).map Prod.fst := by
      simp only [List.lookup_eq_none_iff] at hlookup
      simp only [List.mem_map, not_exists, not_and]
      intro e he hname
      simpa [hname] using hlookup e he
    have ha : a = p.fetch name := h₁.answer
    subst ha
    simp only [Usage.count_memo] at hnode
    dsimp only at hans ⊢
    cases hr : (p.fetch name).remembered
    · simp only [hr, Bool.false_eq_true, reduceIte] at hans ⊢
      exact h.skip_new hnew hnode hcalls hr hans.sound
    · simp only [hr, reduceIte] at hans ⊢
      exact h.remember_new hnew hnode hcalls hr hans.sound

/-- The run lemma of a cache: requests for the names `ns` answer as `p` does and keep the cache's
state, with the names added to those asked. -/
theorem Provider.CacheState.requests : ∀ (ns : List String) {seen : List String} {u : Usage},
    Provider.CacheState p base seen u →
      ((ns.mapM ((Provider.cached p).request base)).run u).1 = ns.map p.fetch ∧
      Provider.CacheState p base (seen ++ ns) ((ns.mapM ((Provider.cached p).request base)).run u).2
  | [], seen, u, h => ⟨rfl, by rw [List.append_nil]; exact h⟩
  | name :: ns, seen, u, h => by
    have hanswer := (Provider.request_answered (Provider.cached p) base name u h.sound).answer
    obtain ⟨hrest, hstate⟩ := Provider.CacheState.requests ns (h.request name)
    simp only [List.mapM_cons, Usage.run_bind, Usage.run_pure, List.map_cons]
    rw [List.append_cons]
    exact ⟨by rw [hanswer, hrest]; rfl, hstate⟩

/-- A cache is transparent: from a fresh start, requests for any names answer as its provider does;
the provider is asked once for each distinct name whose answer is kept (a resource or "not found")
and on every request whose answer is another failure; and the cache holds one entry for each
distinct name asked whose answer is kept. -/
theorem Provider.cached_transparent (p : Provider) (base : Nat) (ns : List String) :
    let r := (ns.mapM ((Provider.cached p).request base)).run {}
    r.1 = ns.map p.fetch ∧
    r.2.calls (base + p.size - 1) = (ns.filter fun n => !(p.fetch n).remembered).length +
      (ns.filter fun n => (p.fetch n).remembered).dedup.length ∧
    (r.2.memo (base + p.size)).length = (ns.filter fun n => (p.fetch n).remembered).dedup.length := by
  intro r
  obtain ⟨hanswers, hstate⟩ := Provider.CacheState.requests ns (Provider.CacheState.fresh p base)
  rw [List.nil_append] at hstate
  -- the names the cache holds are the distinct names asked whose answer is kept
  have hperm : ((r.2.memo (base + p.size)).map Prod.fst).Perm
      (ns.filter fun n => (p.fetch n).remembered).dedup := by
    rw [List.perm_ext_iff_of_nodup hstate.nodup (List.nodup_dedup _)]
    intro n
    simp [hstate.mem n]
  have hlength : (r.2.memo (base + p.size)).length =
      (ns.filter fun n => (p.fetch n).remembered).dedup.length := by
    rw [← hperm.length_eq, List.length_map]
  exact ⟨hanswers, by rw [hstate.calls, hlength], hlength⟩

end Transparency

end Theming.Resource
