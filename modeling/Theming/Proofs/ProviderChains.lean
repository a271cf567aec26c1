import Theming.Resource.Provider

/-!
# Chains of providers

A chain asks its members in order, skips the absent ones, and gives the first answer that is not
"not found"; when every member's answer is "not found", it answers "not found" for the name
asked, whatever names the members' own answers carried.

`fetch_chain_eq_find` states this as a computation on the answers of the present members
(`memberAnswers`): the chain's answer is the first of them that is not "not found". Everything
else is read off that form. A chain inside a chain answers as its members spliced in its place
(`fetch_chain_flatten`): an inner chain whose members all miss is skipped like any member that
misses, and a hard failure from any depth ends the search. Absent members and the provider that
finds nothing can be dropped (`fetch_chain_drop_absent`, `fetch_chain_drop_nothing`).
`chain_first_answer_nests` collects the three.
-/

set_option autoImplicit false

namespace Theming.Resource

/-- Whether an answer is "not found". -/
def Fetched.isMissing : Fetched → Bool
  | .missing _ => true
  | _ => false

@[simp] theorem Fetched.isMissing_missing (name : String) : (Fetched.missing name).isMissing = true :=
  rfl

/-- The answers of the present members of a chain to a name, in order. -/
def memberAnswers (members : List (Option Provider)) (name : String) : List Fetched :=
  (members.filterMap id).map (·.fetch name)

@[simp] theorem memberAnswers_none (rest : List (Option Provider)) (name : String) :
    memberAnswers (none :: rest) name = memberAnswers rest name := rfl

@[simp] theorem memberAnswers_some (p : Provider) (rest : List (Option Provider)) (name : String) :
    memberAnswers (some p :: rest) name = p.fetch name :: memberAnswers rest name := rfl

@[simp] theorem memberAnswers_append (l₁ l₂ : List (Option Provider)) (name : String) :
    memberAnswers (l₁ ++ l₂) name = memberAnswers l₁ name ++ memberAnswers l₂ name := by
  simp [memberAnswers]

/-- The first answer among some that is not "not found", or "not found" for the name asked. -/
def firstAnswer (answers : List Fetched) (name : String) : Fetched :=
  (answers.find? (!·.isMissing)).getD (.missing name)

/-- The answer of a chain is the first answer of a present member that is not "not found", or
"not found" for the chain's name when there is none. -/
theorem fetch_chain_eq_find (members : List (Option Provider)) (name : String) :
    (Provider.chain members).fetch name = firstAnswer (memberAnswers members name) name := by
  show Provider.fetch.go name members = _
  induction members with
  | nil => rfl
  | cons m rest ih =>
    cases m with
    | none => simpa [Provider.fetch.go] using ih
    | some p =>
      rw [Provider.fetch.go, memberAnswers_some]
      -- a member that misses hands over to the rest; any other answer is the chain's
      cases h : p.fetch name <;> simp [firstAnswer, Fetched.isMissing, ih]

/-- The answer of a chain inside a chain, as a member's answer, is skipped exactly when every
member of the inner chain misses. -/
theorem find_cons_chain (inner : List (Option Provider)) (rest : List Fetched) (name : String) :
    ((Provider.chain inner).fetch name :: rest).find? (!·.isMissing) =
      (memberAnswers inner name ++ rest).find? (!·.isMissing) := by
  rw [fetch_chain_eq_find, List.find?_append, firstAnswer]
  cases h : (memberAnswers inner name).find? (!·.isMissing) with
  | none => simp
  | some a =>
    -- the inner chain found `a`, which is not "not found", so the outer search stops there too
    have ha := List.find?_some h
    simp only [Bool.not_eq_eq_eq_not, Bool.not_true] at ha
    simp [ha]

/-- A chain among the members of a chain answers as its members put in its place. -/
theorem fetch_chain_flatten (l₁ inner l₂ : List (Option Provider)) (name : String) :
    (Provider.chain (l₁ ++ some (Provider.chain inner) :: l₂)).fetch name =
      (Provider.chain (l₁ ++ inner ++ l₂)).fetch name := by
  rw [fetch_chain_eq_find, fetch_chain_eq_find, firstAnswer, firstAnswer]
  simp only [memberAnswers_append, memberAnswers_some, List.find?_append, find_cons_chain,
    List.append_assoc]

/-- An absent member changes no answer of a chain. -/
theorem fetch_chain_drop_absent (l₁ l₂ : List (Option Provider)) (name : String) :
    (Provider.chain (l₁ ++ none :: l₂)).fetch name = (Provider.chain (l₁ ++ l₂)).fetch name := by
  simp [fetch_chain_eq_find]

/-- The provider that finds nothing changes no answer of a chain. -/
theorem fetch_chain_drop_nothing (l₁ l₂ : List (Option Provider)) (name : String) :
    (Provider.chain (l₁ ++ some .nothing :: l₂)).fetch name =
      (Provider.chain (l₁ ++ l₂)).fetch name := by
  rw [fetch_chain_eq_find, fetch_chain_eq_find]
  simp [firstAnswer, List.find?_append, Provider.fetch]

/-- A chain gives the first answer of its present members that is not "not found", and "not
found" for the name asked when there is none. So chains nest associatively: a chain of `a`, `b`
and `c` answers as a chain of the chain of `a` and `b` with `c`, and as a chain of `a` with the
chain of `b` and `c`, every member possibly absent. Absent members and the provider that finds
nothing can be dropped from any place of a chain. -/
theorem chain_first_answer_nests :
    (∀ (members : List (Option Provider)) (name : String),
      (Provider.chain members).fetch name = firstAnswer (memberAnswers members name) name) ∧
    (∀ (a b c : Option Provider) (name : String),
      (Provider.chain [some (Provider.chain [a, b]), c]).fetch name =
          (Provider.chain [a, b, c]).fetch name ∧
        (Provider.chain [a, some (Provider.chain [b, c])]).fetch name =
          (Provider.chain [a, b, c]).fetch name) ∧
    (∀ (l₁ l₂ : List (Option Provider)) (name : String),
      (Provider.chain (l₁ ++ none :: l₂)).fetch name = (Provider.chain (l₁ ++ l₂)).fetch name ∧
        (Provider.chain (l₁ ++ some .nothing :: l₂)).fetch name =
          (Provider.chain (l₁ ++ l₂)).fetch name) := by
  refine ⟨fetch_chain_eq_find, fun a b c name => ⟨?_, ?_⟩, fun l₁ l₂ name =>
    ⟨fetch_chain_drop_absent l₁ l₂ name, fetch_chain_drop_nothing l₁ l₂ name⟩⟩
  · exact fetch_chain_flatten [] [a, b] [c] name
  · exact fetch_chain_flatten [a] [b, c] [] name

end Theming.Resource
