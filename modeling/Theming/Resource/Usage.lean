import Theming.Resource.Provider

/-!
# How providers are used

A provider built from others is a tree of providers. Numbering the providers of a tree the way
it is built, members before the provider made of them and the whole last, each request can be
traced: every provider asked counts the request, and a cache remembers the answers it gave.

A cache answers a name it remembers without asking its provider. It remembers resources found
and names not found, but not other failures, which are asked again next time. Its answers are
those of its provider; only the number of requests further down changes.
-/

set_option autoImplicit false

namespace Theming.Resource

/-- What requests have done so far: how often each provider was asked, by number, and what each
cache remembers. -/
structure Usage where
  calls : Nat → Nat := fun _ => 0
  memo : Nat → List (String × Fetched) := fun _ => []

namespace Usage

/-- Counts a request to a provider. -/
def count (u : Usage) (node : Nat) : Usage :=
  { u with calls := fun i => if i == node then u.calls i + 1 else u.calls i }

/-- Remembers an answer of a cache. -/
def remember (u : Usage) (node : Nat) (name : String) (answer : Fetched) : Usage :=
  { u with memo := fun i => if i == node then u.memo i ++ [(name, answer)] else u.memo i }

end Usage

mutual
/-- The number of providers in a provider's tree, itself included. -/
def Provider.size : Provider → Nat
  | .chain members => Provider.membersSize members + 1
  | .cached inner => inner.size + 1
  | _ => 1

/-- The number of providers in the trees of chain members. -/
def Provider.membersSize : List (Option Provider) → Nat
  | [] => 0
  | none :: rest => Provider.membersSize rest
  | some p :: rest => p.size + Provider.membersSize rest
end

/-- The numbers of the caches in a provider's tree, in order, the tree starting at `base`. -/
def Provider.caches : Provider → Nat → List Nat
  | .chain members, base =>
    let rec go : List (Option Provider) → Nat → List Nat
      | [], _ => []
      | none :: rest, b => go rest b
      | some p :: rest, b => p.caches b ++ go rest (b + p.size)
    go members base
  | .cached inner, base => inner.caches base ++ [base + inner.size]
  | _, _ => []

mutual
/-- Asks a provider numbered from `base` for a resource, counting the requests of every provider
asked and keeping what caches remember. -/
def Provider.request : Provider → Nat → String → StateM Usage Fetched
  | .chain members, base, name => do
    modify (·.count (base + Provider.membersSize members))
    Provider.requestMembers members base name
  | .cached inner, base, name => do
    let node := base + inner.size
    modify (·.count node)
    match ((← get).memo node).lookup name with
    | some answer => pure answer
    | none =>
      let answer ← inner.request base name
      match answer with
      | .failed _ => pure answer
      | _ =>
        modify (·.remember node name answer)
        pure answer
  | p, base, name => do
    modify (·.count base)
    pure (p.fetch name)

/-- Asks chain members in order for the first answer that is not "not found". -/
def Provider.requestMembers : List (Option Provider) → Nat → String → StateM Usage Fetched
  | [], _, name => pure (.missing name)
  | none :: rest, base, name => Provider.requestMembers rest base name
  | some p :: rest, base, name => do
    match ← p.request base name with
    | .missing _ => Provider.requestMembers rest (base + p.size) name
    | answer => pure answer
end

end Theming.Resource
