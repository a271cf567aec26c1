import Theming.Style.Status
import Theming.Fault
import Theming.Value.Value
import Theming.Sheet.StyleSheet
import Theming.Text.Outline

/-!
# Outcomes

Applying a style reports, for each assignment it tried and in assignment order, how it ended:
the value applied, or the failure. Assignments skipped by a filter are not reported.

The failures of a style together make one failure whose message joins theirs with `; `; when
everything was applied there is none.

A report lists each outcome as its path and line, then its status and the value applied or the
quoted message of the failure.
-/

set_option autoImplicit false

namespace Theming.Style

open Theming.Value Theming.Sheet Theming.Text

/-- How applying one assignment ended. -/
structure Outcome where
  path : Path
  line : Nat
  status : Status
  /-- The value applied. -/
  value : Option Value := none
  /-- The failure. -/
  fault : Option Fault := none
  deriving Inhabited

namespace Outcome

/-- One line about an outcome: `applied: path = value`, or the status and the failure. -/
def render (o : Outcome) : String :=
  match o.status with
  | .applied =>
    "applied: " ++ o.path.render ++ " = " ++ (match o.value with
      | some v => v.render
      | none => "<nil>")
  | s => s.name ++ ": " ++ (match o.fault with
      | some f => f.message
      | none => "<nil>")

/-- Whether the value was applied. -/
def succeeded (o : Outcome) : Bool := o.status == .applied

end Outcome

namespace Outcomes

/-- The outcomes whose value was applied. -/
def applied (list : List Outcome) : List Outcome := list.filter Outcome.succeeded

/-- The outcomes that failed. -/
def failed (list : List Outcome) : List Outcome := list.filter fun o => !o.succeeded

/-- The outcome of an assignment, by its dotted path. -/
def find? (list : List Outcome) (path : String) : Option Outcome :=
  list.find? fun o => o.path.render == path

/-- All failures as one: none when everything was applied, the failure itself when there is
one, and the failures joined otherwise. -/
def failure (list : List Outcome) : Option Fault :=
  match (failed list).filterMap (·.fault) with
  | [] => none
  | [f] => some f
  | fs => some (.joined fs)

/-- A quoted text as reports write it: the empty text as `""`. -/
def quoted (s : String) : String := if s.isEmpty then "\"\"" else Quoted.quote s

/-- The human-readable report of outcomes. -/
def report (list : List Outcome) : String :=
  let text := String.join <| list.map fun o =>
    Outline.line 0 (o.path.render ++ " (line " ++ toString o.line ++ ")") ++
      Outline.field 1 "status" o.status.name ++
      (match o.value with
        | some v => Outline.field 1 "value" v.render
        | none => "") ++
      (match o.fault with
        | some f => Outline.field 1 "error" (quoted f.message)
        | none => "")
  if text.endsWith "\n" then String.ofList text.toList.dropLast else text

end Outcomes

end Theming.Style
