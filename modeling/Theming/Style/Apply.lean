import Theming.Style.Catalog
import Theming.Style.Outcome
import Theming.Value.Coerce

/-!
# Applying styles

An assignment is applied by following its path from the target. At each segment the current
object must be present, its type must have a catalog, and the catalog must have a property of
that name; every segment but the last must name an object property leading to a present object.
The last property's type decides the coercion of the written value, and the coerced value is
stored. Any step that fails ends the assignment with an outcome saying why:

* a path that leads nowhere: `path: "segment" on T: reason`;
* a value that does not fit, or names no constant of the property's enumeration;
* a property that cannot be set, or that refuses the value.

Failures never stop the remaining assignments of the style. A style that is not defined (or no
sheet at all) gives no outcomes; a filter of top-level names skips the other assignments.

Applying runs traced like the coercions it makes, and logs as `theme.apply`: `Style not found`,
`Assignment failed` after each assignment that failed, and `Style applied` at the end.
-/

set_option autoImplicit false

namespace Theming.Style

open Theming.Value Theming.Sheet

variable {α : Type} [Styleable α]

/-- The logger of style application. -/
def applyLogger : String := "theme.apply"

/-- Applies a value along the rest of a path from an object: the changed object and the outcome
(without path and line, which the caller knows). -/
def assignAlong (reg : Registry α) (eng : Engine) (path : String) (raw : RawValue) :
    α → List String → Traced (α × Status × Option Value × Option Fault)
  | cur, [] => pure (cur, .applied, none, none)
  | cur, seg :: rest =>
    let unresolved (reason : String) : α × Status × Option Value × Option Fault :=
      (cur, .unresolvedPath, none, some (.unresolved path seg (Styleable.typeName cur) reason))
    if Styleable.isNil cur then pure (unresolved "object is nil")
    else
      match reg.catalog? cur with
      | none => pure (unresolved "type has no styleable properties")
      | some cat =>
        match cat.property? seg with
        | none => pure (unresolved "no such property")
        | some prop =>
          if !rest.isEmpty then
            if prop.type.kind != .object then pure (unresolved "not an object")
            else
              match prop.nested with
              | none => pure (unresolved "object is nil")
              | some n =>
                match n.get cur with
                | none => pure (unresolved "object is nil")
                | some child => do
                  let (child', result) ← assignAlong reg eng path raw child rest
                  pure (n.put cur child', result)
          else do
            match ← eng.coerceTraced raw prop.type with
            | .error err =>
              let status : Status := if err.unknownEnum?.isSome then .unknownEnumValue else .coercionFailed
              pure (cur, status, none, some (err.withPath path))
            | .ok v =>
              pure <| match prop.store with
              | none => (cur, .coercionFailed, none, some (.coercion prop.type raw.kind path none))
              | some store =>
                match store cur v with
                | .error msg =>
                  (cur, .coercionFailed, none, some (.coercion prop.type raw.kind path (some (.plain msg))))
                | .ok cur' => (cur', .applied, some v, none)

/-- Applies one assignment to a target. -/
def assign (reg : Registry α) (eng : Engine) (target : α) (a : Assignment) : Traced (α × Outcome) := do
  let (target', status, value, fault) ← assignAlong reg eng a.path.render a.value target a.path
  if status != .applied then Trace.note (.debug applyLogger "Assignment failed")
  pure (target', { path := a.path, line := a.line, status, value, fault })

/-- Applies a named style of a sheet to a target, traced. With a filter, only assignments whose
first path segment it lists are applied (and reported). A missing sheet or style gives no
outcomes at all, which is told apart from a style that gave an empty list. -/
def applyStyleTraced (reg : Registry α) (eng : Engine) (sheet : Option StyleSheet) (target : α)
    (styleName : String) (only : Option (List String)) : Traced (α × Option (List Outcome)) := do
  match sheet.bind (·.style? styleName) with
  | none =>
    Trace.note (.debug applyLogger "Style not found")
    pure (target, none)
  | some list =>
    let chosen := list.filter fun a => match only with
      | some names => names.contains a.path.head
      | none => true
    let (target, outcomes) ← chosen.foldlM (fun (t, acc) a => do
      let (t', o) ← assign reg eng t a
      pure (t', o :: acc)) (target, [])
    Trace.note (.debug applyLogger "Style applied")
    pure (target, some outcomes.reverse)

/-- Applies a named style of a sheet to a target. -/
def applyStyle (reg : Registry α) (eng : Engine) (sheet : Option StyleSheet) (target : α)
    (styleName : String) (only : Option (List String)) : α × Option (List Outcome) :=
  ((applyStyleTraced reg eng sheet target styleName only).run {}).run.1

end Theming.Style
