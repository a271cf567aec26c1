import Theming.Text.Naming

/-!
# Lifecycle events

The events of a screen's life: loading, appearing and disappearing, being presented and
dismissed, and the taps on its cancel, done and edit buttons. The three button taps may be
vetoed by their handler.
-/

set_option autoImplicit false

namespace Theming.Lifecycle

open Theming.Text

/-- The lifecycle events, in their numbering. -/
inductive Event where
  | viewDidLoad
  | willAppear
  | didAppear
  | willDisappear
  | didDisappear
  | willPresent
  | didPresent
  | willDismiss
  | didDismiss
  | cancelButtonTapped
  | doneButtonTapped
  | editButtonTapped
  deriving Repr, DecidableEq, Inhabited

namespace Event

/-- All events in their numbering. -/
def all : List Event :=
  [viewDidLoad, willAppear, didAppear, willDisappear, didDisappear, willPresent, didPresent,
    willDismiss, didDismiss, cancelButtonTapped, doneButtonTapped, editButtonTapped]

/-- The name of an event. -/
def name : Event → String
  | viewDidLoad => "viewDidLoad"
  | willAppear => "willAppear"
  | didAppear => "didAppear"
  | willDisappear => "willDisappear"
  | didDisappear => "didDisappear"
  | willPresent => "willPresent"
  | didPresent => "didPresent"
  | willDismiss => "willDismiss"
  | didDismiss => "didDismiss"
  | cancelButtonTapped => "cancelButtonTapped"
  | doneButtonTapped => "doneButtonTapped"
  | editButtonTapped => "editButtonTapped"

/-- The names of the events. -/
def naming : Naming := ⟨"Event", all.map name⟩

/-- The event of a name, or the message `name is not a valid Event`. -/
def parse (s : String) : Except String Event := do
  let n ← naming.parse s
  match all[n]? with
  | some ev => pure ev
  | none => throw (s ++ " is not a valid " ++ naming.typeName)

/-- Whether the handler of an event may veto it: only the button taps. -/
def canVeto : Event → Bool
  | cancelButtonTapped => true
  | doneButtonTapped => true
  | editButtonTapped => true
  | _ => false

end Event

end Theming.Lifecycle
