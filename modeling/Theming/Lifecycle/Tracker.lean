import Theming.Lifecycle.Event

/-!
# Lifecycle actions and their tracker

A screen has optional actions run on its lifecycle transitions. Actions work on the state `C`
of the screen's controller: a notification changes it, a button action also decides whether the
tap is accepted. Only events that cannot be vetoed have notifications, and only the three button
taps have deciding actions; a missing notification is skipped and a missing decision accepts.

Two sets of actions merge slot by slot, the first set's action winning where both have one.

The tracker drives one screen so that each action runs at most once per transition:

* loading happens once, and not after dismissal;
* appearing loads first when needed; the first appearance is wrapped in `willPresent` and
  `didPresent`, every appearance in `willAppear` and `didAppear`; appearing again while visible,
  or after dismissal, does nothing;
* disappearing happens only while visible, wrapped in `willDisappear` and `didDisappear`;
* dismissing happens once: `willDismiss`, a disappearance, then `didDismiss`;
* a button tap is refused after dismissal; otherwise its action decides. An accepted cancel or
  done dismisses the screen, an accepted edit toggles editing.
-/

set_option autoImplicit false

namespace Theming.Lifecycle

/-- Optional actions for the events of a screen with controller state `C`. -/
structure Actions (C : Type) where
  /-- The notification of an event. -/
  notification : Event → Option (C → C) := fun _ => none
  /-- The action deciding a button tap. -/
  decision : Event → Option (C → Bool × C) := fun _ => none

namespace Actions

variable {C : Type}

/-- Runs the notification of an event, telling whether there was one; events that can be
vetoed have none, and neither do missing actions. -/
def notify (a : Option (Actions C)) (ev : Event) (c : C) : Bool × C :=
  if ev.canVeto then (false, c)
  else
    match a.bind (·.notification ev) with
    | some f => (true, f c)
    | none => (false, c)

/-- Runs the decision of a button tap; without one the tap is accepted, and events other than
button taps are always accepted. -/
def confirm (a : Option (Actions C)) (ev : Event) (c : C) : Bool × C :=
  if !ev.canVeto then (true, c)
  else
    match a.bind (·.decision ev) with
    | some f => f c
    | none => (true, c)

/-- The actions of `a`, with those of `o` filling the slots `a` leaves empty. -/
def merge (a o : Actions C) : Actions C where
  notification ev := (a.notification ev).orElse fun _ => o.notification ev
  decision ev := (a.decision ev).orElse fun _ => o.decision ev

end Actions

/-- The lifecycle of one screen: its controller state, its actions and where it stands. -/
structure Tracker (C : Type) where
  ctrl : C
  actions : Option (Actions C)
  loaded : Bool := false
  presented : Bool := false
  visible : Bool := false
  editing : Bool := false
  dismissed : Bool := false

namespace Tracker

variable {C : Type}

/-- Runs the notification of an event. -/
def fire (t : Tracker C) (ev : Event) : Tracker C :=
  { t with ctrl := (Actions.notify t.actions ev t.ctrl).2 }

/-- Loads the screen, once. -/
def load (t : Tracker C) : Tracker C :=
  if t.loaded || t.dismissed then t
  else { t with loaded := true }.fire .viewDidLoad

/-- Makes the screen visible, loading it first when needed. -/
def appear (t : Tracker C) : Tracker C :=
  if t.visible || t.dismissed then t
  else
    let t := t.load
    let first := !t.presented
    let t := if first then t.fire .willPresent else t
    let t := { t.fire .willAppear with visible := true }.fire .didAppear
    if first then { t with presented := true }.fire .didPresent else t

/-- Hides the visible screen. -/
def disappear (t : Tracker C) : Tracker C :=
  if !t.visible then t
  else { t.fire .willDisappear with visible := false }.fire .didDisappear

/-- Dismisses the screen for good. -/
def dismiss (t : Tracker C) : Tracker C :=
  if t.dismissed then t
  else { (t.fire .willDismiss).disappear with dismissed := true }.fire .didDismiss

/-- Asks the action of a button tap; refused after dismissal. -/
def confirmTap (t : Tracker C) (ev : Event) : Bool × Tracker C :=
  if t.dismissed then (false, t)
  else
    let (ok, c) := Actions.confirm t.actions ev t.ctrl
    (ok, { t with ctrl := c })

/-- The cancel button: an accepted tap dismisses the screen. -/
def cancel (t : Tracker C) : Bool × Tracker C :=
  match t.confirmTap .cancelButtonTapped with
  | (true, t) => (true, t.dismiss)
  | (false, t) => (false, t)

/-- The done button: an accepted tap dismisses the screen. -/
def done (t : Tracker C) : Bool × Tracker C :=
  match t.confirmTap .doneButtonTapped with
  | (true, t) => (true, t.dismiss)
  | (false, t) => (false, t)

/-- The edit button: an accepted tap toggles editing. -/
def edit (t : Tracker C) : Bool × Tracker C :=
  match t.confirmTap .editButtonTapped with
  | (true, t) => (true, { t with editing := !t.editing })
  | (false, t) => (false, t)

variable {t : Tracker C}

@[simp] theorem fire_ctrl (ev : Event) :
    (t.fire ev).ctrl = (Actions.notify t.actions ev t.ctrl).2 := rfl
@[simp] theorem fire_actions (ev : Event) : (t.fire ev).actions = t.actions := rfl
@[simp] theorem fire_loaded (ev : Event) : (t.fire ev).loaded = t.loaded := rfl
@[simp] theorem fire_presented (ev : Event) : (t.fire ev).presented = t.presented := rfl
@[simp] theorem fire_visible (ev : Event) : (t.fire ev).visible = t.visible := rfl
@[simp] theorem fire_editing (ev : Event) : (t.fire ev).editing = t.editing := rfl
@[simp] theorem fire_dismissed (ev : Event) : (t.fire ev).dismissed = t.dismissed := rfl

@[simp] theorem load_editing : t.load.editing = t.editing := by
  unfold load
  split <;> rfl

@[simp] theorem appear_editing : t.appear.editing = t.editing := by
  unfold appear
  split
  · rfl
  · by_cases h : t.load.presented <;> simp [h]

@[simp] theorem disappear_editing : t.disappear.editing = t.editing := by
  unfold disappear
  split <;> rfl

@[simp] theorem dismiss_editing : t.dismiss.editing = t.editing := by
  unfold dismiss
  split <;> simp

@[simp] theorem confirmTap_editing (ev : Event) : (t.confirmTap ev).2.editing = t.editing := by
  unfold confirmTap
  split <;> rfl

theorem cancel_eq : t.cancel =
    ((t.confirmTap .cancelButtonTapped).1, if (t.confirmTap .cancelButtonTapped).1 then
      (t.confirmTap .cancelButtonTapped).2.dismiss else (t.confirmTap .cancelButtonTapped).2) := by
  unfold cancel
  split <;> simp_all

theorem done_eq : t.done =
    ((t.confirmTap .doneButtonTapped).1, if (t.confirmTap .doneButtonTapped).1 then
      (t.confirmTap .doneButtonTapped).2.dismiss else (t.confirmTap .doneButtonTapped).2) := by
  unfold done
  split <;> simp_all

theorem edit_eq : t.edit =
    ((t.confirmTap .editButtonTapped).1, if (t.confirmTap .editButtonTapped).1 then
      { (t.confirmTap .editButtonTapped).2 with editing := !t.editing }
      else (t.confirmTap .editButtonTapped).2) := by
  unfold edit
  split
  · next t' h => simp [h, ← confirmTap_editing (t := t) .editButtonTapped]
  · next t' h => simp [h]

end Tracker

/-- What can happen to a screen: the transitions of its life and the taps on its buttons. -/
inductive Transition where
  | load
  | appear
  | disappear
  | dismiss
  | cancel
  | done
  | edit
  deriving Repr, DecidableEq, Inhabited

namespace Transition

/-- The transition of a name: `load`, `appear`, `disappear`, `dismiss`, `cancel`, `done` or
`edit`. -/
def ofName? : String → Option Transition
  | "load" => some load
  | "appear" => some appear
  | "disappear" => some disappear
  | "dismiss" => some dismiss
  | "cancel" => some cancel
  | "done" => some done
  | "edit" => some edit
  | _ => none

end Transition

/-- Performs a transition on a tracked screen; button taps also tell whether they were
accepted. -/
def Tracker.perform {C : Type} (t : Tracker C) : Transition → Option Bool × Tracker C
  | .load => (none, t.load)
  | .appear => (none, t.appear)
  | .disappear => (none, t.disappear)
  | .dismiss => (none, t.dismiss)
  | .cancel => let (b, t) := t.cancel; (some b, t)
  | .done => let (b, t) := t.done; (some b, t)
  | .edit => let (b, t) := t.edit; (some b, t)

/-- Performs transitions one after another, with the answer of each (button taps only). -/
def Tracker.run {C : Type} (t : Tracker C) : List Transition → List (Option Bool) × Tracker C
  | [] => ([], t)
  | tr :: rest =>
    let (b, t') := t.perform tr
    let (bs, t'') := t'.run rest
    (b :: bs, t'')

end Theming.Lifecycle
