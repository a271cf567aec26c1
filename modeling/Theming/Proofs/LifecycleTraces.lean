import Theming.Lifecycle.Tracker

/-!
# The traces a lifecycle tracker delivers

A tracker drives one screen through its life, running the screen's actions on the way. Here the
actions record every event they are asked about in the controller (`Actions.Records`), whatever
they answer to button taps, and the recorded trace is shown to be well formed (`WellFormed`):

* loading, presenting and dismissing each happen at most once;
* loading comes before every appearance;
* appearances and disappearances alternate in rounds, starting with an appearance;
* presenting happens exactly when the screen appeared, right before the first appearance, and
  the presentation ends right after it;
* a dismissal holds at most one disappearance, and nothing comes after it, not even a question
  to a button's action.

The tracker's flags are read off the trace: the screen is visible when it appeared more often than
it disappeared, dismissed when the dismissal was notified, and editing when an odd number of edit
taps were accepted.

The invariant is `Delivered`: each flag counts the events that set it, the appearances are whole
rounds but for one open while the screen is visible, and the trace is in order (`Ordered`). Each
operation adds a fixed segment of events to the trace, given by the flags (`Tracker.load_eq`,
`Tracker.appear_eq`, ...), and keeps the invariant (`Delivered.load`, `Delivered.firstAppear`,
...); `Delivers.perform` is the step lemma, `Delivers.run` the run lemma, and
`Tracker.run_wellFormed` the main statement.
-/

set_option autoImplicit false

namespace Theming.Lifecycle

/-! ## Cutting a trace at an event -/

section Split

variable {α : Type} {e : α} {R : List α → List α → Prop}

@[simp] theorem forall_split_nil : (∀ pre post : List α, [] = pre ++ e :: post → R pre post) ↔ True :=
  iff_true_intro fun pre post h => by simp at h

@[simp] theorem forall_split_cons {a : α} {l : List α} :
    (∀ pre post, a :: l = pre ++ e :: post → R pre post) ↔
      (a = e → R [] l) ∧ ∀ pre post, l = pre ++ e :: post → R (a :: pre) post := by
  constructor
  · intro h
    exact ⟨fun hae => h [] l (by rw [hae]; rfl), fun pre post hl => h (a :: pre) post (by rw [hl]; rfl)⟩
  · rintro ⟨hhead, htail⟩ pre post h
    cases pre with
    | nil =>
      obtain ⟨rfl, rfl⟩ := List.cons.inj h
      exact hhead rfl
    | cons b pre =>
      obtain ⟨rfl, hl⟩ := List.cons.inj h
      exact htail pre post hl

theorem forall_split_append {l₁ l₂ : List α} :
    (∀ pre post, l₁ ++ l₂ = pre ++ e :: post → R pre post) ↔
      (∀ pre post, l₁ = pre ++ e :: post → R pre (post ++ l₂)) ∧
        ∀ pre post, l₂ = pre ++ e :: post → R (l₁ ++ pre) post := by
  induction l₁ generalizing R with
  | nil => simp
  | cons a l₁ ih =>
    simp only [List.cons_append, forall_split_cons, ih]
    constructor
    · rintro ⟨h1, h2, h3⟩
      exact ⟨⟨h1, h2⟩, h3⟩
    · rintro ⟨⟨h1, h2⟩, h3⟩
      exact ⟨h1, h2, h3⟩

theorem forall_split_of_not_mem {l : List α} (h : e ∉ l) :
    ∀ pre post, l = pre ++ e :: post → R pre post := by
  intro pre post hl
  exact absurd (hl ▸ List.mem_append_right pre List.mem_cons_self) h

end Split

/-! ## The traces of a screen's life -/

namespace Event

/-- The events of appearing and disappearing. -/
def isAppearance : Event → Bool
  | willAppear | didAppear | willDisappear | didDisappear => true
  | _ => false

end Event

/-- One round of appearing and disappearing. -/
def appearanceRound : List Event := [.willAppear, .didAppear, .willDisappear, .didDisappear]

/-- How the events of a trace stand to each other: loading comes before every appearance, the
first appearance is wrapped in the presentation events, a dismissal holds at most a
disappearance, and nothing comes after it. -/
structure Ordered (τ : List Event) : Prop where
  loadedFirst : ∀ pre post, τ = pre ++ .willAppear :: post → .viewDidLoad ∈ pre
  presentingFirst : ∀ pre post, τ = pre ++ .willAppear :: post → .willAppear ∉ pre →
    pre.getLast? = some .willPresent
  presentedAfter : ∀ pre post, τ = pre ++ .didAppear :: post → .didAppear ∉ pre →
    post.head? = some .didPresent
  dismissal : ∀ pre post, τ = pre ++ .willDismiss :: post →
    post = [.didDismiss] ∨ post = [.willDisappear, .didDisappear, .didDismiss]
  dismissedLast : ∀ pre post, τ = pre ++ .didDismiss :: post → post = []

/-- A well-formed trace of a screen's life: the events of loading, presenting and dismissing
happen at most once; the appearances form rounds of appearing and disappearing, each possibly
cut short at its end; presenting happens exactly when the screen appeared; and the order of
`Ordered`. -/
structure WellFormed (τ : List Event) : Prop extends Ordered τ where
  once : ∀ ev ∈ [Event.viewDidLoad, .willPresent, .didPresent, .willDismiss, .didDismiss],
    τ.count ev ≤ 1
  rounds : ∃ n, τ.filter Event.isAppearance <+: (List.replicate n appearanceRound).flatten
  presentedIffAppeared : .willPresent ∈ τ ↔ .willAppear ∈ τ

/-! ## What a tracker's flags say of the trace it delivered -/

variable {C : Type}

/-- The invariant of a tracker and the trace it delivered so far: each flag counts the events
that set it, and the appearances so far are whole rounds, the last one still open exactly when
the screen is visible. -/
structure Delivered (t : Tracker C) (τ : List Event) : Prop extends Ordered τ where
  loads : τ.count .viewDidLoad = t.loaded.toNat
  presents : τ.count .willPresent = t.presented.toNat
  presented : τ.count .didPresent = t.presented.toNat
  appeared : t.presented = true ↔ .willAppear ∈ τ
  shown : t.presented = true ↔ .didAppear ∈ τ
  dismisses : τ.count .willDismiss = t.dismissed.toNat
  dismissed : τ.count .didDismiss = t.dismissed.toNat
  hidden : t.dismissed = true → t.visible = false
  rounds : ∃ n, τ.filter Event.isAppearance =
    (List.replicate n appearanceRound).flatten ++ (if t.visible then [.willAppear, .didAppear] else [])

/-- A trace stays in order when a segment is added to it that keeps the order on its own,
as long as nothing has been dismissed yet. -/
theorem Ordered.append {τ : List Event} (h : Ordered τ) (hdismiss : .willDismiss ∉ τ)
    (hdismissed : .didDismiss ∉ τ) (seg : List Event)
    (hload : ∀ pre post, seg = pre ++ .willAppear :: post → .viewDidLoad ∈ τ ++ pre)
    (hpresent : ∀ pre post, seg = pre ++ .willAppear :: post → .willAppear ∉ τ ++ pre →
      (τ ++ pre).getLast? = some .willPresent)
    (hafter : ∀ pre post, seg = pre ++ .didAppear :: post → .didAppear ∉ τ ++ pre →
      post.head? = some .didPresent)
    (hdismissal : ∀ pre post, seg = pre ++ .willDismiss :: post →
      post = [.didDismiss] ∨ post = [.willDisappear, .didDisappear, .didDismiss])
    (hlast : ∀ pre post, seg = pre ++ .didDismiss :: post → post = []) :
    Ordered (τ ++ seg) where
  loadedFirst := forall_split_append.2 ⟨h.loadedFirst, hload⟩
  presentingFirst := forall_split_append.2 ⟨h.presentingFirst, hpresent⟩
  presentedAfter := by
    refine forall_split_append.2 ⟨fun pre post hτ hfirst => ?_, hafter⟩
    -- the event after the first appearance is already in the trace
    rw [List.head?_append, h.presentedAfter pre post hτ hfirst]
    rfl
  dismissal := forall_split_append.2 ⟨forall_split_of_not_mem hdismiss, hdismissal⟩
  dismissedLast := forall_split_append.2 ⟨forall_split_of_not_mem hdismissed, hlast⟩

namespace Delivered

variable {t : Tracker C} {τ : List Event}

/-- A new tracker has delivered nothing. -/
theorem fresh (c : C) (a : Option (Actions C)) : Delivered { ctrl := c, actions := a } [] where
  loadedFirst := by simp
  presentingFirst := by simp
  presentedAfter := by simp
  dismissal := by simp
  dismissedLast := by simp
  loads := rfl
  presents := rfl
  presented := rfl
  appeared := by simp
  shown := by simp
  dismisses := rfl
  dismissed := rfl
  hidden := by simp
  rounds := ⟨0, rfl⟩

/-- Before dismissal neither dismissal event is in the trace. -/
theorem not_dismissing (h : Delivered t τ) (hd : t.dismissed = false) : .willDismiss ∉ τ := by
  rw [← List.count_eq_zero, h.dismisses, hd]
  rfl

theorem not_dismissed (h : Delivered t τ) (hd : t.dismissed = false) : .didDismiss ∉ τ := by
  rw [← List.count_eq_zero, h.dismissed, hd]
  rfl

/-- Loading adds its notification. -/
theorem load (h : Delivered t τ) (hl : t.loaded = false) (hd : t.dismissed = false) (c : C) :
    Delivered { t with ctrl := c, loaded := true } (τ ++ [.viewDidLoad]) := by
  obtain ⟨n, hn⟩ := h.rounds
  exact {
    toOrdered := h.append (h.not_dismissing hd) (h.not_dismissed hd) _
      (by simp) (by simp) (by simp) (by simp) (by simp)
    loads := by simp [h.loads, hl]
    presents := by simp [h.presents]
    presented := by simp [h.presented]
    appeared := by simp [h.appeared]
    shown := by simp [h.shown]
    dismisses := by simp [h.dismisses]
    dismissed := by simp [h.dismissed]
    hidden := h.hidden
    rounds := ⟨n, by simp [List.filter_append, hn, Event.isAppearance]⟩ }

/-- A loaded screen: every appearance comes after the loading. -/
theorem loaded_of_presented (h : Delivered t τ) (hp : t.presented = true) : t.loaded = true := by
  obtain ⟨pre, post, hτ⟩ := List.append_of_mem (h.appeared.1 hp)
  have hload : .viewDidLoad ∈ τ := hτ ▸ List.mem_append_left _ (h.loadedFirst pre post hτ)
  rw [← List.count_pos_iff, h.loads] at hload
  cases hl : t.loaded
  · simp [hl] at hload
  · rfl

/-- The first appearance, wrapped in the presentation events. -/
theorem firstAppear (h : Delivered t τ) (hl : t.loaded = true) (hp : t.presented = false)
    (hv : t.visible = false) (hd : t.dismissed = false) (c : C) :
    Delivered { t with ctrl := c, presented := true, visible := true }
      (τ ++ [.willPresent, .willAppear, .didAppear, .didPresent]) := by
  obtain ⟨n, hn⟩ := h.rounds
  have hload : .viewDidLoad ∈ τ := by rw [← List.count_pos_iff, h.loads, hl]; decide
  have hfirst : .willAppear ∉ τ := by rw [← h.appeared, hp]; decide
  exact {
    toOrdered := h.append (h.not_dismissing hd) (h.not_dismissed hd) _
      (by simp [hload]) (by simp) (by simp) (by simp) (by simp)
    loads := by simp [h.loads]
    presents := by simp [h.presents, hp]
    presented := by simp [h.presented, hp]
    appeared := by simp
    shown := by simp
    dismisses := by simp [h.dismisses]
    dismissed := by simp [h.dismissed]
    hidden := fun _ => by simp_all
    rounds := ⟨n, by simp [List.filter_append, List.filter_cons, hn, hv, Event.isAppearance]⟩ }

/-- A later appearance. -/
theorem reappear (h : Delivered t τ) (hp : t.presented = true) (hv : t.visible = false)
    (hd : t.dismissed = false) (c : C) :
    Delivered { t with ctrl := c, visible := true } (τ ++ [.willAppear, .didAppear]) := by
  obtain ⟨n, hn⟩ := h.rounds
  have hload : .viewDidLoad ∈ τ := by
    rw [← List.count_pos_iff, h.loads, h.loaded_of_presented hp]; decide
  have happeared := h.appeared.1 hp
  have hshown := h.shown.1 hp
  exact {
    toOrdered := h.append (h.not_dismissing hd) (h.not_dismissed hd) _
      (by simp [hload]) (by simp [happeared]) (by simp [hshown]) (by simp) (by simp)
    loads := by simp [h.loads]
    presents := by simp [h.presents]
    presented := by simp [h.presented]
    appeared := by simp [hp]
    shown := by simp [hp]
    dismisses := by simp [h.dismisses]
    dismissed := by simp [h.dismissed]
    hidden := fun _ => by simp_all
    rounds := ⟨n, by simp [List.filter_append, List.filter_cons, hn, hv, Event.isAppearance]⟩ }

/-- A disappearance of the visible screen closes the open round. -/
theorem disappear (h : Delivered t τ) (hv : t.visible = true) (c : C) :
    Delivered { t with ctrl := c, visible := false } (τ ++ [.willDisappear, .didDisappear]) := by
  obtain ⟨n, hn⟩ := h.rounds
  have hd : t.dismissed = false := by
    cases hd : t.dismissed
    · rfl
    · simp [h.hidden hd] at hv
  exact {
    toOrdered := h.append (h.not_dismissing hd) (h.not_dismissed hd) _
      (by simp) (by simp) (by simp) (by simp) (by simp)
    loads := by simp [h.loads]
    presents := by simp [h.presents]
    presented := by simp [h.presented]
    appeared := by simp [h.appeared]
    shown := by simp [h.shown]
    dismisses := by simp [h.dismisses]
    dismissed := by simp [h.dismissed]
    hidden := fun _ => rfl
    rounds := ⟨n + 1, by simp [List.filter_append, List.filter_cons, hn, hv, Event.isAppearance,
      List.replicate_succ', appearanceRound]⟩ }

/-- A dismissal: its notifications, with a disappearance between them when the screen is
visible. -/
theorem dismiss (h : Delivered t τ) (hd : t.dismissed = false) (c : C) :
    Delivered { t with ctrl := c, visible := false, dismissed := true }
      (τ ++ ([.willDismiss] ++ (if t.visible then [.willDisappear, .didDisappear] else []) ++
        [.didDismiss])) := by
  obtain ⟨n, hn⟩ := h.rounds
  have hdismiss := h.not_dismissing hd
  have hdismissed := h.not_dismissed hd
  cases hv : t.visible
  · exact {
      toOrdered := h.append hdismiss hdismissed _
        (by simp) (by simp) (by simp) (by simp) (by simp)
      loads := by simp [h.loads]
      presents := by simp [h.presents]
      presented := by simp [h.presented]
      appeared := by simp [h.appeared]
      shown := by simp [h.shown]
      dismisses := by simp [h.dismisses, hd]
      dismissed := by simp [h.dismissed, hd]
      hidden := fun _ => rfl
      rounds := ⟨n, by simp [List.filter_append, hn, hv, Event.isAppearance]⟩ }
  · exact {
      toOrdered := h.append hdismiss hdismissed _
        (by simp) (by simp) (by simp) (by simp) (by simp)
      loads := by simp [h.loads]
      presents := by simp [h.presents]
      presented := by simp [h.presented]
      appeared := by simp [h.appeared]
      shown := by simp [h.shown]
      dismisses := by simp [h.dismisses, hd]
      dismissed := by simp [h.dismissed, hd]
      hidden := fun _ => rfl
      rounds := ⟨n + 1, by simp [List.filter_append, List.filter_cons, hn, hv, Event.isAppearance,
        List.replicate_succ', appearanceRound]⟩ }

/-- A button tap asked of its action. -/
theorem tap (h : Delivered t τ) (hd : t.dismissed = false) {ev : Event} (hev : ev.canVeto = true)
    (c : C) : Delivered { t with ctrl := c } (τ ++ [ev]) := by
  obtain ⟨n, hn⟩ := h.rounds
  -- a tap is none of the lifecycle events
  cases ev <;> simp [Event.canVeto] at hev <;> exact {
    toOrdered := h.append (h.not_dismissing hd) (h.not_dismissed hd) _
      (by simp) (by simp) (by simp) (by simp) (by simp)
    loads := by simp [h.loads]
    presents := by simp [h.presents]
    presented := by simp [h.presented]
    appeared := by simp [h.appeared]
    shown := by simp [h.shown]
    dismisses := by simp [h.dismisses]
    dismissed := by simp [h.dismissed]
    hidden := h.hidden
    rounds := ⟨n, by simp [List.filter_append, hn, Event.isAppearance]⟩ }

/-- The counts of the appearance events: as many disappearances as rounds closed, and one more
appearance while the screen is visible. -/
theorem counts (h : Delivered t τ) :
    ∃ n, τ.count .didDisappear = n ∧ τ.count .didAppear = n + t.visible.toNat := by
  obtain ⟨n, hn⟩ := h.rounds
  have hcount : ∀ ev, ev.isAppearance = true → τ.count ev = (τ.filter Event.isAppearance).count ev :=
    fun ev hev => (List.count_filter hev).symm
  refine ⟨n, ?_, ?_⟩
  · rw [hcount _ rfl, hn]
    cases t.visible <;> simp [List.count_flatten, appearanceRound]
  · rw [hcount _ rfl, hn]
    cases t.visible <;> simp [List.count_flatten, appearanceRound]

/-- What the invariant says of the trace alone. -/
theorem wellFormed (h : Delivered t τ) : WellFormed τ where
  toOrdered := h.toOrdered
  once := by
    simp only [List.mem_cons, List.not_mem_nil, or_false, forall_eq_or_imp, forall_eq]
    exact ⟨h.loads ▸ Bool.toNat_le _, h.presents ▸ Bool.toNat_le _, h.presented ▸ Bool.toNat_le _,
      h.dismisses ▸ Bool.toNat_le _, h.dismissed ▸ Bool.toNat_le _⟩
  rounds := by
    obtain ⟨n, hn⟩ := h.rounds
    refine ⟨n + 1, ?_⟩
    rw [hn, List.replicate_succ', List.flatten_append, List.flatten_singleton]
    refine (List.prefix_append_right_inj _).2 ?_
    cases t.visible <;> simp [appearanceRound]
  presentedIffAppeared := by
    rw [← h.appeared, ← List.count_pos_iff, h.presents]
    cases t.presented <;> simp

/-- The flags are all the invariant reads of a tracker. -/
theorem of_flags {t' : Tracker C} (h : Delivered t τ) (hl : t'.loaded = t.loaded)
    (hp : t'.presented = t.presented) (hv : t'.visible = t.visible)
    (hd : t'.dismissed = t.dismissed) : Delivered t' τ := by
  obtain ⟨hord, hloads, hpresents, hpresented, happeared, hshown, hdismisses, hdismissed, hhidden,
    hrounds⟩ := h
  exact ⟨hord, hl ▸ hloads, hp ▸ hpresents, hp ▸ hpresented, hp ▸ happeared, hp ▸ hshown,
    hd ▸ hdismisses, hd ▸ hdismissed, hd ▸ hv ▸ hhidden, hv ▸ hrounds⟩

end Delivered

namespace Actions

/-- Actions whose every slot is set and records its event in the controller's trace: each
notification appends its event, and each button action its tap, whatever it answers. -/
structure Records (a : Actions C) (trace : C → List Event) : Prop where
  notifies : ∀ ev, ev.canVeto = false →
    ∃ f, a.notification ev = some f ∧ ∀ c, trace (f c) = trace c ++ [ev]
  decides : ∀ ev, ev.canVeto = true →
    ∃ g, a.decision ev = some g ∧ ∀ c, trace (g c).2 = trace c ++ [ev]

variable {trace : C → List Event} {a : Actions C}

/-- A notification of recording actions adds its event. -/
theorem Records.trace_notify (ha : a.Records trace) {ev : Event} (hev : ev.canVeto = false)
    (c : C) : trace (notify (some a) ev c).2 = trace c ++ [ev] := by
  obtain ⟨f, hf, hrec⟩ := ha.notifies ev hev
  simp [notify, hev, hf, hrec]

/-- A button action of recording actions adds its tap. -/
theorem Records.trace_confirm (ha : a.Records trace) {ev : Event} (hev : ev.canVeto = true)
    (c : C) : trace (confirm (some a) ev c).2 = trace c ++ [ev] := by
  obtain ⟨g, hg, hrec⟩ := ha.decides ev hev
  simp [confirm, hev, hg, hrec]

end Actions

namespace Tracker

variable {t : Tracker C} {trace : C → List Event} {a : Actions C} (ha : a.Records trace)
include ha

/-- Loading a screen not loaded yet notifies `viewDidLoad`. -/
theorem load_eq (hact : t.actions = some a) (hl : t.loaded = false) (hd : t.dismissed = false) :
    ∃ c, t.load = { t with ctrl := c, loaded := true } ∧
      trace c = trace t.ctrl ++ [.viewDidLoad] := by
  refine ⟨t.load.ctrl, ?_, ?_⟩
  · obtain ⟨ctrl, actions, loaded, presented, visible, editing, dismissed⟩ := t
    subst hl hd
    rfl
  · simp (disch := decide) [load, hl, hd, hact, ha.trace_notify]

/-- A hidden screen appears: loaded first when needed, presented the first time. -/
theorem appear_eq (hact : t.actions = some a) (hv : t.visible = false) (hd : t.dismissed = false) :
    ∃ c, t.appear = { t with ctrl := c, loaded := true, presented := true, visible := true } ∧
      trace c = trace t.ctrl ++ ((if t.loaded then [] else [.viewDidLoad]) ++
        (if t.presented then [.willAppear, .didAppear]
          else [.willPresent, .willAppear, .didAppear, .didPresent])) := by
  refine ⟨t.appear.ctrl, ?_, ?_⟩
  · obtain ⟨ctrl, actions, loaded, presented, visible, editing, dismissed⟩ := t
    subst hv hd
    cases loaded <;> cases presented <;> rfl
  · obtain ⟨ctrl, actions, loaded, presented, visible, editing, dismissed⟩ := t
    subst hv hd hact
    cases loaded <;> cases presented <;>
      simp (disch := decide) [appear, load, ha.trace_notify]

/-- A visible screen disappears. -/
theorem disappear_eq (hact : t.actions = some a) (hv : t.visible = true) :
    ∃ c, t.disappear = { t with ctrl := c, visible := false } ∧
      trace c = trace t.ctrl ++ [.willDisappear, .didDisappear] := by
  refine ⟨t.disappear.ctrl, ?_, ?_⟩
  · obtain ⟨ctrl, actions, loaded, presented, visible, editing, dismissed⟩ := t
    subst hv
    rfl
  · simp (disch := decide) [disappear, hv, hact, ha.trace_notify]

/-- A screen is dismissed, disappearing on the way when visible. -/
theorem dismiss_eq (hact : t.actions = some a) (hd : t.dismissed = false) :
    ∃ c, t.dismiss = { t with ctrl := c, visible := false, dismissed := true } ∧
      trace c = trace t.ctrl ++ ([.willDismiss] ++
        (if t.visible then [.willDisappear, .didDisappear] else []) ++ [.didDismiss]) := by
  refine ⟨t.dismiss.ctrl, ?_, ?_⟩
  · obtain ⟨ctrl, actions, loaded, presented, visible, editing, dismissed⟩ := t
    subst hd
    cases visible <;> rfl
  · obtain ⟨ctrl, actions, loaded, presented, visible, editing, dismissed⟩ := t
    subst hd hact
    cases visible <;> simp (disch := decide) [dismiss, disappear, ha.trace_notify]

/-- A tap on a screen not dismissed asks the button's action, whatever it answers. -/
theorem confirmTap_eq (hact : t.actions = some a) (hd : t.dismissed = false) {ev : Event}
    (hev : ev.canVeto = true) :
    ∃ ok c, t.confirmTap ev = (ok, { t with ctrl := c }) ∧ trace c = trace t.ctrl ++ [ev] := by
  refine ⟨(Actions.confirm t.actions ev t.ctrl).1, (Actions.confirm t.actions ev t.ctrl).2, ?_, ?_⟩
  · simp [confirmTap, hd]
  · rw [hact]
    exact ha.trace_confirm hev t.ctrl

end Tracker

/-- A tracker acting with `a` whose controller's trace is `base` followed by a trace that the
tracker delivered. -/
def Delivers (trace : C → List Event) (a : Actions C) (base : List Event) (t : Tracker C) : Prop :=
  t.actions = some a ∧ ∃ τ, trace t.ctrl = base ++ τ ∧ Delivered t τ

namespace Delivers

variable {trace : C → List Event} {a : Actions C} (ha : a.Records trace) {base : List Event}
  {t : Tracker C}
include ha

/-- Each operation keeps the invariant, whichever branch of it runs. -/
theorem load (h : Delivers trace a base t) : Delivers trace a base t.load := by
  obtain ⟨hact, τ, hτ, hdel⟩ := h
  cases hfree : t.loaded || t.dismissed
  · obtain ⟨hl, hd⟩ : t.loaded = false ∧ t.dismissed = false := by simpa using hfree
    obtain ⟨c, heq, hc⟩ := Tracker.load_eq ha hact hl hd
    rw [heq]
    exact ⟨hact, τ ++ [.viewDidLoad], by rw [hc, hτ, List.append_assoc], hdel.load hl hd c⟩
  · have heq : t.load = t := by simp [Tracker.load, hfree]
    rw [heq]
    exact ⟨hact, τ, hτ, hdel⟩

theorem appear (h : Delivers trace a base t) : Delivers trace a base t.appear := by
  obtain ⟨hact, τ, hτ, hdel⟩ := h
  cases hfree : t.visible || t.dismissed
  · obtain ⟨hv, hd⟩ : t.visible = false ∧ t.dismissed = false := by simpa using hfree
    obtain ⟨c, heq, hc⟩ := Tracker.appear_eq ha hact hv hd
    rw [heq]
    refine ⟨hact, _, by rw [hc, hτ, List.append_assoc], ?_⟩
    -- an appearance loads first when needed, and presents the screen the first time
    cases hl : t.loaded <;> cases hp : t.presented
    · simpa [hl, hp] using
        (hdel.load hl hd t.ctrl).firstAppear rfl hp hv hd c
    · exact absurd (hdel.loaded_of_presented hp) (by simp [hl])
    · simpa [hl, hp] using hdel.firstAppear hl hp hv hd c
    · simpa [hl, hp] using hdel.reappear hp hv hd c
  · have heq : t.appear = t := by simp [Tracker.appear, hfree]
    rw [heq]
    exact ⟨hact, τ, hτ, hdel⟩

theorem disappear (h : Delivers trace a base t) : Delivers trace a base t.disappear := by
  obtain ⟨hact, τ, hτ, hdel⟩ := h
  cases hv : t.visible
  · have heq : t.disappear = t := by simp [Tracker.disappear, hv]
    rw [heq]
    exact ⟨hact, τ, hτ, hdel⟩
  · obtain ⟨c, heq, hc⟩ := Tracker.disappear_eq ha hact hv
    rw [heq]
    exact ⟨hact, _, by rw [hc, hτ, List.append_assoc], hdel.disappear hv c⟩

theorem dismiss (h : Delivers trace a base t) : Delivers trace a base t.dismiss := by
  obtain ⟨hact, τ, hτ, hdel⟩ := h
  cases hd : t.dismissed
  · obtain ⟨c, heq, hc⟩ := Tracker.dismiss_eq ha hact hd
    rw [heq]
    exact ⟨hact, _, by rw [hc, hτ, List.append_assoc], hdel.dismiss hd c⟩
  · have heq : t.dismiss = t := by simp [Tracker.dismiss, hd]
    rw [heq]
    exact ⟨hact, τ, hτ, hdel⟩

theorem confirmTap (h : Delivers trace a base t) (ev : Event) (hev : ev.canVeto = true) :
    Delivers trace a base (t.confirmTap ev).2 := by
  obtain ⟨hact, τ, hτ, hdel⟩ := h
  cases hd : t.dismissed
  · obtain ⟨ok, c, heq, hc⟩ := Tracker.confirmTap_eq ha hact hd hev
    rw [heq]
    exact ⟨hact, _, by rw [hc, hτ, List.append_assoc], hdel.tap hd hev c⟩
  · have heq : t.confirmTap ev = (false, t) := by simp [Tracker.confirmTap, hd]
    rw [heq]
    exact ⟨hact, τ, hτ, hdel⟩

/-- The step lemma: every transition keeps the invariant. -/
theorem perform (h : Delivers trace a base t) (tr : Transition) :
    Delivers trace a base (t.perform tr).2 := by
  cases tr with
  | load => exact h.load ha
  | appear => exact h.appear ha
  | disappear => exact h.disappear ha
  | dismiss => exact h.dismiss ha
  | cancel =>
    have hc := h.confirmTap ha .cancelButtonTapped rfl
    simp only [Tracker.perform, Tracker.cancel_eq]
    split
    · exact hc.dismiss ha
    · exact hc
  | done =>
    have hc := h.confirmTap ha .doneButtonTapped rfl
    simp only [Tracker.perform, Tracker.done_eq]
    split
    · exact hc.dismiss ha
    · exact hc
  | edit =>
    obtain ⟨hact, τ, hτ, hdel⟩ := h.confirmTap ha .editButtonTapped rfl
    simp only [Tracker.perform, Tracker.edit_eq]
    split
    · exact ⟨hact, τ, hτ, hdel.of_flags rfl rfl rfl rfl⟩
    · exact ⟨hact, τ, hτ, hdel⟩

/-- The run lemma. -/
theorem run (h : Delivers trace a base t) (trs : List Transition) :
    Delivers trace a base (t.run trs).2 := by
  induction trs generalizing t with
  | nil => exact h
  | cons tr trs ih => exact ih (h.perform ha tr)

end Delivers

namespace Tracker

variable {t : Tracker C}

/-- Only an accepted edit changes the editing mode, and it toggles it. -/
theorem perform_editing (tr : Transition) :
    (t.perform tr).2.editing = (t.editing ^^ decide (tr = .edit ∧ (t.perform tr).1 = some true)) := by
  cases tr <;> simp only [perform, cancel_eq, done_eq, edit_eq] <;> (try split) <;> simp_all

/-- After a run the editing mode is toggled once for each accepted edit. -/
theorem run_editing (trs : List Transition) :
    (t.run trs).2.editing =
      (t.editing ^^ decide ((trs.zip (t.run trs).1).count (.edit, some true) % 2 = 1)) := by
  induction trs generalizing t with
  | nil => simp [run]
  | cons tr trs ih =>
    simp only [run, List.zip_cons_cons, List.count_cons, ih, perform_editing]
    generalize (trs.zip ((t.perform tr).2.run trs).1).count (.edit, some true) = n
    by_cases he : tr = .edit ∧ (t.perform tr).1 = some true
    · -- one more accepted edit flips the parity of the count
      have hpair : ((tr, (t.perform tr).1) == (Transition.edit, some true)) = true := by
        obtain ⟨rfl, hb⟩ := he
        simp [hb]
      rw [hpair, decide_eq_true he]
      cases t.editing <;> rcases Nat.mod_two_eq_zero_or_one n with h | h <;> simp [h, Nat.add_mod]
    · have hpair : ((tr, (t.perform tr).1) == (Transition.edit, some true)) = false := by
        simpa using he
      rw [hpair, decide_eq_false he]
      simp

end Tracker

/-- Whatever transitions a screen goes through, from a fresh tracker whose actions record every
event they are asked about, the recorded trace is well formed, and the tracker's state is read off
it: the screen is visible exactly when it appeared more often than it disappeared, dismissed
exactly when the dismissal was notified, and editing exactly when an odd number of edit taps were
accepted. -/
theorem Tracker.run_wellFormed (trace : C → List Event) (a : Actions C) (ha : a.Records trace)
    (c : C) (trs : List Transition) :
    let r := ({ ctrl := c, actions := some a } : Tracker C).run trs
    ∃ τ, trace r.2.ctrl = trace c ++ τ ∧ WellFormed τ ∧
      (r.2.visible = true ↔ τ.count .didDisappear < τ.count .didAppear) ∧
      (r.2.dismissed = true ↔ .didDismiss ∈ τ) ∧
      (r.2.editing = true ↔ (trs.zip r.1).count (.edit, some true) % 2 = 1) := by
  dsimp only
  have hstart : Delivers trace a (trace c) ({ ctrl := c, actions := some a } : Tracker C) :=
    ⟨rfl, [], (List.append_nil _).symm, Delivered.fresh c (some a)⟩
  obtain ⟨-, τ, hτ, hdel⟩ := hstart.run ha trs
  obtain ⟨n, hdd, hda⟩ := hdel.counts
  refine ⟨τ, hτ, hdel.wellFormed, ?_, ?_, ?_⟩
  · rw [hdd, hda]
    cases (({ ctrl := c, actions := some a } : Tracker C).run trs).2.visible <;> simp
  · rw [← List.count_pos_iff, hdel.dismissed]
    cases (({ ctrl := c, actions := some a } : Tracker C).run trs).2.dismissed <;> simp
  · rw [Tracker.run_editing]
    simp

/-- Recording actions whose button actions accept every other question: the trace of appearing,
editing twice, cancelling and appearing again is well formed. -/
theorem Tracker.run_wellFormed_recording :
    Actions.Records
      ({ notification := fun ev => some fun c => c ++ [ev]
         decision := fun ev => some fun c => (c.length % 2 == 0, c ++ [ev]) } :
        Actions (List Event)) id ∧
    let r := ({ ctrl := []
                actions := some
                  { notification := fun ev => some fun c => c ++ [ev]
                    decision := fun ev => some fun c => (c.length % 2 == 0, c ++ [ev]) } } :
        Tracker (List Event)).run [.appear, .edit, .edit, .cancel, .appear]
    ∃ τ, id r.2.ctrl = id [] ++ τ ∧ WellFormed τ ∧
      (r.2.visible = true ↔ τ.count .didDisappear < τ.count .didAppear) ∧
      (r.2.dismissed = true ↔ .didDismiss ∈ τ) ∧
      (r.2.editing = true ↔
        ([Transition.appear, .edit, .edit, .cancel, .appear].zip r.1).count (.edit, some true) % 2 =
          1) :=
  have hrec : Actions.Records
      ({ notification := fun ev => some fun c => c ++ [ev]
         decision := fun ev => some fun c => (c.length % 2 == 0, c ++ [ev]) } :
        Actions (List Event)) id :=
    ⟨fun _ _ => ⟨_, rfl, fun _ => rfl⟩, fun _ _ => ⟨_, rfl, fun _ => rfl⟩⟩
  ⟨hrec, Tracker.run_wellFormed id _ hrec [] [.appear, .edit, .edit, .cancel, .appear]⟩

end Theming.Lifecycle
