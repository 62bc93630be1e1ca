import HostRouting.Proofs.Enumeration
import HostRouting.Watcher

/-!
# Outlines of the watcher's transitions

An outline says what holds of the surroundings at each point of a transition: which connection the
watcher holds, and what is going on. It has one condition for each call that the watcher makes.
What an outline says of a calm watcher is then kept by every transition and by every run.
-/

namespace HostRouting

open Act (Spec failing never)

/-! ## Points of a transition -/

/-- What the watcher holds of a connection. -/
structure Hold where
  client : ClientId
  queue : QueueId
  subscribed : Bool := false
  /-- There was a subscription, which was taken away. -/
  parted : Bool := false
  deriving DecidableEq, Repr, Inhabited

namespace Hold

/-- The connection without a subscription, which is taken away if there is one. -/
def silent (x : Hold) : Hold :=
  { x with subscribed := false, parted := x.parted || x.subscribed }

/-- The connection with a subscription. -/
def listening (x : Hold) : Hold := { x with subscribed := true }

@[simp] theorem silent_client (x : Hold) : x.silent.client = x.client := rfl

@[simp] theorem silent_queue (x : Hold) : x.silent.queue = x.queue := rfl

/-- What had a subscription has parted with it. -/
theorem silent_parted {x : Hold} (h : x.subscribed = true) : x.silent.parted = true := by
  rw [silent, h, Bool.or_true]

/-- Without a subscription there is none to take away. -/
theorem silent_of_silent {x : Hold} (h : x.subscribed = false) : x.silent = x := by
  rw [silent, h, Bool.or_false, ← h]

@[simp] theorem listening_client (x : Hold) : x.listening.client = x.client := rfl

@[simp] theorem listening_queue (x : Hold) : x.listening.queue = x.queue := rfl

@[simp] theorem listening_parted (x : Hold) : x.listening.parted = x.parted := rfl

end Hold

/-- What is going on in the watcher. -/
inductive Activity where
  /-- Nothing is left to do. -/
  | calm
  /-- A new client is there, which is not yet the watcher's. -/
  | arrived (client : ClientId)
  /-- A pass has to be made. -/
  | due
  /-- A pass gave a table, which is not yet published. -/
  | bringing (table : Table)
  /-- The marker for the end of the stream was taken. -/
  | ended
  /-- The transition was stopped by a failure, which is not yet reported. -/
  | raised
  /-- Something failed, and the wait is still to come. -/
  | failed

namespace Activity

/-- A client may be given up now. -/
def isParting : Activity → Bool
  | calm | arrived _ | ended | failed => true
  | due | bringing _ | raised => false

/-- What is going on after something came out of the mailbox, or nothing. -/
def after : Option (Option Event) → Activity
  | none => calm
  | some none => ended
  | some (some e) => match e.status.isOneOf Event.lifecycle with
    | .error _ => raised
    | .ok false => calm
    | .ok true => match e.containerId.short with
      | .error _ => raised
      | .ok _ => due

section

variable {e : Event}

/-- A status that cannot be looked up stops the transition. -/
theorem after_of_error {f : Fault} (hs : e.status.isOneOf Event.lifecycle = .error f) :
    after (some (some e)) = raised := by
  simp only [after, hs]

/-- Another status than those of the lifecycle is passed over. -/
theorem after_of_other (hs : e.status.isOneOf Event.lifecycle = .ok false) :
    after (some (some e)) = calm := by
  simp only [after, hs]

/-- An event of the lifecycle that cannot be reported stops the transition. -/
theorem after_of_nameless {f : Fault} (hs : e.status.isOneOf Event.lifecycle = .ok true)
    (hid : e.containerId.short = .error f) : after (some (some e)) = raised := by
  simp only [after, hs, hid]

/-- After an event of the lifecycle a pass is due. -/
theorem after_of_lifecycle {id : Json} (hs : e.status.isOneOf Event.lifecycle = .ok true)
    (hid : e.containerId.short = .ok id) : after (some (some e)) = due := by
  simp only [after, hs, hid]

end

/-- Nothing else comes of what was in the mailbox. -/
theorem after_cases (item : Option (Option Event)) :
    after item = calm ∨ after item = ended ∨ after item = raised ∨ after item = due := by
  match item with
  | none => simp [after]
  | some none => simp [after]
  | some (some e) =>
    cases hs : e.status.isOneOf Event.lifecycle with
    | error f => simp [after_of_error hs]
    | ok isLifecycle =>
      cases isLifecycle with
      | false => simp [after_of_other hs]
      | true =>
        cases hid : e.containerId.short with
        | error f => simp [after_of_nameless hs hid]
        | ok id => simp [after_of_lifecycle hs hid]

end Activity

/-- The state of a watcher that holds a connection, or none. -/
def Watcher.holding (phase : Phase) (hold : Option Hold) : Watcher where
  phase := phase
  client? := hold.map Hold.client
  queue? := hold.map Hold.queue
  subscribed := hold.any Hold.subscribed

/-- The connections that go with a phase between two transitions. -/
def Phase.Fits : Phase → Option Hold → Prop
  | disconnected, hold => ∀ x, hold = some x → x.subscribed = false
  | idle, hold => ∃ x, hold = some x ∧ x.subscribed = false ∧ x.parted = false
  | watching, hold => ∃ x, hold = some x ∧ x.subscribed = true

/-! ## Outlines -/

/-- The entry about a transition that was stopped by a failure. -/
def Watcher.stepFailed (f : Fault) : Log.Entry :=
  .plain "ERROR" ("Event watcher step failed: " ++ f.describe)

/-- What holds of the surroundings at the points of the watcher's transitions: with which connection,
and while what is going on. -/
structure Outline {σ : Type} (h : Host σ) (c : WatchConfig) where
  /-- What holds at a point. -/
  holds : Option Hold → Activity → Surroundings σ → Prop
  /-- Entries are taken at every point. -/
  report : ∀ hold a e, a ≠ .raised → Spec (holds hold a) (h.report e) (fun _ => holds hold a) never
  /-- The entry about a failed transition is taken. -/
  alarm : ∀ hold f,
    Spec (holds hold .raised) (h.report (Watcher.stepFailed f)) (fun _ => holds hold .failed) never
  /-- A wait ends the failure. -/
  sleep : ∀ hold,
    Spec (holds hold .failed) (h.sleep c.reconnectInterval) (fun _ => holds hold .calm) never
  /-- A connection is made. -/
  connect : ∀ hold, Phase.disconnected.Fits hold → Spec (holds hold .calm) h.connect
    (fun client => holds hold (.arrived client)) (failing fun _ => holds hold .failed)
  /-- The listener is taken off. -/
  remove : ∀ x a, a.isParting = true → x.subscribed = true →
    Spec (holds (some x) a) (h.removeListener x.client x.queue) (fun _ => holds (some x.silent) a)
      (failing fun _ => holds (some x.silent) a)
  /-- The client is closed. -/
  close : ∀ x a, a.isParting = true → x.subscribed = false →
    Spec (holds (some x) a) (h.close x.client) (fun _ => holds none a)
      (failing fun _ => holds none a)
  /-- After the end of the stream all is calm once the client is given up. -/
  settle : ∀ s, holds none .ended s → holds none .calm s
  /-- The new client becomes the watcher's. -/
  adopt : ∀ client, Spec (holds none (.arrived client)) (Surroundings.openMailbox c.queueSize)
    (fun queue => holds (some { client, queue }) .due) never
  /-- A pass is made. -/
  survey : ∀ x, Spec (holds (some x) .due) (h.enumerate c.ports c.workers x.client)
    (fun t => holds (some x) (.bringing t)) (failing fun _ => holds (some x) .calm)
  /-- A table is published. -/
  publish : ∀ x t, Spec (holds (some x) (.bringing t)) (h.publish t) (fun _ => holds (some x) .calm)
    (failing fun _ => holds (some x) .raised)
  /-- The daemon is pinged. -/
  ping : ∀ x, Spec (holds (some x) .calm) (h.ping x.client) (fun _ => holds (some x) .calm)
    (failing fun _ => holds (some x) .failed)
  /-- The events are subscribed to, unless that was done already. -/
  add : ∀ x, x.subscribed = false → x.parted = false →
    Spec (holds (some x) .calm) (h.addListener x.client x.queue)
      (fun _ => holds (some x.listening) .calm)
      (failing fun f => match f with
        | .alreadySubscribed _ => holds (some x.listening) .calm
        | _ => holds (some x) .failed)
  /-- The mailbox is looked into. -/
  take : ∀ x, x.subscribed = true →
    Spec (holds (some x) .calm) (h.take x.queue c.pingInterval)
      (fun item => holds (some x) (.after item)) (failing fun _ => holds (some x) .raised)

/-! ## Saying more -/

/-- What else holds at the points of an outline, given what the outline says. -/
structure Outline.Beside {σ : Type} {h : Host σ} {c : WatchConfig} (o : Outline h c) where
  /-- What holds besides. -/
  more : Option Hold → Activity → Surroundings σ → Prop
  report : ∀ hold a e, a ≠ .raised →
    Spec (fun s => o.holds hold a s ∧ more hold a s) (h.report e) (fun _ => more hold a) never
  alarm : ∀ hold f, Spec (fun s => o.holds hold .raised s ∧ more hold .raised s)
    (h.report (Watcher.stepFailed f)) (fun _ => more hold .failed) never
  sleep : ∀ hold, Spec (fun s => o.holds hold .failed s ∧ more hold .failed s)
    (h.sleep c.reconnectInterval) (fun _ => more hold .calm) never
  connect : ∀ hold, Phase.disconnected.Fits hold →
    Spec (fun s => o.holds hold .calm s ∧ more hold .calm s) h.connect
      (fun client => more hold (.arrived client)) (failing fun _ => more hold .failed)
  remove : ∀ x a, a.isParting = true → x.subscribed = true →
    Spec (fun s => o.holds (some x) a s ∧ more (some x) a s) (h.removeListener x.client x.queue)
      (fun _ => more (some x.silent) a) (failing fun _ => more (some x.silent) a)
  close : ∀ x a, a.isParting = true → x.subscribed = false →
    Spec (fun s => o.holds (some x) a s ∧ more (some x) a s) (h.close x.client)
      (fun _ => more none a) (failing fun _ => more none a)
  settle : ∀ s, o.holds none .ended s → more none .ended s → more none .calm s
  adopt : ∀ client, Spec (fun s => o.holds none (.arrived client) s ∧ more none (.arrived client) s)
    (Surroundings.openMailbox c.queueSize) (fun queue => more (some { client, queue }) .due) never
  survey : ∀ x, Spec (fun s => o.holds (some x) .due s ∧ more (some x) .due s)
    (h.enumerate c.ports c.workers x.client) (fun t => more (some x) (.bringing t))
    (failing fun _ => more (some x) .calm)
  publish : ∀ x t, Spec (fun s => o.holds (some x) (.bringing t) s ∧ more (some x) (.bringing t) s)
    (h.publish t) (fun _ => more (some x) .calm) (failing fun _ => more (some x) .raised)
  ping : ∀ x, Spec (fun s => o.holds (some x) .calm s ∧ more (some x) .calm s) (h.ping x.client)
    (fun _ => more (some x) .calm) (failing fun _ => more (some x) .failed)
  add : ∀ x, x.subscribed = false → x.parted = false →
    Spec (fun s => o.holds (some x) .calm s ∧ more (some x) .calm s)
      (h.addListener x.client x.queue) (fun _ => more (some x.listening) .calm)
      (failing fun f => match f with
        | .alreadySubscribed _ => more (some x.listening) .calm
        | _ => more (some x) .failed)
  take : ∀ x, x.subscribed = true → Spec (fun s => o.holds (some x) .calm s ∧ more (some x) .calm s)
    (h.take x.queue c.pingInterval) (fun item => more (some x) (.after item))
    (failing fun _ => more (some x) .raised)

namespace Outline

variable {σ α : Type}

/-- Both are known after an act. -/
theorem both_of_failing {P P' : Surroundings σ → Prop} {act : Act (Surroundings σ) α}
    {Q Q' : α → Surroundings σ → Prop} {X X' : Fault → Surroundings σ → Prop}
    (h : Spec P act Q (failing X)) (h' : Spec (fun s => P s ∧ P' s) act Q' (failing X')) :
    Spec (fun s => P s ∧ P' s) act (fun a s => Q a s ∧ Q' a s)
      (failing fun f s => X f s ∧ X' f s) :=
  (h.and h').mono (fun _ hs => ⟨hs.1, hs⟩) (fun _ _ hs => hs) fun _ _ hs => ⟨hs.1.1, hs.1.2, hs.2.2⟩

/-- Both are known after an act that does not stop. -/
theorem both_of_never {P P' : Surroundings σ → Prop} {act : Act (Surroundings σ) α}
    {Q Q' : α → Surroundings σ → Prop} (h : Spec P act Q never)
    (h' : Spec (fun s => P s ∧ P' s) act Q' never) :
    Spec (fun s => P s ∧ P' s) act (fun a s => Q a s ∧ Q' a s) never :=
  (h.and h').mono (fun _ hs => ⟨hs.1, hs⟩) (fun _ _ hs => hs) fun _ _ hs => hs.1

/-- The outline that says both. -/
def Beside.outline {h : Host σ} {c : WatchConfig} {o : Outline h c} (b : o.Beside) :
    Outline h c where
  holds hold a s := o.holds hold a s ∧ b.more hold a s
  report hold a e ha := both_of_never (o.report hold a e ha) (b.report hold a e ha)
  alarm hold f := both_of_never (o.alarm hold f) (b.alarm hold f)
  sleep hold := both_of_never (o.sleep hold) (b.sleep hold)
  connect hold hfit := both_of_failing (o.connect hold hfit) (b.connect hold hfit)
  remove x a ha hx := both_of_failing (o.remove x a ha hx) (b.remove x a ha hx)
  close x a ha hx := both_of_failing (o.close x a ha hx) (b.close x a ha hx)
  settle s hs := ⟨o.settle s hs.1, b.settle s hs.1 hs.2⟩
  adopt client := both_of_never (o.adopt client) (b.adopt client)
  survey x := both_of_failing (o.survey x) (b.survey x)
  publish x t := both_of_failing (o.publish x t) (b.publish x t)
  ping x := both_of_failing (o.ping x) (b.ping x)
  add x hx hp := by
    refine (both_of_failing (o.add x hx hp) (b.add x hx hp)).post (fun _ _ hs => hs) fun f s hs => ⟨hs.1, ?_⟩
    cases f <;> exact hs.2
  take x hx := both_of_failing (o.take x hx) (b.take x hx)

end Outline

/-! ## Rules for the watcher's acts -/

namespace Watcher

variable {σ α : Type} {w : Watcher} {P : Surroundings σ → Prop}

/-- The watcher is in a state, and its surroundings are as said. -/
def Stands (w : Watcher) (P : Surroundings σ → Prop) : Machine σ → Prop :=
  fun m => m.watcher = w ∧ P m.outside

/-- A call leaves the state of the watcher alone. -/
theorem call_spec {act : Act (Surroundings σ) α} {Q : α → Surroundings σ → Prop}
    {X : Fault → Surroundings σ → Prop} (h : Spec P act Q (failing X)) :
    Spec (Stands w P) (call act) (fun a => Stands w (Q a)) (failing fun f => Stands w (X f)) :=
  h.within (fun _ hm => hm.2) (fun _ _ _ hm hq => ⟨hm.1, hq⟩) fun _ _ _ hm hx => ⟨hx.1, hm.1, hx.2⟩

/-- A call that does not fail. -/
theorem call_safe {act : Act (Surroundings σ) α} {Q : α → Surroundings σ → Prop}
    (h : Spec P act Q never) : Spec (Stands w P) (call act) (fun a => Stands w (Q a)) never :=
  h.within (fun _ hm => hm.2) (fun _ _ _ hm hq => ⟨hm.1, hq⟩) fun _ _ _ _ hx => hx

/-- The state of the watcher is read before something is done. -/
theorem state_bind {next : Watcher → Act (Machine σ) α} {Q : α → Machine σ → Prop}
    {E : Fault → Machine σ → Prop} (h : Spec (Stands w P) (next w) Q E) :
    Spec (Stands w P) (state >>= next) Q E := by
  refine Spec.bind (R := fun v m => v = w ∧ Stands w P m) ?_ fun v => ?_
  · exact Spec.gets fun m hm => ⟨hm.1, hm⟩
  · refine Spec.of_fact fun hv => ?_
    rw [hv]
    exact h

/-- The state of the watcher is changed. -/
theorem change_spec {f : Watcher → Watcher} {E : Fault → Machine σ → Prop} :
    Spec (Stands w P) (change f) (fun _ => Stands (f w) P) E :=
  Spec.update fun _ hm => ⟨congrArg f hm.1, hm.2⟩

/-- A connection is given up: its listener is taken off, if there is one, and its client is closed. -/
theorem dropClient_drops {h : Host σ} {Q R : Surroundings σ → Prop} (phase : Phase)
    (hold : Option Hold)
    (hremove : ∀ x, hold = some x → x.subscribed = true →
      Spec P (h.removeListener x.client x.queue) (fun _ => R) (failing fun _ => R))
    (hsilent : (∀ x, hold = some x → x.subscribed = false) → ∀ s, P s → R s)
    (hclose : ∀ x, hold = some x → Spec R (h.close x.client) (fun _ => Q) (failing fun _ => Q))
    (hnone : hold = none → ∀ s, R s → Q s)
    (hR : ∀ e, Spec R (h.report e) (fun _ => R) never)
    (hQ : ∀ e, Spec Q (h.report e) (fun _ => Q) never) :
    Spec (Stands (holding phase hold) P) (dropClient h) (fun _ => Stands (holding phase none) Q)
      never := by
  have unsubscribed : Spec (Stands (holding phase hold) P) (unsubscribe h)
      (fun _ => Stands (holding phase hold) R) never := by
    refine state_bind ?_
    match hold with
    | none => exact Spec.pure fun m hm => ⟨hm.1, hsilent nofun _ hm.2⟩
    | some ⟨client, queue, false, parted⟩ =>
      refine Spec.pure fun m hm => ⟨hm.1, hsilent ?_ _ hm.2⟩
      rintro _ ⟨⟩
      rfl
    | some ⟨client, queue, true, parted⟩ =>
      refine Spec.bind (call_spec (hremove _ rfl rfl)).attempt fun r => ?_
      cases r with
      | ok u => exact Spec.pure fun _ hm => hm
      | error f => exact call_safe (hR _)
  have closed : Spec (Stands (holding phase hold) R) (closeClient h)
      (fun _ => Stands (holding phase hold) Q) never := by
    refine state_bind ?_
    match hold with
    | none => exact Spec.pure fun m hm => ⟨hm.1, hnone rfl _ hm.2⟩
    | some x =>
      refine Spec.bind (call_spec (hclose x rfl)).attempt fun r => ?_
      cases r with
      | ok u => exact Spec.pure fun _ hm => hm
      | error f => exact call_safe (hQ _)
  exact Spec.bind unsubscribed fun _ => Spec.bind closed fun _ => change_spec

end Watcher

/-- The machines that a watcher comes to from `m₀`, between its transitions: it may make single
transitions or runs, and in between the surroundings move as `R` says. -/
inductive Watcher.Reachable {σ : Type} (h : Host σ) (c : WatchConfig)
    (R : Surroundings σ → Surroundings σ → Prop) (m₀ : Machine σ) : Machine σ → Prop where
  | start : Reachable h c R m₀ m₀
  /-- A transition, whether it fails or not. -/
  | step {m : Machine σ} (hm : Reachable h c R m₀ m) :
      Reachable h c R m₀ ((Watcher.step h c).outcome m).2
  /-- A run of any number of transitions, whether it comes to its end or not. -/
  | ran {m : Machine σ} (hm : Reachable h c R m₀ m) (rounds : Nat) :
      Reachable h c R m₀ ((Watcher.run h c rounds).outcome m).2
  /-- Something happens in the surroundings. -/
  | meanwhile {m : Machine σ} (hm : Reachable h c R m₀ m) {s : Surroundings σ}
      (hs : R m.outside s) : Reachable h c R m₀ { m with outside := s }

/-- A run before it gives everything up. -/
def Watcher.underway {σ : Type} (h : Host σ) (c : WatchConfig) (rounds : Nat) :
    Act (Machine σ) Bool := do
  Watcher.report h (.plain "INFO" "Event watcher started")
  Watcher.loop h c rounds

namespace Outline

open Watcher (Stands holding call_spec call_safe state_bind change_spec)

variable {σ : Type} {h : Host σ} {c : WatchConfig} (o : Outline h c)

/-- The watcher is in a phase, with a connection and an activity. -/
def At (phase : Phase) (hold : Option Hold) (a : Activity) : Machine σ → Prop :=
  Stands (holding phase hold) (o.holds hold a)

/-- The watcher is between two transitions. -/
def Calm (m : Machine σ) : Prop := ∃ phase hold, phase.Fits hold ∧ o.At phase hold .calm m

/-- A watcher that has not begun is calm. -/
theorem calm_of_fresh {m : Machine σ} (hw : m.watcher = {}) (hm : o.holds none .calm m.outside) :
    o.Calm m := by
  refine ⟨.disconnected, none, ?_, hw, hm⟩
  rintro _ ⟨⟩

/-- A failure stopped the watcher. -/
def Raised (m : Machine σ) : Prop := ∃ phase hold, phase.Fits hold ∧ o.At phase hold .raised m

/-! ## Parts of the transitions -/

theorem reportFault_spec {hold : Option Hold} {a : Activity} (ha : a ≠ .raised) (w : Watcher)
    (level what : String) (f : Fault) :
    Spec (Stands w (o.holds hold a)) (Watcher.reportFault h level what f)
      (fun _ => Stands w (o.holds hold a)) never :=
  call_safe (o.report hold a _ ha)

/-- Giving up whatever connection there is. -/
theorem dropClient_spec (phase : Phase) (hold : Option Hold) {a : Activity} (ha : a.isParting = true) :
    Spec (o.At phase hold a) (Watcher.dropClient h) (fun _ => o.At phase none a) never := by
  have hr : a ≠ .raised := by
    rintro rfl
    cases ha
  refine Watcher.dropClient_drops (R := o.holds (hold.map Hold.silent) a) phase hold ?_ ?_ ?_ ?_
    (fun e => o.report _ a e hr) fun e => o.report _ a e hr
  · rintro x rfl hx
    exact o.remove x a ha hx
  · intro hsilent s hs
    cases hold with
    | none => exact hs
    | some x => rwa [Option.map_some, Hold.silent_of_silent (hsilent x rfl)]
  · rintro x rfl
    exact o.close x.silent a ha rfl
  · rintro rfl s hs
    exact hs

/-- Making a pass and publishing its table. -/
theorem refresh_spec (phase : Phase) (x : Hold) :
    Spec (o.At phase (some x) .due) (Watcher.refresh h c) (fun _ => o.At phase (some x) .calm)
      (failing fun _ => o.At phase (some x) .raised) := by
  refine state_bind ?_
  refine Spec.bind (call_spec (o.survey x)).attempt fun r => ?_
  cases r with
  | ok t =>
    refine Spec.bind (call_safe (o.report _ _ _ (by simp))).safe fun _ => ?_
    refine Spec.bind (call_spec (o.publish x t)) fun _ => ?_
    exact Spec.pure fun _ hm => hm
  | error f =>
    -- a pass that fails is only reported; a consumer that fails stops the transition
    refine Spec.bind (o.reportFault_spec (by simp) _ _ _ f).safe fun _ => ?_
    exact Spec.pure fun _ hm => hm

/-- A ping that fails costs the connection, and a wait. -/
theorem ping_spec (phase : Phase) (x : Hold) :
    Spec (o.At phase (some x) .calm) (Watcher.ping h c x.client)
      (fun alive => o.At phase (if alive then some x else none) .calm) never := by
  refine Spec.bind (call_spec (o.ping x)).attempt fun r => ?_
  cases r with
  | ok u => exact Spec.pure fun _ hm => hm
  | error f =>
    refine Spec.bind (o.reportFault_spec (by simp) _ _ _ f) fun _ => ?_
    refine Spec.bind (o.dropClient_spec phase (some x) rfl) fun _ => ?_
    refine Spec.bind (call_safe (o.sleep none)) fun _ => ?_
    exact Spec.pure fun _ hm => hm

/-! ## The transitions -/

/-- After a transition that gave a phase, there is a connection that goes with it. -/
def Reached (phase next : Phase) (m : Machine σ) : Prop :=
  ∃ hold, next.Fits hold ∧ o.At phase hold .calm m

theorem fromDisconnected_spec {hold : Option Hold} (hfit : Phase.disconnected.Fits hold) :
    Spec (o.At .disconnected hold .calm) (Watcher.fromDisconnected h c)
      (fun next => o.Reached .disconnected next) (failing fun _ => o.Raised) := by
  refine Spec.bind (call_spec (o.connect hold hfit)).attempt fun r => ?_
  cases r with
  | error f =>
    refine Spec.bind (o.reportFault_spec (by simp) _ _ _ f).safe fun _ => ?_
    refine Spec.bind (call_safe (o.sleep hold)).safe fun _ => ?_
    exact Spec.pure fun m hm => ⟨hold, hfit, hm⟩
  | ok client =>
    -- a consumer that failed may have left a connection behind
    refine Spec.bind (o.dropClient_spec .disconnected hold rfl).safe fun _ => ?_
    refine Spec.bind (call_safe (o.adopt client)).safe fun queue => ?_
    refine Spec.bind change_spec fun _ => ?_
    refine Spec.bind (call_safe (o.report _ _ _ (by simp))).safe fun _ => ?_
    refine Spec.bind (R := fun _ => o.At .disconnected (some { client, queue }) .calm) ?_ fun _ => ?_
    · refine (o.refresh_spec .disconnected { client, queue }).post (fun _ _ hm => hm) fun f m hm => ?_
      refine ⟨hm.1, .disconnected, some { client, queue }, ?_, hm.2⟩
      rintro x ⟨⟩
      rfl
    · exact Spec.pure fun m hm => ⟨some { client, queue }, ⟨_, rfl, rfl, rfl⟩, hm⟩

theorem subscribe_spec {x : Hold} (hx : x.subscribed = false) (hp : x.parted = false) :
    Spec (o.At .idle (some x) .calm) (Watcher.subscribe h c x.client x.queue)
      (fun next => o.Reached .idle next) (failing fun _ => o.Raised) := by
  have subscribed : Spec (Stands (holding .idle (some x)) (o.holds (some x.listening) .calm))
      (do
        Watcher.change fun w => { w with subscribed := true }
        Watcher.report h (.plain "INFO" "Watching docker events")
        return Phase.watching) (fun next => o.Reached .idle next) (failing fun _ => o.Raised) := by
    refine Spec.bind change_spec fun _ => ?_
    refine Spec.bind (call_safe (o.report _ _ _ (by simp))).safe fun _ => ?_
    exact Spec.pure fun m hm => ⟨some x.listening, ⟨_, rfl, rfl⟩, hm⟩
  refine Spec.bind (call_spec (o.add x hx hp)).attempt fun r => ?_
  match r with
  | .ok () => exact subscribed
  | .error f =>
    cases f with
    | alreadySubscribed _ =>
      -- the mailbox is registered anyway, which is all that is wanted
      exact subscribed
    | _ =>
      refine Spec.bind (o.reportFault_spec (by simp) _ _ _ _).safe fun _ => ?_
      refine Spec.bind (call_safe (o.sleep (some x))).safe fun _ => ?_
      exact Spec.pure fun m hm => ⟨some x, ⟨x, rfl, hx, hp⟩, hm⟩

theorem fromIdle_spec {x : Hold} (hx : x.subscribed = false) (hp : x.parted = false) :
    Spec (o.At .idle (some x) .calm) (Watcher.fromIdle h c) (fun next => o.Reached .idle next)
      (failing fun _ => o.Raised) := by
  refine state_bind ?_
  refine Spec.bind (o.ping_spec .idle x).safe fun alive => ?_
  cases alive with
  | true => exact o.subscribe_spec hx hp
  | false =>
    refine Spec.pure fun m hm => ⟨none, ?_, hm⟩
    rintro _ ⟨⟩

theorem receive_spec {x : Hold} (hx : x.subscribed = true) (item : Option (Option Event)) :
    Spec (o.At .watching (some x) (.after item)) (Watcher.receive h c item)
      (fun next => o.Reached .watching next) (failing fun _ => o.Raised) := by
  match item with
  | none => exact Spec.pure fun m hm => ⟨some x, ⟨x, rfl, hx⟩, hm⟩
  | some none =>
    refine Spec.bind (call_safe (o.report _ _ _ (by simp [Activity.after]))).safe fun _ => ?_
    refine Spec.bind (o.dropClient_spec .watching (some x) rfl).safe fun _ => ?_
    refine Spec.pure fun m hm => ⟨none, ?_, hm.1, o.settle _ hm.2⟩
    rintro _ ⟨⟩
  | some (some e) =>
    cases hs : e.status.isOneOf Event.lifecycle with
    | error f =>
      rw [Activity.after_of_error hs]
      -- the event is lost, and the watcher goes on waiting after the failure
      refine Spec.ofExcept_fail hs fun m hm => ?_
      exact ⟨Json.isOneOf_ordinary _ _ f hs, .watching, some x, ⟨x, rfl, hx⟩, hm⟩
    | ok isLifecycle =>
      refine Spec.ofExcept_bind hs ?_
      cases isLifecycle with
      | false =>
        rw [Activity.after_of_other hs]
        exact Spec.pure fun m hm => ⟨some x, ⟨x, rfl, hx⟩, hm⟩
      | true =>
        cases hid : e.containerId.short with
        | error f =>
          rw [Activity.after_of_nameless hs hid]
          refine Spec.ofExcept_fail rfl fun m hm => ?_
          exact ⟨Json.short_ordinary _ f hid, .watching, some x, ⟨x, rfl, hx⟩, hm⟩
        | ok short =>
          rw [Activity.after_of_lifecycle hs hid]
          refine Spec.ofExcept_bind rfl ?_
          refine Spec.bind (call_safe (o.report _ _ _ (by simp))).safe fun _ => ?_
          refine Spec.bind (R := fun _ => o.At .watching (some x) .calm) ?_ fun _ => ?_
          · refine (o.refresh_spec .watching x).post (fun _ _ hm => hm) fun f m hm => ?_
            exact ⟨hm.1, .watching, some x, ⟨x, rfl, hx⟩, hm.2⟩
          · exact Spec.pure fun m hm => ⟨some x, ⟨x, rfl, hx⟩, hm⟩

theorem fromWatching_spec {x : Hold} (hx : x.subscribed = true) :
    Spec (o.At .watching (some x) .calm) (Watcher.fromWatching h c)
      (fun next => o.Reached .watching next) (failing fun _ => o.Raised) := by
  refine state_bind ?_
  refine Spec.bind (o.ping_spec .watching x).safe fun alive => ?_
  cases alive with
  | true =>
    refine Spec.bind (R := fun item => o.At .watching (some x) (.after item)) ?_ fun item =>
      o.receive_spec hx item
    refine (call_spec (o.take x hx)).post (fun _ _ hm => hm) fun f m hm => ?_
    exact ⟨hm.1, .watching, some x, ⟨x, rfl, hx⟩, hm.2⟩
  | false =>
    refine Spec.pure fun m hm => ⟨none, ?_, hm⟩
    rintro _ ⟨⟩

/-! ## Transitions and runs -/

/-- **What holds of a calm watcher is kept by every transition.** -/
theorem step_spec : Spec o.Calm (Watcher.step h c) (fun _ => o.Calm) (failing fun _ => o.Raised) := by
  rintro m ⟨phase, hold, hfit, hm⟩
  have finish (next : Phase) : Spec (o.Reached phase next)
      (do
        Watcher.change fun w => { w with phase := next }
        return next) (fun _ => o.Calm) (failing fun _ => o.Raised) := by
    refine Spec.bind (R := fun _ => o.Calm) ?_ fun _ => Spec.pure fun m hm => hm
    rintro m ⟨hold, hfit, hw, ho⟩
    exact ⟨next, hold, hfit, congrArg (fun w => { w with phase := next }) hw, ho⟩
  have whole : Spec (o.At phase hold .calm) (Watcher.step h c) (fun _ => o.Calm)
      (failing fun _ => o.Raised) := by
    refine state_bind ?_
    cases phase with
    | disconnected => exact Spec.bind (o.fromDisconnected_spec hfit) finish
    | idle =>
      obtain ⟨x, rfl, hx, hp⟩ := hfit
      exact Spec.bind (o.fromIdle_spec hx hp) finish
    | watching =>
      obtain ⟨x, rfl, hx⟩ := hfit
      exact Spec.bind (o.fromWatching_spec hx) finish
  exact whole m hm

/-- A transition whose failure is reported leaves the watcher calm. -/
theorem round_spec : Spec o.Calm (Watcher.round h c) (fun _ => o.Calm) never := by
  refine Spec.bind o.step_spec.attempt fun r => ?_
  cases r with
  | ok phase => exact Spec.pure fun _ hm => hm
  | error f =>
    -- the phase is still the one from which the transition began
    rintro m ⟨phase, hold, hfit, hm⟩
    refine Spec.bind (P := o.At phase hold .raised) (Q := fun _ => o.Calm)
      (call_safe (o.alarm hold f)) (fun _ => ?_) m hm
    exact (call_safe (o.sleep hold)).post (fun _ m hm => ⟨phase, hold, hfit, hm⟩) fun _ _ he => he

/-- So do transitions until a stop is requested. -/
theorem loop_spec (rounds : Nat) :
    Spec o.Calm (Watcher.loop h c rounds) (fun _ => o.Calm) never := by
  induction rounds with
  | zero => exact Spec.gets fun _ hm => hm
  | succ n ih =>
    refine Spec.bind (R := fun _ => o.Calm) (Spec.read fun _ hm => hm) fun m => ?_
    split
    · exact Spec.pure fun _ hm => hm
    · exact Spec.bind o.round_spec fun _ => ih

/-- Between its transitions a run is calm. -/
theorem underway_spec (rounds : Nat) :
    Spec o.Calm (Watcher.underway h c rounds) (fun _ => o.Calm) never := by
  refine Spec.bind (R := fun _ => o.Calm) ?_ fun _ => o.loop_spec rounds
  rintro m ⟨phase, hold, hfit, hm⟩
  exact (call_safe (o.report hold .calm _ (by simp))).post
    (fun _ m hm => ⟨phase, hold, hfit, hm⟩) (fun _ _ he => he) m hm

/-- **A run that comes to its end leaves no connection.** -/
theorem run_spec (rounds : Nat) :
    Spec o.Calm (Watcher.run h c rounds)
      (fun stopped m => if stopped then o.At .disconnected none .calm m else o.Calm m) never := by
  have parts : Watcher.run h c rounds = (do
      if ← Watcher.underway h c rounds then
        Watcher.dropClient h
        Watcher.change fun w => { w with phase := .disconnected }
        Watcher.report h (.plain "INFO" "Event watcher stopped")
        return true
      return false) := by
    simp only [Watcher.run, Watcher.underway, bind_assoc]
  rw [parts]
  -- what there is of a connection is given up only if a stop was requested
  refine Spec.bind (o.underway_spec rounds) fun stopped => ?_
  cases stopped with
  | false => exact Spec.pure fun _ hm => hm
  | true =>
    rintro m ⟨phase, hold, hfit, hm⟩
    refine Spec.bind (P := o.At phase hold .calm) (o.dropClient_spec phase hold rfl) (fun _ => ?_) m hm
    refine Spec.bind change_spec fun _ => ?_
    refine Spec.bind (call_safe (o.report _ _ _ (by simp))) fun _ => ?_
    exact Spec.pure fun _ hm => hm

/-! ## Whatever a watcher comes to -/

/-- Between its transitions, a watcher with nothing left to do after a failure is calm wherever it
comes to. -/
theorem calm_of_reachable {R : Surroundings σ → Surroundings σ → Prop} {m₀ m : Machine σ}
    (hstart : o.Calm m₀) (hraised : ∀ hold s, o.holds hold .raised s → o.holds hold .calm s)
    (hR : ∀ hold s t, R s t → o.holds hold .calm s → o.holds hold .calm t)
    (h : Watcher.Reachable h c R m₀ m) : o.Calm m := by
  induction h with
  | start => exact hstart
  | step hm ih =>
    refine (o.step_spec.post (fun _ _ hm => hm) ?_).after ih
    rintro f m ⟨-, phase, hold, hfit, hw, hm⟩
    exact ⟨phase, hold, hfit, hw, hraised hold _ hm⟩
  | ran hm rounds ih =>
    refine ((o.run_spec rounds).post (fun stopped m hm => ?_) fun _ _ he => he.elim).after ih
    cases stopped with
    | false => exact hm
    | true => exact o.calm_of_fresh hm.1 hm.2
  | meanwhile hm hs ih =>
    obtain ⟨phase, hold, hfit, hw, hm⟩ := ih
    exact ⟨phase, hold, hfit, hw, hR hold _ _ hs hm⟩

end Outline

end HostRouting
