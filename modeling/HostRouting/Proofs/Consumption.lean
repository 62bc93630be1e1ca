import HostRouting.Proofs.Interruption
import Mathlib.Logic.Function.Iterate

/-!
# How a watcher consumes what waits for it

Between two pings the watcher waits for an event. Any number may be configured for how long, also one
below zero, and with such a one the wait fails whatever is in the mailbox: then nothing is ever
consumed. With every other number a transition consumes the oldest item, if there is one, and the
number does not matter.
-/

namespace HostRouting

open Act (Spec Leaves never recovered)

namespace Watcher

/-! ## A transition, from the ping to the item -/

section

variable {σ : Type} {k : Host σ} {c : WatchConfig} {m : Machine σ} {x : Hold}
  {s u : Surroundings σ}

/-- The new phase is entered at the end of a transition. -/
def enter (phase : Phase) : Act (Machine σ) Phase := do
  change fun w => { w with phase }
  return phase

theorem outcome_state (m : Machine σ) :
    (state : Act (Machine σ) Watcher).outcome m = (.ok m.watcher, m) := by
  rw [state, Act.outcome_gets]

/-- A call leaves the watcher as it is. -/
theorem outcome_call {α : Type} {act : Act (Surroundings σ) α} {r : Except Fault α}
    (hact : act.outcome m.outside = (r, s)) :
    (call act).outcome m = (r, { m with outside := s }) := by
  rw [call, Act.outcome_within, hact]

/-- A client that answers is kept. -/
theorem outcome_ping (hping : (k.ping x.client).outcome m.outside = (.ok (), s)) :
    (ping k c x.client).outcome m = (.ok true, { m with outside := s }) := by
  rw [ping, Act.outcome_bind, Act.outcome_attempt, outcome_call hping]
  rfl

/-- A watcher whose daemon answers looks into its mailbox. -/
theorem outcome_fromWatching (hm : m.watcher = holding .watching (some x))
    (hping : (k.ping x.client).outcome m.outside = (.ok (), s)) :
    (fromWatching k c).outcome m =
      (call (k.take x.queue c.pingInterval) >>= receive k c).outcome { m with outside := s } := by
  rw [fromWatching, Act.outcome_bind, outcome_state, hm]
  show (ping k c x.client >>= _).outcome m = _
  rw [Act.outcome_bind, outcome_ping hping, hm]
  rfl

/-- The transition goes on with what comes out of the mailbox, or fails with it. -/
theorem outcome_step (hm : m.watcher = holding .watching (some x))
    (hping : (k.ping x.client).outcome m.outside = (.ok (), s))
    {r : Except Fault (Option (Option Event))}
    (htake : (k.take x.queue c.pingInterval).outcome s = (r, u)) :
    (step k c).outcome m =
      (Act.ofExcept r >>= receive k c >>= enter).outcome { m with outside := u } := by
  rw [step, Act.outcome_bind, outcome_state, hm]
  show (fromWatching k c >>= enter).outcome m = _
  rw [Act.outcome_bind, outcome_fromWatching hm hping, Act.outcome_bind, outcome_call htake,
    Act.outcome_bind, Act.outcome_bind, Act.outcome_ofExcept, hm]

end

/-! ## What the journal says was consumed -/

/-- The item that came out of the mailbox. -/
def Deed.taken? : Deed → Option (Option Event)
  | took item => item
  | _ => none

section

variable {σ α : Type} {call : Call} {answer : α → Deed} {act : Act (Surroundings σ) α}
  {q : QueueId} {eaten items : List (Option Event)}

/-- What the watcher took out of its mailboxes, the latest last. -/
def consumed (s : Surroundings (Recorded σ)) : List (Option Event) :=
  s.rest.journal.filterMap Deed.taken?

theorem consumed_write (d : Deed) (s : Surroundings (Recorded σ)) :
    consumed (s.write d) = consumed s ++ d.taken?.toList := by
  show (s.rest.journal ++ [d]).filterMap Deed.taken? = _
  rw [List.filterMap_append]
  cases h : d.taken? <;> simp [consumed, h]

/-- A call writes what came of it, whatever it did besides. -/
theorem consumed_ended (call : Call) (d : Deed) (s : Surroundings (Recorded σ))
    (t : Surroundings σ) :
    consumed ((t.recordedBeside (s.write (.began call))).write d) =
      consumed s ++ d.taken?.toList := by
  have hbegan : consumed (s.write (.began call)) = consumed s := by
    rw [consumed_write]
    exact List.append_nil _
  rw [consumed_write, ← hbegan]
  rfl

/-- How a recorded act ends. -/
theorem outcome_recorded (call : Call) (answer : α → Deed) (act : Act (Surroundings σ) α)
    (s : Surroundings (Recorded σ)) :
    (act.recorded call answer).outcome s =
      match act.outcome s.unrecorded with
      | (.ok a, t) => (.ok a, (t.recordedBeside (s.write (.began call))).write (answer a))
      | (.error f, t) =>
        (.error f, (t.recordedBeside (s.write (.began call))).write (.failed call f)) := by
  have hbegun : (s.write (.began call)).unrecorded = s.unrecorded := rfl
  simp only [Act.recorded, Act.noted, Act.outcome_bind, Act.outcome_update, Act.outcome_result,
    Act.outcome_within, hbegun]
  rcases act.outcome s.unrecorded with ⟨a | f, t⟩ <;> rfl

/-- Nothing is consumed by other calls than to look into a mailbox. -/
theorem consumed_leaves (act : Act (Surroundings σ) α) (hanswer : ∀ a, (answer a).taken? = none) :
    Leaves (fun s => consumed s = eaten) (act.recorded call answer) := by
  have hnew (j : List Deed) (d : Deed) (hd : d.taken? = none)
      (hj : j.filterMap Deed.taken? = eaten) :
      (j ++ [.began call, d]).filterMap Deed.taken? = eaten := by
    have hbegan : (Deed.began call).taken? = none := rfl
    simp [hj, hd, hbegan]
  exact Act.Spec.recorded (F := fun _ => True) (P := fun j => j.filterMap Deed.taken? = eaten)
    (Q := fun _ j => j.filterMap Deed.taken? = eaten)
    (E := fun _ j => j.filterMap Deed.taken? = eaten) (any_outcome act)
    (fun a j hj => hnew j _ (hanswer a) hj) fun f j _ hj => hnew j _ rfl hj

/-- These items wait in the mailbox before all others. -/
abbrev Queued (q : QueueId) (items : List (Option Event)) (s : Surroundings σ) : Prop :=
  items <+: (s.mailbox q).items

/-- This was consumed, and these items wait. -/
structure Waiting (q : QueueId) (eaten items : List (Option Event))
    (s : Surroundings (Recorded σ)) : Prop where
  consumed : consumed s = eaten
  queued : Queued q items s

/-- What waits still waits after a call that spares it, and nothing was consumed. -/
theorem waiting_leaves (hact : Leaves (Queued q items) act)
    (hanswer : ∀ a, (answer a).taken? = none) :
    Leaves (Waiting q eaten items) (act.recorded call answer) := by
  have within : Leaves (Queued q items)
      (act.within Surroundings.unrecorded Surroundings.recordedBeside) :=
    hact.within (fun _ hs => hs) (fun _ _ _ _ hs => hs) fun _ _ _ _ hs => hs
  -- to write in the journal changes no mailbox
  have hqueued : Leaves (Queued q items) (act.recorded call answer) :=
    Act.Spec.noted within (fun _ hs => hs) (fun _ _ hs => hs) fun _ _ hs => hs
  exact ((consumed_leaves act hanswer).and hqueued).mono (fun _ hs => ⟨hs.consumed, hs.queued⟩)
    (fun _ _ hs => ⟨hs.1, hs.2⟩) fun _ _ hs => ⟨hs.1, hs.2⟩

end

/-! ## Looking into the mailbox -/

section

variable {σ : Type} {t : Number.Binary64} {q : QueueId} {eaten items : List (Option Event)}
  {item : Option Event} {s : Surroundings (Recorded σ)}

/-- A mailbox with an item gives it whatever the interval, unless that is below zero. -/
theorem take_of_cons (ht : t.isBelowZero = false) {m : Mailbox} (hm : m.items = item :: items) :
    m.take (.seconds t) = (.ok (some item), { m with items }) := by
  rw [Mailbox.take, if_neg (by simp [ht]), hm]

/-- With an interval below zero it gives nothing. -/
theorem take_of_negative (ht : t.isBelowZero = true) (m : Mailbox) :
    m.take (.seconds t) = (.error .negativeWait, m) := by
  rw [Mailbox.take, if_pos ht]

/-- While something waits, the numbers that are not below zero all come to the same. -/
theorem take_interval {t' : Number.Binary64} (ht : t.isBelowZero = false)
    (ht' : t'.isBelowZero = false) {s : Surroundings σ} (hs : (s.mailbox q).items = item :: items) :
    (Surroundings.take q (.seconds t')).outcome s = (Surroundings.take q (.seconds t)).outcome s := by
  rw [Surroundings.take, Surroundings.take, Act.outcome_ofOutcome, Act.outcome_ofOutcome,
    take_of_cons ht hs, take_of_cons ht' hs]

/-- A mailbox with items is one of those that are there. -/
theorem lt_length_of_items {s : Surroundings σ} (h : (s.mailbox q).items ≠ []) :
    q < s.mailboxes.length := by
  by_contra hq
  apply h
  rw [Surroundings.mailbox, List.getElem?_eq_none (Nat.le_of_not_lt hq)]
  rfl

/-- The watcher's look into its mailbox, with a number that is not below zero. -/
theorem recorded_take_of_cons (ht : t.isBelowZero = false)
    (hs : Waiting q eaten (item :: items) s) :
    ∃ u, ((Surroundings.take q (.seconds t)).recorded (.take q) .took).outcome s =
        (.ok (some item), u) ∧ Waiting q (eaten ++ [item]) items u := by
  obtain ⟨later, hlater⟩ := hs.queued
  have hitems : (s.unrecorded.mailbox q).items = item :: (items ++ later) := hlater.symm
  have htake : (Surroundings.take q (.seconds t)).outcome s.unrecorded = (.ok (some item),
      s.unrecorded.setMailbox q { s.unrecorded.mailbox q with items := items ++ later }) := by
    rw [Surroundings.take, Act.outcome_ofOutcome, take_of_cons ht hitems]
  rw [outcome_recorded, htake]
  refine ⟨_, rfl, ?_, ?_⟩
  · rw [consumed_ended, hs.consumed]
    rfl
  · show items <+: ((s.unrecorded.setMailbox q
      { s.unrecorded.mailbox q with items := items ++ later }).mailbox q).items
    rw [Surroundings.mailbox_setMailbox _ _ _ _ (lt_length_of_items (by simp [hitems])), if_pos rfl]
    exact List.prefix_append items later

/-- The watcher's look into its mailbox, with a number below zero. -/
theorem recorded_take_of_negative (ht : t.isBelowZero = true) (hs : Waiting q eaten items s) :
    ∃ u, ((Surroundings.take q (.seconds t)).recorded (.take q) .took).outcome s =
        (.error .negativeWait, u) ∧ Waiting q eaten items u := by
  have htake : (Surroundings.take q (.seconds t)).outcome s.unrecorded =
      (.error .negativeWait, s.unrecorded) := by
    rw [Surroundings.take, Act.outcome_ofOutcome, take_of_negative ht]
    exact congrArg _ (Surroundings.setMailbox_mailbox s.unrecorded q)
  rw [outcome_recorded, htake]
  refine ⟨_, rfl, ?_, hs.queued⟩
  rw [consumed_ended, hs.consumed]
  exact List.append_nil _

end

/-! ## What becomes of the item -/

/-- These items go on waiting while a watcher makes the calls for its connection, besides its looks
into the mailbox: nobody else takes one of them out. -/
structure Spares {σ : Type} (items : List (Option Event)) (h : Host σ) (x : Hold) : Prop where
  ping : Leaves (Queued x.queue items) (h.ping x.client)
  list : Leaves (Queued x.queue items) (h.list x.client)
  inspect : ∀ id, Leaves (Queued x.queue items) (h.inspect x.client id)
  publish : ∀ t, Leaves (Queued x.queue items) (h.publish t)
  report : ∀ e, Leaves (Queued x.queue items) (h.report e)

/-- There is nothing to spare where nothing is asked to wait. -/
theorem spares_nil {σ : Type} (h : Host σ) (x : Hold) : Spares [] h x := by
  have spared {α : Type} (act : Act (Surroundings σ) α) : Leaves (Queued x.queue []) act :=
    (any_outcome act).mono (fun _ _ => trivial) (fun _ _ _ => List.nil_prefix)
      fun _ _ _ => List.nil_prefix
  exact ⟨spared _, spared _, fun _ => spared _, fun _ => spared _, fun _ => spared _⟩

section

variable {σ α : Type} {h : Host σ} {c : WatchConfig} {x : Hold}
  {eaten items : List (Option Event)} {s : Surroundings (Recorded σ)}

/-- A ping that is answered consumes nothing, whatever came in meanwhile. -/
theorem recorded_ping {u : Surroundings σ}
    (hping : (h.ping x.client).outcome s.unrecorded = (.ok (), u))
    (hqueued : Queued x.queue items u) :
    ∃ t, (h.recorded.ping x.client).outcome s = (.ok (), t) ∧
      Waiting x.queue (consumed s) items t := by
  have hrecorded := outcome_recorded (.ping x.client) (fun _ => .done (.ping x.client))
    (h.ping x.client) s
  rw [hping] at hrecorded
  refine ⟨_, hrecorded, ?_, hqueued⟩
  rw [consumed_ended]
  exact List.append_nil _

/-- A pass, and the publication of its table, leave what waits. -/
theorem refresh_waiting (hx : Spares items h x) :
    Leaves (Stands (holding .watching (some x)) (Waiting x.queue eaten items))
      (refresh h.recorded c) := by
  have reported (e : Log.Entry) :
      Leaves (Stands (holding .watching (some x)) (Waiting x.queue eaten items))
        (report h.recorded e) :=
    call_of_leaves (waiting_leaves (hx.report e) fun _ => rfl)
  have surveyed : Leaves (Waiting x.queue eaten items)
      (h.recorded.enumerate c.ports c.workers x.client) :=
    Host.enumerate_leaves (waiting_leaves hx.list fun _ => rfl)
      (fun id => waiting_leaves (hx.inspect id) fun _ => rfl)
      (fun e => waiting_leaves (hx.report e) fun _ => rfl) _ _
  refine state_bind ?_
  refine Leaves.bind (call_of_leaves surveyed).attempt fun r => ?_
  cases r with
  | error f => exact (reported _).bind fun _ => .pure _
  | ok t =>
    refine (reported _).bind fun _ => Leaves.bind ?_ fun _ => .pure _
    exact call_of_leaves (waiting_leaves (hx.publish t) fun _ => rfl)

/-- After an event the watcher goes on watching, and what waits still waits. -/
theorem receive_event_waiting (hx : Spares items h x) (e : Event) :
    Leaves (Stands (holding .watching (some x)) (Waiting x.queue eaten items))
      (receive h.recorded c (some (some e)) >>= enter) := by
  have received : Spec (Stands (holding .watching (some x)) (Waiting x.queue eaten items))
      (receive h.recorded c (some (some e)))
      (fun phase m => phase = .watching ∧
        Stands (holding .watching (some x)) (Waiting x.queue eaten items) m)
      fun _ => Stands (holding .watching (some x)) (Waiting x.queue eaten items) := by
    refine Spec.bind (Leaves.ofExcept _) fun isLifecycle => ?_
    cases isLifecycle with
    | false => exact Spec.pure fun _ hm => ⟨rfl, hm⟩
    | true =>
      refine Spec.bind (Leaves.ofExcept _) fun short => ?_
      refine Spec.bind (call_of_leaves (waiting_leaves (hx.report _) fun _ => rfl)) fun _ => ?_
      refine Spec.bind (refresh_waiting hx) fun _ => ?_
      exact Spec.pure fun _ hm => ⟨rfl, hm⟩
  refine Spec.bind received fun phase => Spec.of_fact fun hphase => ?_
  subst hphase
  exact Spec.bind change_spec fun _ => Spec.pure fun _ hm => hm

/-- A call that is no look into a mailbox consumes nothing. -/
theorem call_consumes_nothing {call : Call} {answer : α → Deed} (act : Act (Surroundings σ) α)
    (hanswer : ∀ a, (answer a).taken? = none) :
    Leaves (fun m => consumed m.outside = eaten) (Watcher.call (act.recorded call answer)) :=
  (consumed_leaves act hanswer).within (fun _ hm => hm) (fun _ _ _ _ hs => hs)
    fun _ _ _ _ hs => hs

/-- Nothing is consumed when a client is given up. -/
theorem dropClient_consumes_nothing :
    Leaves (fun m => consumed m.outside = eaten) (dropClient h.recorded) := by
  have reported (level what : String) (f : Fault) :
      Leaves (fun m => consumed m.outside = eaten) (reportFault h.recorded level what f) :=
    call_consumes_nothing (h.report _) fun _ => rfl
  have unsubscribed : Leaves (fun m => consumed m.outside = eaten) (unsubscribe h.recorded) := by
    refine Leaves.bind (Spec.gets fun _ hm => hm) fun w => ?_
    match w with
    | ⟨_, some client, some queue, true⟩ =>
      refine Leaves.bind (call_consumes_nothing (h.removeListener client queue)
        fun _ => rfl).attempt fun r => ?_
      cases r with
      | ok u => exact .pure _
      | error f => exact reported _ _ f
    | ⟨_, none, _, _⟩ => exact .pure _
    | ⟨_, some _, none, _⟩ => exact .pure _
    | ⟨_, some _, some _, false⟩ => exact .pure _
  have closed : Leaves (fun m => consumed m.outside = eaten) (closeClient h.recorded) := by
    refine Leaves.bind (Spec.gets fun _ hm => hm) fun w => ?_
    match w.client? with
    | none => exact .pure _
    | some client =>
      refine Leaves.bind (call_consumes_nothing (h.close client) fun _ => rfl).attempt fun r => ?_
      cases r with
      | ok u => exact .pure _
      | error f => exact reported _ _ f
  exact unsubscribed.bind fun _ => closed.bind fun _ => Spec.update fun _ hm => hm

/-- After the marker nothing more is consumed in the same transition. -/
theorem receive_marker_consumes_nothing :
    Leaves (fun m => consumed m.outside = eaten)
      (receive h.recorded c (some none) >>= enter) := by
  have received : Leaves (fun m => consumed m.outside = eaten)
      (receive h.recorded c (some none)) := by
    refine Leaves.bind (call_consumes_nothing (h.report _) fun _ => rfl) fun _ => ?_
    exact dropClient_consumes_nothing.bind fun _ => .pure _
  exact received.bind fun _ => Leaves.bind (Spec.update fun _ hm => hm) fun _ => .pure _

end

/-! ## One transition -/

section

variable {σ : Type} {h : Host σ} {c : WatchConfig} {x : Hold} {t : Number.Binary64}
  {items : List (Option Event)} {item : Option Event} {m : Machine (Recorded σ)}
  {u : Surroundings σ}

/-- The daemon answers the ping of the next transition, and this is how things stand then. -/
def Answers (h : Host σ) (x : Hold) (m : Machine (Recorded σ)) (u : Surroundings σ) : Prop :=
  (h.ping x.client).outcome m.outside.unrecorded = (.ok (), u)

/-- The machine after a transition, whatever becomes of it. -/
def afterStep (h : Host σ) (c : WatchConfig) (m : Machine (Recorded σ)) : Machine (Recorded σ) :=
  ((step h.recorded c).outcome m).2

/-- What the watcher is doing while it consumes. -/
abbrev Consuming (x : Hold) (eaten items : List (Option Event)) : Machine (Recorded σ) → Prop :=
  Stands (holding .watching (some x)) (Waiting x.queue eaten items)

/-- The host's mailboxes are those of its surroundings. -/
theorem take_recorded (htake : h.take = Surroundings.take) (q : QueueId) (i : Interval) :
    h.recorded.take q i = (Surroundings.take q i).recorded (.take q) .took := by
  show (h.take q i).recorded _ _ = _
  rw [htake]

variable (htake : h.take = Surroundings.take) (hm : m.watcher = holding .watching (some x))
include htake hm

/-- A transition consumes the oldest item and nothing else, unless the interval is below zero. -/
theorem afterStep_consumes (hc : c.pingInterval = .seconds t) (ht : t.isBelowZero = false)
    (hping : Answers h x m u) (hqueued : Queued x.queue (item :: items) u)
    (hx : Spares items h x) :
    consumed (afterStep h c m).outside = consumed m.outside ++ [item] ∧
      (item ≠ none → Consuming x (consumed m.outside ++ [item]) items (afterStep h c m)) := by
  obtain ⟨s, hs, hwaiting⟩ := recorded_ping hping hqueued
  obtain ⟨v, hv, hrest⟩ := recorded_take_of_cons ht hwaiting
  rw [← take_recorded htake, ← hc] at hv
  unfold afterStep
  rw [outcome_step hm hs hv]
  cases item with
  | none => exact ⟨(receive_marker_consumes_nothing (c := c)).after hrest.consumed, by simp⟩
  | some e =>
    have hafter := (receive_event_waiting (c := c) hx e).after
      (show Consuming x _ _ { m with outside := v } from ⟨hm, hrest⟩)
    exact ⟨hafter.2.consumed, fun _ => hafter⟩

/-- With an interval below zero it fails for that, and nothing is consumed. -/
theorem step_fails_of_negative (hc : c.pingInterval = .seconds t) (ht : t.isBelowZero = true)
    (hping : Answers h x m u) (hqueued : Queued x.queue items u) :
    ((step h.recorded c).outcome m).1 = .error .negativeWait ∧
      Consuming x (consumed m.outside) items (afterStep h c m) := by
  obtain ⟨s, hs, hwaiting⟩ := recorded_ping hping hqueued
  obtain ⟨v, hv, hrest⟩ := recorded_take_of_negative ht hwaiting
  rw [← take_recorded htake, ← hc] at hv
  unfold afterStep
  rw [outcome_step hm hs hv]
  exact ⟨rfl, hm, hrest⟩

/-- The numbers that are not below zero all come to the same while something waits. -/
theorem step_interval (hc : c.pingInterval = .seconds t) (ht : t.isBelowZero = false)
    {t' : Number.Binary64} (ht' : t'.isBelowZero = false) (hping : Answers h x m u)
    (hqueued : Queued x.queue (item :: items) u) :
    (step h.recorded { c with pingInterval := .seconds t' }).outcome m =
      (step h.recorded c).outcome m := by
  obtain ⟨s, hs, hwaiting⟩ := recorded_ping hping hqueued
  obtain ⟨v, hv, -⟩ := recorded_take_of_cons ht hwaiting
  obtain ⟨rest, hrest⟩ := hwaiting.queued
  have hv' : (h.recorded.take x.queue (.seconds t')).outcome s = (.ok (some item), v) := by
    rw [← hv, take_recorded htake, outcome_recorded, outcome_recorded,
      take_interval ht ht' (s := s.unrecorded) hrest.symm]
  rw [← take_recorded htake, ← hc] at hv
  rw [outcome_step hm hs hv, outcome_step hm hs hv']
  rfl

end

/-! ## One transition after the other -/

/-- The items up to the first marker for the end, or all if there is none. -/
def untilEnd : List (Option Event) → List (Option Event)
  | [] => []
  | none :: _ => [none]
  | some e :: items => some e :: untilEnd items

section

variable {σ : Type} {h : Host σ} {c : WatchConfig} {x : Hold} {t : Number.Binary64}
  {eaten items : List (Option Event)} {m : Machine (Recorded σ)} {n : ℕ}

variable (htake : h.take = Surroundings.take)
include htake

/-- So many transitions consume so many items, up to the marker for the end. -/
theorem afterSteps_consume (hx : ∀ items, Spares items h x) (hc : c.pingInterval = .seconds t)
    (ht : t.isBelowZero = false) (hm : Consuming x eaten items m) (hn : n ≤ (untilEnd items).length)
    (hpings : ∀ i < n, ∃ u, Answers h x ((afterStep h c)^[i] m) u) :
    consumed ((afterStep h c)^[n] m).outside = eaten ++ (untilEnd items).take n := by
  induction n generalizing m eaten items with
  | zero => simpa using hm.2.consumed
  | succ n ih =>
    cases items with
    | nil => simp [untilEnd] at hn
    | cons item items =>
      obtain ⟨u, hping⟩ := hpings 0 (Nat.succ_pos n)
      obtain ⟨hconsumed, hgoes⟩ := afterStep_consumes htake hm.1 hc ht hping
        ((hx _).ping.of_ok hm.2.queued hping) (hx items)
      rw [hm.2.consumed] at hconsumed hgoes
      rw [Function.iterate_succ_apply]
      cases item with
      | none =>
        obtain rfl : n = 0 := by simpa [untilEnd] using hn
        simpa [untilEnd] using hconsumed
      | some e =>
        have hrest := ih (hgoes (by simp)) (by simpa [untilEnd] using hn) fun i hi => by
          have hping := hpings (i + 1) (by omega)
          rwa [Function.iterate_succ_apply] at hping
        rw [hrest, untilEnd, List.take_succ_cons, List.append_assoc]
        rfl

/-- No transition consumes anything with an interval below zero. -/
theorem afterSteps_of_negative (hx : Spares items h x) (hc : c.pingInterval = .seconds t)
    (ht : t.isBelowZero = true) (hm : Consuming x eaten items m)
    (hpings : ∀ i < n, ∃ u, Answers h x ((afterStep h c)^[i] m) u) :
    Consuming x eaten items ((afterStep h c)^[n] m) ∧
      ∀ i < n, ((step h.recorded c).outcome ((afterStep h c)^[i] m)).1 = .error .negativeWait := by
  induction n with
  | zero => exact ⟨hm, by simp⟩
  | succ n ih =>
    obtain ⟨hmid, hbefore⟩ := ih fun i hi => hpings i (by omega)
    obtain ⟨u, hping⟩ := hpings n (by omega)
    obtain ⟨hfails, hafter⟩ := step_fails_of_negative htake hmid.1 hc ht hping
      (hx.ping.of_ok hmid.2.queued hping)
    rw [hmid.2.consumed] at hafter
    rw [Function.iterate_succ_apply']
    refine ⟨hafter, fun i hi => ?_⟩
    rcases Nat.lt_succ_iff_lt_or_eq.1 hi with hlt | rfl
    · exact hbefore i hlt
    · exact hfails

/-- **A watcher consumes what waits for it unless its interval is below zero.** When the daemon has
answered and something waits, a transition consumes the oldest item just when the number that is
configured as interval is not below zero, and among those the number makes no difference. Transition
after transition then consumes the items up to the first marker for the end, if nobody else takes them
out. With a number below zero every transition fails for that reason, and nothing is consumed however
many there are. -/
theorem consumes_unless_negative (hc : c.pingInterval = .seconds t)
    (hm : m.watcher = holding .watching (some x)) :
    (∀ u item, Answers h x m u → (u.mailbox x.queue).items.head? = some item →
      (t.isBelowZero = false ↔
        consumed (afterStep h c m).outside = consumed m.outside ++ [item]) ∧
      (t.isBelowZero = false → ∀ t', t'.isBelowZero = false →
        (step h.recorded { c with pingInterval := .seconds t' }).outcome m =
          (step h.recorded c).outcome m)) ∧
    ∀ n, (∀ i < n, ∃ u, Answers h x ((afterStep h c)^[i] m) u) →
      (t.isBelowZero = false → (∀ items, Spares items h x) →
        ∀ items, Queued x.queue items m.outside → n ≤ (untilEnd items).length →
          consumed ((afterStep h c)^[n] m).outside =
            consumed m.outside ++ (untilEnd items).take n) ∧
      (t.isBelowZero = true →
        consumed ((afterStep h c)^[n] m).outside = consumed m.outside ∧
        (∀ i < n, ((step h.recorded c).outcome ((afterStep h c)^[i] m)).1 =
          .error .negativeWait) ∧
        ∀ items, Spares items h x → Queued x.queue items m.outside →
          Queued x.queue items ((afterStep h c)^[n] m).outside) := by
  have hstart {items : List (Option Event)} (hitems : Queued x.queue items m.outside) :
      Consuming x (consumed m.outside) items m := ⟨hm, rfl, hitems⟩
  refine ⟨fun u item hping hhead => ?_, fun n hpings => ⟨?_, ?_⟩⟩
  · have hfirst : Queued x.queue [item] u := by
      obtain ⟨rest, hitems⟩ := List.head?_eq_some_iff.1 hhead
      exact ⟨rest, hitems.symm⟩
    refine ⟨⟨fun ht => ?_, fun hconsumed => ?_⟩, fun ht t' ht' => ?_⟩
    · exact (afterStep_consumes htake hm hc ht hping hfirst (spares_nil h x)).1
    · by_contra hneg
      have hsame := (step_fails_of_negative htake hm hc (by simpa using hneg) hping hfirst).2
      rw [hsame.2.consumed] at hconsumed
      simp at hconsumed
    · exact step_interval htake hm hc ht ht' hping hfirst
  · intro ht hx items hitems hn
    exact afterSteps_consume htake hx hc ht (hstart hitems) hn hpings
  · intro ht
    obtain ⟨hend, hfails⟩ :=
      afterSteps_of_negative htake (spares_nil h x) hc ht (hstart List.nil_prefix) hpings
    refine ⟨hend.2.consumed, hfails, fun items hx hitems => ?_⟩
    exact (afterSteps_of_negative htake hx hc ht (hstart hitems) hpings).1.2.queued

end

/-- A daemon that answers and has no containers. -/
def vacant : Host Unit := Host.still (.ok []) fun _ => .error .pingRefused

/-- It touches no mailbox. -/
theorem vacant_spares (items : List (Option Event)) (x : Hold) : Spares items vacant x where
  ping := .pure _
  list := .ofExcept (.ok [])
  inspect _ := .ofExcept (.error .pingRefused)
  publish _ := .pure _
  report _ := .pure _

/-- A watcher that listens, and what waits in its mailbox. -/
def attentive (items : List (Option Event)) : Machine (Recorded Unit) where
  watcher := holding .watching (some { client := 0, queue := 0, subscribed := true })
  outside := { mailboxes := [{ capacity := 100, items }], rest := { rest := () } }

/-- The event of a container that was started. -/
def started (id : String) : Event := { status := .str "start", containerId := .str id }

/-- With the interval that is configured unless asked otherwise, the event is consumed first and the
marker after it; what is behind the marker stays. -/
theorem consumes_unless_negative_default :
    let c := WatchConfig.ofSettings {} none none none none
    let m := attentive [some (started "a"), none, some (started "b")]
    let x : Hold := { client := 0, queue := 0, subscribed := true }
    vacant.take = Surroundings.take ∧ c.pingInterval = .seconds (.ofNat 10) ∧
      m.watcher = holding .watching (some x) ∧
      (∀ i < 2, ∃ u, Answers vacant x ((afterStep vacant c)^[i] m) u) ∧
      (∀ items, Spares items vacant x) ∧
      consumed (afterStep vacant c m).outside = [some (started "a")] ∧
      consumed ((afterStep vacant c)^[2] m).outside = [some (started "a"), none] := by
  intro c m x
  have hpings : ∀ i < 2, ∃ u, Answers vacant x ((afterStep vacant c)^[i] m) u :=
    fun _ _ => ⟨_, rfl⟩
  have hspares : ∀ items, Spares items vacant x := fun items => vacant_spares items _
  have ht : (Number.Binary64.ofNat 10).isBelowZero = false := by decide +kernel
  obtain ⟨hstep, hsteps⟩ :=
    consumes_unless_negative (h := vacant) (c := c) (x := x) (m := m) rfl rfl rfl
  refine ⟨rfl, rfl, rfl, hpings, hspares, (hstep _ _ rfl rfl).1.1 ht, ?_⟩
  exact (hsteps 2 hpings).1 ht hspares _ (List.prefix_refl _) (by decide)

/-- The interval is configured as minus one second. -/
def minusOne : WatchConfig :=
  .ofSettings (.ofEnvironment fun name => if name = "DRD_PING_INTERVAL_S" then some "-1" else none)
    none none none none

/-- An event waits and the daemon answers, but the transition fails, and the event waits still. -/
theorem minusOne_consumes_nothing :
    let m := attentive [some (started "a")]
    let x : Hold := { client := 0, queue := 0, subscribed := true }
    (∃ u, Answers vacant x m u) ∧
      ((step vacant.recorded minusOne).outcome m).1 = .error .negativeWait ∧
      consumed (afterStep vacant minusOne m).outside = [] ∧
      ((afterStep vacant minusOne m).outside.mailbox 0).items = [some (started "a")] := by
  intro m x
  have hneg : (Settings.realOr (some "-1") (.ofNat 10)).isBelowZero = true := by decide +kernel
  have hping : Answers vacant x m m.outside.unrecorded := rfl
  obtain ⟨hfails, hafter⟩ := step_fails_of_negative (h := vacant) (c := minusOne) (m := m)
    rfl rfl rfl hneg hping (List.prefix_refl [some (started "a")])
  exact ⟨⟨_, hping⟩, hfails, hafter.2.consumed, by decide +kernel⟩

end Watcher

end HostRouting
