import HostRouting.Fleet.Host
import HostRouting.Proofs.Mailbox
import HostRouting.Proofs.Ordinary
import Mathlib.Logic.Relation

/-!
# What happens in a harbour

What a message on a stream, or the end of a stream, does to the listeners of a client: the mailboxes
are filled, and a stream that is over is given up and announced to all of them.
-/

namespace HostRouting

open Act (Spec)
open Surroundings (mailbox_setMailbox mailbox_setMailbox_ne setMailbox_mailbox)

namespace Harbour

variable {σ α : Type} (s : Harbour σ) (b c : ClientId) (p q : QueueId) (i stream : StreamId)

/-! ## Changes and what they leave alone -/

/-- Another control and another rest. -/
def turn (control : Control) (x : σ) : Harbour σ :=
  { s with control, rest := { s.rest with rest := x } }

/-- An act on the rest of the state only. -/
def aside (act : Act σ α) : Act (Harbour σ) α :=
  act.within (fun s => s.rest.rest) fun x s => s.turn s.control x

section

variable (f : Hub → Hub)

@[simp] theorem hub_endReading : (s.endReading stream).hub c = s.hub c := rfl

/-- The hubs after one of them was changed. -/
theorem hub_changeHub (hc : c < s.rest.hubs.length) :
    (s.changeHub c f).hub b = if b = c then f (s.hub c) else s.hub b := by
  simp only [hub, changeHub, Surroundings.mapRest, List.getElem?_set]
  by_cases hb : b = c
  · simp [hb, hc]
  · simp [hb, Ne.symm hb]

/-- A hub is the same after another one was changed. -/
theorem hub_changeHub_ne (hb : b ≠ c) : (s.changeHub c f).hub b = s.hub b := by
  simp [hub, changeHub, Surroundings.mapRest, Ne.symm hb]

/-- A new client has nothing. -/
@[simp] theorem hub_addClient : s.addClient.hub c = s.hub c := by
  simp only [hub, addClient, Surroundings.mapRest, List.getElem?_append]
  split
  · rfl
  · rename_i h
    rw [List.getElem?_eq_none (Nat.le_of_not_lt h)]
    cases c - s.rest.hubs.length <;> simp

/-- A stream that is over is not read. -/
theorem reader?_endReading :
    (s.endReading stream).reader? i = if i = stream then none else s.reader? i := by
  simp only [reader?, endReading, Surroundings.mapRest, List.getElem?_modify]
  by_cases hi : i = stream
  · subst hi
    cases s.rest.streams[i]? <;> simp
  · simp [hi, Ne.symm hi]

/-- A new stream is read by the client that opened it. -/
theorem reader?_beginReading :
    (s.beginReading c).reader? i = if i = s.rest.streams.length then some c else s.reader? i := by
  simp only [reader?, beginReading, changeHub, Surroundings.mapRest, List.getElem?_append]
  by_cases hi : i = s.rest.streams.length
  · simp [hi]
  · by_cases hlt : i < s.rest.streams.length
    · simp [hi, hlt]
    · obtain ⟨k, hk⟩ : ∃ k, i - s.rest.streams.length = k + 1 :=
        ⟨i - s.rest.streams.length - 1, by dsimp only [StreamId] at *; omega⟩
      simp [hi, hlt, hk]

/-- The client holds the new stream. -/
theorem hub_beginReading (hc : c < s.rest.hubs.length) :
    (s.beginReading c).hub b =
      if b = c then { s.hub c with stream? := some s.rest.streams.length } else s.hub b :=
  s.hub_changeHub b c (fun hub => { hub with stream? := some s.rest.streams.length }) hc

/-! How many clients and streams there are. -/

@[simp] theorem length_hubs_changeHub :
    (s.changeHub c f).rest.hubs.length = s.rest.hubs.length := List.length_set

@[simp] theorem length_hubs_addClient :
    s.addClient.rest.hubs.length = s.rest.hubs.length + 1 := List.length_append

@[simp] theorem length_hubs_beginReading :
    (s.beginReading c).rest.hubs.length = s.rest.hubs.length := List.length_set

@[simp] theorem length_hubs_endReading :
    (s.endReading stream).rest.hubs.length = s.rest.hubs.length := rfl

@[simp] theorem length_hubs_giveUp :
    (giveUp c stream s).rest.hubs.length = s.rest.hubs.length := List.length_set

@[simp] theorem length_streams_beginReading :
    (s.beginReading c).rest.streams.length = s.rest.streams.length + 1 := List.length_append

@[simp] theorem length_streams_endReading :
    (s.endReading stream).rest.streams.length = s.rest.streams.length := List.length_modify ..

@[simp] theorem length_streams_giveUp :
    (giveUp c stream s).rest.streams.length = s.rest.streams.length := rfl

/-- A stream that is read is there. -/
theorem lt_of_reader? (h : s.reader? i = some c) : i < s.rest.streams.length := by
  rcases Nat.lt_or_ge i s.rest.streams.length with hi | hi
  · exact hi
  · simp [reader?, List.getElem?_eq_none hi] at h

end

/-! ## Filling mailboxes -/

/-- The log took some entries. -/
def Logged (note : Log.Entry → Act σ Unit) : σ → σ → Prop :=
  Relation.ReflTransGen fun x y => ∃ e, y = ((note e).outcome x).2

/-- What no entry changes is the same. -/
theorem Logged.same {β : Type} {note : Log.Entry → Act σ Unit} {x y : σ} (h : Logged note x y)
    (f : σ → β) (hf : ∀ e x, f ((note e).outcome x).2 = f x) : f y = f x := by
  induction h with
  | refl => rfl
  | tail _ hstep ih =>
    obtain ⟨e, rfl⟩ := hstep
    rw [hf, ih]

variable (note : Log.Entry → Act σ Unit)

/-- Items were offered to listeners, and the log took some entries. -/
structure Posted (s t : Harbour σ) : Prop where
  hubs : t.rest.hubs = s.rest.hubs
  streams : t.rest.streams = s.rest.streams
  length : t.mailboxes.length = s.mailboxes.length
  marked : ∀ q, none ∈ (s.mailbox q).items → none ∈ (t.mailbox q).items
  log : Logged note s.rest.rest t.rest.rest

namespace Posted

variable {s note} {t u : Harbour σ}

protected theorem refl (s : Harbour σ) : Posted note s s := ⟨rfl, rfl, rfl, fun _ h => h, .refl⟩

protected theorem trans (h : Posted note s t) (h' : Posted note t u) : Posted note s u where
  hubs := h'.hubs.trans h.hubs
  streams := h'.streams.trans h.streams
  length := h'.length.trans h.length
  marked q hq := h'.marked q (h.marked q hq)
  log := h.log.trans h'.log

theorem hub (h : Posted note s t) (c : ClientId) : t.hub c = s.hub c := by
  simp only [Harbour.hub, h.hubs]

theorem reader? (h : Posted note s t) (i : StreamId) : t.reader? i = s.reader? i := by
  simp only [Harbour.reader?, h.streams]

/-- The log takes an entry. -/
theorem entry (note : Log.Entry → Act σ Unit) (s : Harbour σ) (control : Control) (e : Log.Entry) :
    Posted note s (s.turn control ((note e).outcome s.rest.rest).2) :=
  ⟨rfl, rfl, rfl, fun _ h => h, .single ⟨e, rfl⟩⟩

/-- An item is offered to a listener. -/
theorem offer (note : Log.Entry → Act σ Unit) (s : Harbour σ) (q : QueueId)
    (item : Option Event) : Posted note s (s.setMailbox q ((s.mailbox q).offer item).mailbox) where
  hubs := rfl
  streams := rfl
  length := List.length_set
  log := .refl
  marked p hp := by
    by_cases hpq : p = q
    · subst hpq
      -- only a mailbox that is there can have items
      have hlt : p < s.mailboxes.length := by
        rcases Nat.lt_or_ge p s.mailboxes.length with hlt | hge
        · exact hlt
        · simp [Surroundings.mailbox, List.getElem?_eq_none hge] at hp
      rw [mailbox_setMailbox _ _ _ _ hlt, if_pos rfl]
      exact Mailbox.none_mem_offer_of_mem hp item
    · rwa [mailbox_setMailbox_ne _ _ _ _ hpq]

end Posted

section

variable (item : Option Event) (message : Json)

/-- A log that is a part of the rest of the state. -/
def logged (e : Log.Entry) : Act (Harbour σ) Unit := aside (note e)

/-- A log entry changes the rest of the state only. -/
theorem logged_posted (e : Log.Entry) :
    Spec (Posted note s) (logged note e) (fun _ => Posted note s) fun _ => Posted note s := by
  intro t ht
  have entry := ht.trans (Posted.entry note t t.control e)
  unfold logged aside
  rw [Act.outcome_within]
  generalize (note e).outcome t.rest.rest = r at entry
  match r with
  | (.ok _, x) => exact entry
  | (.error _, x) => exact entry

/-- Delivering offers an item. -/
theorem deliver_posted : Spec (Posted note s) (deliver (logged note) item q) (fun _ => Posted note s)
    fun _ => Posted note s := by
  refine Spec.bind (R := fun t u => t = u ∧ Posted note s u) (Spec.read fun t ht => ⟨rfl, ht⟩) fun t => ?_
  refine Spec.bind (R := fun _ => Posted note s) (Spec.update ?_) fun _ => ?_
  · rintro u ⟨rfl, ht⟩
    exact ht.trans (.offer note t q item)
  · cases item with
    | none => exact Spec.pure fun _ ht => ht
    | some e =>
      dsimp only
      split
      · exact Spec.pure fun _ ht => ht
      · refine Spec.bind (R := fun _ => Posted note s) ?_ fun entry => logged_posted s note entry
        exact Spec.ofExcept (fun _ _ _ ht => ht) fun _ _ _ ht => ht

/-- Receiving a message offers its event to the listeners. -/
theorem receive_posted : Spec (Posted note s) (receive (logged note) c message) (fun _ => Posted note s)
    fun _ => Posted note s := by
  have each (e : Event) (l : List QueueId) :
      Spec (Posted note s) (l.forM (deliver (logged note) (some e))) (fun _ => Posted note s)
        fun _ => Posted note s := by
    induction l with
    | nil => exact Spec.pure fun _ ht => ht
    | cons q l ih =>
      exact Spec.bind (deliver_posted s q note (some e)) fun _ => ih
  refine Spec.bind (R := fun _ => Posted note s) ?_ fun o => ?_
  · exact Spec.ofExcept (fun _ _ _ ht => ht) fun _ _ _ ht => ht
  · cases o with
    | none => exact Spec.pure fun _ ht => ht
    | some e => exact Spec.bind (R := fun _ => Posted note s) (Spec.read fun _ ht => ht) fun t => each e _

/-- Announcing an end offers markers. -/
theorem announceEnd_posted : Posted note s (announceEnd (logged note) c s) := by
  have each (l : List QueueId) (t : Harbour σ) (ht : Posted note s t) :
      Posted note s (l.foldl (fun s q => ((deliver (logged note) none q).outcome s).2) t) := by
    induction l generalizing t with
    | nil => exact ht
    | cons q l ih => exact ih _ (ht.trans (.offer note t q none))
  exact each _ s (.refl s)

/-- The end is announced to every listener. -/
theorem announceEnd_marked (hq : q ∈ (s.hub c).listeners) (hlt : q < s.mailboxes.length) :
    none ∈ ((announceEnd (logged note) c s).mailbox q).items := by
  -- a marker that is there stays there, whatever is offered afterwards
  have keep (l : List QueueId) (t : Harbour σ) (ht : none ∈ (t.mailbox q).items) :
      none ∈ ((l.foldl (fun s q => ((deliver (logged note) none q).outcome s).2) t).mailbox q).items := by
    induction l generalizing t with
    | nil => exact ht
    | cons p l ih => exact ih _ ((Posted.offer note t p none).marked q ht)
  have each (l : List QueueId) (t : Harbour σ) (hq : q ∈ l) (ht : q < t.mailboxes.length) :
      none ∈ ((l.foldl (fun s q => ((deliver (logged note) none q).outcome s).2) t).mailbox q).items := by
    induction l generalizing t with
    | nil => cases hq
    | cons p l ih =>
      by_cases hp : q = p
      · subst hp
        refine keep l _ ?_
        show none ∈ ((t.setMailbox q _).mailbox q).items
        rw [mailbox_setMailbox _ _ _ _ ht, if_pos rfl]
        exact Mailbox.none_mem_offer _
      · refine ih _ ((List.mem_cons.1 hq).resolve_left hp) ?_
        exact Nat.lt_of_lt_of_eq ht (Posted.offer note t p none).length.symm
  exact each _ s hq hlt

/-! ## Messages and ends -/

/-- The reading is over: the entry about it comes first, and the markers come last. -/
theorem finishReading_eq (reason : Option Fault) :
    ∃ t, Posted note s t ∧ finishReading (logged note) c stream reason s =
      announceEnd (logged note) c (giveUp c stream (t.endReading stream)) := by
  cases reason with
  | none => exact ⟨s, .refl s, rfl⟩
  | some f =>
    by_cases hf : f.isFailure
    · refine ⟨_, .entry note s s.control (brokenEntry f), ?_⟩
      simp only [finishReading, hf, if_true]
      rfl
    · refine ⟨s, .refl s, ?_⟩
      simp only [finishReading, hf]
      rfl

/-- A message on a stream that is read is offered, or it ends the reading. -/
theorem feed_cases (h : s.reader? stream = some c) :
    Posted note s (feed (logged note) stream message s) ∨
      ∃ f t, Posted note s t ∧ feed (logged note) stream message s =
        finishReading (logged note) c stream (some f) t := by
  have hr := receive_posted s c note message s (.refl s)
  simp only [feed, h]
  match ho : (receive (logged note) c message).outcome s with
  | (.ok (), t) =>
    rw [ho] at hr
    exact .inl hr
  | (.error f, t) =>
    rw [ho] at hr
    exact .inr ⟨f, t, hr, rfl⟩

end

/-! ## A single listener -/

/-- The log never fails. -/
def Sound (note : Log.Entry → Act σ Unit) : Prop := ∀ e x, ((note e).outcome x).1 = .ok ()

/-- The log took an entry, or none. -/
inductive Noted (note : Log.Entry → Act σ Unit) (x : σ) : σ → Prop where
  | nothing : Noted note x x
  | entry (e : Log.Entry) : Noted note x ((note e).outcome x).2

/-- The client gives up a stream that is over, and its listener gets the marker. -/
def lapsed (s : Harbour σ) : Harbour σ :=
  (giveUp c stream (s.endReading stream)).setMailbox q ((s.mailbox q).offer none).mailbox

section

variable (message : Json)

/-- What a message comes to for the single listener of the client that reads the stream. -/
inductive Receipt : Harbour σ → Prop where
  /-- It is about something else. -/
  | skipped (h : Event.ofMessage message = .ok none) : Receipt s
  /-- Its event is put into the mailbox. -/
  | stored {e : Event} (h : Event.ofMessage message = .ok (some e))
      (hroom : (s.mailbox q).isFull = false) : Receipt (s.setMailbox q ((s.mailbox q).push (some e)))
  /-- Its event is refused by a full mailbox. -/
  | refused {e : Event} (h : Event.ofMessage message = .ok (some e))
      (hfull : (s.mailbox q).isFull = true) {x : σ} (hx : Noted note s.rest.rest x) :
      Receipt (s.turn s.control x)
  /-- It cannot be read, or its event cannot be refused; the stream is over. -/
  | broken (h : ∀ e, Event.ofMessage message = .ok (some e) → ∃ f, Mailbox.refusal e = .error f)
      (hsome : Event.ofMessage message ≠ .ok none) {x : σ} (hx : Noted note s.rest.rest x) :
      Receipt (lapsed c q stream (s.turn s.control x))

variable {note message s c q stream}

/-- The hubs after a client gave up a stream, if it held it. -/
theorem hub_giveUp (s : Harbour σ) (b c : ClientId) (stream : StreamId) :
    (giveUp c stream s).hub b = if b = c ∧ (s.hub c).stream? = some stream then
      ⟨(s.hub c).listeners, none⟩ else s.hub b := by
  by_cases hb : b = c
  · subst hb
    by_cases hlt : b < s.rest.hubs.length
    · rw [giveUp, hub_changeHub _ _ _ _ hlt, if_pos rfl]
      simp only [true_and]
    · -- there is no such client, and so nothing to give up
      have hge := Nat.le_of_not_lt hlt
      simp [giveUp, changeHub, hub, Surroundings.mapRest, List.set_eq_of_length_le hge,
        List.getElem?_eq_none hge]
  · rw [giveUp, hub_changeHub_ne _ _ _ _ hb, if_neg fun h => hb h.1]

/-- Giving up a stream leaves the listeners. -/
theorem listeners_giveUp (s : Harbour σ) (b c : ClientId) (stream : StreamId) :
    ((giveUp c stream s).hub b).listeners = (s.hub b).listeners := by
  rw [hub_giveUp]
  split
  · rename_i h
    rw [h.1]
  · rfl

/-- The end of the reading for a single listener. -/
theorem finishReading_single (note : Log.Entry → Act σ Unit) (stream : StreamId)
    (hl : (s.hub c).listeners = [q]) (reason : Option Fault) :
    ∃ x, Noted note s.rest.rest x ∧
      finishReading (logged note) c stream reason s = lapsed c q stream (s.turn s.control x) := by
  have announce (t : Harbour σ) (ht : (t.hub c).listeners = [q]) :
      announceEnd (logged note) c (giveUp c stream (t.endReading stream)) = lapsed c q stream t := by
    unfold announceEnd
    rw [listeners_giveUp, hub_endReading, ht]
    rfl
  cases reason with
  | none => exact ⟨_, .nothing, announce s hl⟩
  | some f =>
    by_cases hf : f.isFailure
    · refine ⟨_, .entry (brokenEntry f), ?_⟩
      simp only [finishReading, hf, if_true]
      exact announce (s.turn s.control ((note (brokenEntry f)).outcome s.rest.rest).2) hl
    · refine ⟨_, .nothing, ?_⟩
      simp only [finishReading, hf]
      exact announce s hl

/-- An event is put into a mailbox or refused. -/
theorem deliver_event (report : Log.Entry → Act (Harbour σ) Unit) (e : Event) :
    (deliver report (some e) q).outcome s =
      if (s.mailbox q).isFull then (Act.ofExcept (Mailbox.refusal e) >>= report).outcome s
      else (.ok (), s.setMailbox q ((s.mailbox q).push (some e))) := by
  unfold deliver
  rw [Act.outcome_bind]
  dsimp only [Act.outcome_read]
  rw [Act.outcome_bind]
  dsimp only [Act.outcome_update]
  by_cases hfull : (s.mailbox q).isFull
  · rw [if_pos hfull, Mailbox.offer_of_full hfull, setMailbox_mailbox]
    rfl
  · rw [if_neg hfull, Mailbox.offer_of_room (by simpa using hfull)]
    rfl

/-- What a message comes to for a single listener. -/
theorem feed_single (message : Json) (hnote : Sound note) (hr : s.reader? stream = some c)
    (hl : (s.hub c).listeners = [q]) :
    Receipt s c q stream note message (feed (logged note) stream message s) := by
  simp only [feed, hr, receive]
  rw [Act.outcome_bind, Act.outcome_ofExcept]
  cases hm : Event.ofMessage message with
  | error f =>
    obtain ⟨x, hx, ht⟩ := finishReading_single note stream hl (some f)
    dsimp only
    rw [ht]
    exact .broken (by simp [hm]) (by simp [hm]) hx
  | ok o =>
    cases o with
    | none => exact .skipped hm
    | some e =>
      dsimp only
      rw [Act.outcome_bind]
      dsimp only [Act.outcome_read]
      have honly : [q].forM (deliver (logged note) (some e)) =
          (deliver (logged note) (some e) q >>= fun _ => pure ()) := rfl
      rw [hl, honly, Act.outcome_bind, deliver_event]
      by_cases hfull : (s.mailbox q).isFull
      · rw [if_pos hfull, Act.outcome_bind, Act.outcome_ofExcept]
        cases hrefusal : Mailbox.refusal e with
        | error f =>
          -- the refusal cannot be put into words, and the reader stops at that
          obtain ⟨x, hx, ht⟩ := finishReading_single note stream hl (some f)
          dsimp only
          rw [ht]
          refine .broken (fun e' he' => ?_) (by simp [hm]) hx
          rw [hm] at he'
          cases he'
          exact ⟨f, hrefusal⟩
        | ok entry =>
          have hsound := hnote entry s.rest.rest
          simp only [logged, aside, Act.outcome_within, hsound]
          exact .refused hm hfull (.entry entry)
      · rw [if_neg hfull]
        exact .stored hm (by simpa using hfull)

/-! ## Nobody listens -/

/-- Nobody hears of it: either nothing came of it, or the stream is over, after the log took an
entry, or none. -/
inductive Unheard (note : Log.Entry → Act σ Unit) (stream : StreamId) (s : Harbour σ) :
    Harbour σ → Prop where
  | passed : Unheard note stream s s
  | ended {x : σ} (hx : Noted note s.rest.rest x) :
      Unheard note stream s ((s.turn s.control x).endReading stream)

namespace Unheard

variable {t : Harbour σ}

theorem hub (h : Unheard note stream s t) (b : ClientId) : t.hub b = s.hub b := by
  cases h with
  | passed => rfl
  | ended hx => rfl

theorem mailbox (h : Unheard note stream s t) (p : QueueId) : t.mailbox p = s.mailbox p := by
  cases h with
  | passed => rfl
  | ended hx => rfl

end Unheard

/-- A client that does not hold a stream does not give it up. -/
theorem giveUp_of_not_held (h : (s.hub c).stream? ≠ some stream) : giveUp c stream s = s := by
  have hset : s.rest.hubs.set c (s.hub c) = s.rest.hubs := by
    rcases Nat.lt_or_ge c s.rest.hubs.length with hlt | hge
    · simp [hub, hlt]
    · exact List.set_eq_of_length_le hge
  simp only [giveUp, changeHub, if_neg h, Surroundings.mapRest, hset]

/-- The end of the reading for a client without listeners. -/
theorem finishReading_bare (note : Log.Entry → Act σ Unit) (stream : StreamId)
    (hbare : s.hub c = {}) (reason : Option Fault) :
    Unheard note stream s (finishReading (logged note) c stream reason s) := by
  have quiet {x : σ} (hx : Noted note s.rest.rest x) : Unheard note stream s
      (announceEnd (logged note) c (giveUp c stream ((s.turn s.control x).endReading stream))) := by
    have hhub : ((s.turn s.control x).endReading stream).hub c = {} := hbare
    rw [giveUp_of_not_held (by simp [hhub]), announceEnd, hhub]
    exact .ended hx
  cases reason with
  | none => exact quiet .nothing
  | some f =>
    by_cases hf : f.isFailure
    · simp only [finishReading, hf, if_true]
      exact quiet (.entry (brokenEntry f))
    · simp only [finishReading, hf]
      exact quiet .nothing

/-- A message about something on a stream to which nobody listens is lost. -/
theorem feed_of_bare {report : Log.Entry → Act (Harbour σ) Unit} {message : Json}
    {o : Option Event} (hbare : ∀ c, s.reader? stream = some c → s.hub c = {})
    (hm : Event.ofMessage message = .ok o) : feed report stream message s = s := by
  cases hr : s.reader? stream with
  | none => simp only [feed, hr]
  | some c =>
    simp only [feed, hr, receive, hm]
    rw [Act.outcome_bind, Act.outcome_ofExcept]
    cases o with
    | none => rfl
    | some e =>
      dsimp only
      rw [Act.outcome_bind]
      dsimp only [Act.outcome_read]
      rw [hbare c hr]
      rfl

/-- A message on a stream to which nobody listens. -/
theorem feed_unheard (note : Log.Entry → Act σ Unit)
    (hbare : ∀ c, s.reader? stream = some c → s.hub c = {}) (message : Json) :
    Unheard note stream s (feed (logged note) stream message s) := by
  cases hm : Event.ofMessage message with
  | ok o =>
    rw [feed_of_bare hbare hm]
    exact .passed
  | error f =>
    cases hr : s.reader? stream with
    | none =>
      simp only [feed, hr]
      exact .passed
    | some c =>
      simp only [feed, hr, receive, hm]
      exact finishReading_bare note stream (hbare c hr) (some f)

/-- The end of a stream to which nobody listens. -/
theorem finish_unheard (note : Log.Entry → Act σ Unit)
    (hbare : ∀ c, s.reader? stream = some c → s.hub c = {}) (reason : Option Fault) :
    Unheard note stream s (finish (logged note) stream reason s) := by
  cases hr : s.reader? stream with
  | none =>
    simp only [finish, hr]
    exact .passed
  | some c =>
    simp only [finish, hr]
    exact finishReading_bare note stream (hbare c hr) reason

end

end Harbour

end HostRouting
