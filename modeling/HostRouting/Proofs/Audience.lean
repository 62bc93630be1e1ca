import HostRouting.Proofs.Recording
import HostRouting.Proofs.Shore

/-!
# An item for every listener

What the reader of a stream hands out goes to the mailboxes of all listeners, one after the other. A
mailbox is filled as if it were the only one, since no listener is registered twice. The reader stops
in the middle only if it has to say that an event is refused and cannot name the container.
-/

namespace HostRouting

open Act (Spec)
open Surroundings (mailbox_setMailbox mailbox_setMailbox_ne)

/-! ## Several offers -/

/-- Items are offered to a mailbox, one after the other. -/
def Mailbox.offerAll (m : Mailbox) (items : List (Option Event)) : Mailbox :=
  items.foldl (fun m item => (m.offer item).mailbox) m

/-- A marker is displaced by another one only, whatever is offered. -/
theorem Mailbox.none_mem_offerAll {m : Mailbox} (h : none ∈ m.items) (items : List (Option Event)) :
    none ∈ (m.offerAll items).items := by
  induction items generalizing m with
  | nil => exact h
  | cons item items ih => exact ih (none_mem_offer_of_mem h item)

namespace Harbour

variable {σ : Type}

/-- Entries that are not kept are taken, and nothing comes of them. -/
def Quiet (report : Log.Entry → Act (Harbour σ) Unit) : Prop :=
  ∀ e, e.isKept = false → ∀ s, (report e).outcome s = (.ok (), s)

variable {report : Log.Entry → Act (Harbour σ) Unit} (hreport : Quiet report) {s t : Harbour σ}
  {c : ClientId} {stream : StreamId} {p q : QueueId} {qs : List QueueId} {item : Option Event}
  {e : Event} {message : Json}

/-! ## Offers to several mailboxes -/

/-- An item is offered to some mailboxes, one after the other. -/
def offerEach (item : Option Event) (qs : List QueueId) (s : Harbour σ) : Harbour σ :=
  qs.foldl (fun s q => s.setMailbox q ((s.mailbox q).offer item).mailbox) s

@[simp] theorem offerEach_nil : offerEach item [] s = s := rfl

theorem offerEach_cons : offerEach item (q :: qs) s =
    offerEach item qs (s.setMailbox q ((s.mailbox q).offer item).mailbox) := rfl

/-- Offers change nothing but mailboxes. -/
@[simp] theorem rest_offerEach : (offerEach item qs s).rest = s.rest := by
  induction qs generalizing s with
  | nil => rfl
  | cons q qs ih =>
    rw [offerEach_cons, ih]
    rfl

@[simp] theorem length_mailboxes_offerEach :
    (offerEach item qs s).mailboxes.length = s.mailboxes.length := by
  induction qs generalizing s with
  | nil => rfl
  | cons q qs ih =>
    rw [offerEach_cons, ih]
    exact List.length_set

@[simp] theorem hub_offerEach : (offerEach item qs s).hub c = s.hub c := by
  rw [hub, rest_offerEach, hub]

@[simp] theorem reader?_offerEach : (offerEach item qs s).reader? stream = s.reader? stream := by
  rw [reader?, rest_offerEach, reader?]

/-- Each of the mailboxes is offered the item once, and the others are left alone. -/
theorem mailbox_offerEach (distinct : qs.Nodup) (listed : ∀ q ∈ qs, q < s.mailboxes.length)
    (p : QueueId) : (offerEach item qs s).mailbox p =
      if p ∈ qs then ((s.mailbox p).offer item).mailbox else s.mailbox p := by
  induction qs generalizing s with
  | nil => simp
  | cons q qs ih =>
    obtain ⟨hq, distinct⟩ := List.nodup_cons.1 distinct
    have hlt : q < s.mailboxes.length := listed q (by simp)
    rw [offerEach_cons, ih distinct fun p hp => ?_]
    · rw [mailbox_setMailbox _ _ _ _ hlt]
      by_cases hp : p = q
      · subst hp
        simp [hq]
      · simp [hp]
    · rw [Surroundings.setMailbox, List.length_set]
      exact listed p (by simp [hp])

/-- A marker that waits in a mailbox goes on waiting there. -/
theorem none_mem_offerEach (distinct : qs.Nodup) (listed : ∀ q ∈ qs, q < s.mailboxes.length)
    (hp : none ∈ (s.mailbox p).items) : none ∈ ((offerEach item qs s).mailbox p).items := by
  rw [mailbox_offerEach distinct listed]
  split
  · exact Mailbox.none_mem_offer_of_mem hp item
  · exact hp

/-! ## What a message comes to -/

/-- An event cannot be refused by one of some mailboxes: there is no room, and its container has no
id that could be named. -/
def Stuck (e : Event) (qs : List QueueId) (s : Harbour σ) : Prop :=
  (∃ f, Mailbox.refusal e = .error f) ∧ ∃ q ∈ qs, (s.mailbox q).isFull = true

/-- The message cannot be read, or its event cannot be refused by a listener. -/
def Undeliverable (c : ClientId) (message : Json) (s : Harbour σ) : Prop :=
  match Event.ofMessage message with
  | .ok none => False
  | .ok (some e) => Stuck e (s.hub c).listeners s
  | .error _ => True

/-- What listeners hear of a message. -/
def hearing (message : Json) (qs : List QueueId) (s : Harbour σ) : Harbour σ :=
  match Event.ofMessage message with
  | .ok (some e) => offerEach (some e) qs s
  | _ => s

include hreport

/-- The refusal of an event is reported, and nothing comes of that. -/
theorem deliver_quiet (e : Event) (q : QueueId) (s : Harbour σ) :
    (deliver report (some e) q).outcome s =
      match Mailbox.refusal e with
      | .ok _ => (.ok (), s.setMailbox q ((s.mailbox q).offer (some e)).mailbox)
      | .error f => if (s.mailbox q).isFull then (.error f, s)
        else (.ok (), s.setMailbox q ((s.mailbox q).offer (some e)).mailbox) := by
  rw [deliver_event]
  by_cases hfull : (s.mailbox q).isFull
  · rw [if_pos hfull, Act.outcome_bind, Act.outcome_ofExcept, Mailbox.offer_of_full hfull,
      Surroundings.setMailbox_mailbox]
    cases hrefusal : Mailbox.refusal e with
    | error f => simp [hfull]
    | ok entry =>
      -- the entry about a refusal is a light one
      have hlight : entry.isKept = false := by
        unfold Mailbox.refusal at hrefusal
        cases hshort : e.containerId.short with
        | error f => simp [hshort, bind, Except.bind] at hrefusal
        | ok id =>
          simp only [hshort, bind, Except.bind, pure, Except.pure, Except.ok.injEq] at hrefusal
          rw [← hrefusal]
          exact Log.Entry.isKept_debug _ _ _
      exact hreport entry hlight s
  · rw [if_neg hfull, Mailbox.offer_of_room (by simpa using hfull)]
    cases Mailbox.refusal e <;> simp [hfull]

/-- An event goes to all mailboxes, unless it is stuck at one of them; then it has gone to those
before. -/
theorem deliverAll_spec (e : Event) (distinct : qs.Nodup)
    (listed : ∀ q ∈ qs, q < s.mailboxes.length) :
    Spec (· = s) (qs.forM (deliver report (some e)))
      (fun _ t => ¬ Stuck e qs s ∧ t = offerEach (some e) qs s)
      (fun _ t => Stuck e qs s ∧ ∃ before, before <+: qs ∧ t = offerEach (some e) before s) := by
  induction qs generalizing s with
  | nil => exact Spec.pure fun t ht => ⟨by simp [Stuck], ht⟩
  | cons q qs ih =>
    obtain ⟨hq, distinct⟩ := List.nodup_cons.1 distinct
    -- the other mailboxes are as they were after the first one was filled
    have later (p : QueueId) (hp : p ∈ qs) :
        (s.setMailbox q ((s.mailbox q).offer (some e)).mailbox).mailbox p = s.mailbox p :=
      mailbox_setMailbox_ne _ _ _ _ fun hpq => hq (hpq ▸ hp)
    have first : Spec (· = s) (deliver report (some e) q)
        (fun _ t => ((∃ f, Mailbox.refusal e = .error f) → (s.mailbox q).isFull = false) ∧
          t = s.setMailbox q ((s.mailbox q).offer (some e)).mailbox)
        (fun _ t => Stuck e (q :: qs) s ∧ ∃ before, before <+: q :: qs ∧
          t = offerEach (some e) before s) := by
      intro u hu
      rw [hu, deliver_quiet hreport]
      cases hrefusal : Mailbox.refusal e with
      | ok entry => exact ⟨by simp, rfl⟩
      | error f =>
        cases hfull : (s.mailbox q).isFull with
        | true =>
          simp only [if_true]
          exact ⟨⟨⟨f, hrefusal⟩, q, by simp, hfull⟩, [], List.nil_prefix, rfl⟩
        | false => simp
    refine Spec.bind first fun _ => Spec.of_fact fun hroom => ?_
    refine Spec.each fun t ht => ?_
    subst ht
    have rest := ih distinct (s := s.setMailbox q ((s.mailbox q).offer (some e)).mailbox) fun p hp => by
      rw [Surroundings.setMailbox, List.length_set]
      exact listed p (by simp [hp])
    refine rest.post ?_ ?_
    · rintro _ u ⟨hfree, rfl⟩
      refine ⟨?_, rfl⟩
      rintro ⟨hrefusal, p, hp, hfull⟩
      rcases List.mem_cons.1 hp with rfl | hp
      · rw [hroom hrefusal] at hfull
        cases hfull
      · exact hfree ⟨hrefusal, p, hp, by rw [later p hp, hfull]⟩
    · rintro _ u ⟨⟨hrefusal, p, hp, hfull⟩, before, hbefore, rfl⟩
      refine ⟨⟨hrefusal, p, by simp [hp], by rw [← later p hp, hfull]⟩, q :: before, ?_, rfl⟩
      exact (List.cons_prefix_cons).2 ⟨rfl, hbefore⟩

/-- The listeners of a client hear of a message, unless it cannot be delivered; then some of them may
have heard of it. -/
theorem receive_spec (distinct : (s.hub c).listeners.Nodup)
    (listed : ∀ q ∈ (s.hub c).listeners, q < s.mailboxes.length) :
    Spec (· = s) (receive report c message)
      (fun _ t => ¬ Undeliverable c message s ∧ t = hearing message (s.hub c).listeners s)
      (fun _ t => Undeliverable c message s ∧ ∃ item before, before <+: (s.hub c).listeners ∧
        t = offerEach item before s) := by
  unfold receive Undeliverable hearing
  cases Event.ofMessage message with
  | error f =>
    refine Spec.ofExcept_fail rfl fun t ht => ⟨trivial, none, [], List.nil_prefix, ht⟩
  | ok heard =>
    refine Spec.ofExcept_bind rfl ?_
    cases heard with
    | none => exact Spec.pure fun t ht => ⟨id, ht⟩
    | some e =>
      refine Spec.read_bind ((deliverAll_spec hreport e distinct listed).post (fun _ _ ht => ht) ?_)
      rintro _ t ⟨hstuck, before, hbefore, ht⟩
      exact ⟨hstuck, some e, before, hbefore, ht⟩

/-! ## The end of a stream -/

/-- When the reading is over, the client gives the stream up and every listener gets the marker. -/
theorem finishReading_quiet (c : ClientId) (stream : StreamId) (reason : Option Fault)
    (s : Harbour σ) : finishReading report c stream reason s =
      offerEach none (s.hub c).listeners (giveUp c stream (s.endReading stream)) := by
  have announced : finishReading report c stream reason s =
      announceEnd report c (giveUp c stream (s.endReading stream)) := by
    cases reason with
    | none => rfl
    | some f =>
      have hquiet : (report (brokenEntry f)).outcome s = (.ok (), s) :=
        hreport _ (Log.Entry.isKept_debug _ _ _) s
      simp only [finishReading, hquiet, ite_self]
  rw [announced]
  show offerEach none ((giveUp c stream (s.endReading stream)).hub c).listeners _ = _
  rw [listeners_giveUp, hub_endReading]

/-- A message that can be delivered is heard by all listeners of the client that reads the stream. -/
theorem feed_delivered (hr : s.reader? stream = some c) (distinct : (s.hub c).listeners.Nodup)
    (listed : ∀ q ∈ (s.hub c).listeners, q < s.mailboxes.length)
    (hm : ¬ Undeliverable c message s) :
    feed report stream message s = hearing message (s.hub c).listeners s := by
  have received : Spec (· = s) (receive report c message) _ _ := receive_spec hreport distinct listed
  simp only [feed, hr]
  rcases ho : (receive report c message).outcome s with ⟨f | ⟨⟩, t⟩
  · exact absurd (received.of_error rfl ho).1 hm
  · exact (received.of_ok rfl ho).2

/-- A message that cannot be delivered ends the reading; some listeners may have heard of it. -/
theorem feed_undeliverable (hr : s.reader? stream = some c)
    (distinct : (s.hub c).listeners.Nodup)
    (listed : ∀ q ∈ (s.hub c).listeners, q < s.mailboxes.length) (hm : Undeliverable c message s) :
    ∃ item before, before <+: (s.hub c).listeners ∧ feed report stream message s =
      offerEach none (s.hub c).listeners
        (giveUp c stream ((offerEach item before s).endReading stream)) := by
  have received : Spec (· = s) (receive report c message) _ _ := receive_spec hreport distinct listed
  simp only [feed, hr]
  rcases ho : (receive report c message).outcome s with ⟨f | ⟨⟩, t⟩
  · obtain ⟨-, item, before, hbefore, rfl⟩ := received.of_error rfl ho
    refine ⟨item, before, hbefore, ?_⟩
    simp only [finishReading_quiet hreport, hub_offerEach]
  · exact absurd hm (received.of_ok rfl ho).1

/-- The end of a stream that is read ends the reading. -/
theorem finish_quiet (hr : s.reader? stream = some c) (reason : Option Fault) :
    finish report stream reason s =
      offerEach none (s.hub c).listeners (giveUp c stream (s.endReading stream)) := by
  simp only [finish, hr]
  exact finishReading_quiet hreport c stream reason s

end Harbour

end HostRouting
