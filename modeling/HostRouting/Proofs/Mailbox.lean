import HostRouting.Host
import HostRouting.Proofs.Spec

/-!
# Offering and taking

What becomes of a mailbox when an item is offered to it, and when one is taken out.
-/

namespace HostRouting

open Act (Spec failing)

/-! ## Offers -/

namespace Mailbox

variable {m : Mailbox}

/-- An item is put at the end where there is room. -/
theorem offer_of_room (h : m.isFull = false) (item : Option Event) :
    m.offer item = ⟨m.push item, true, 1⟩ := by
  rw [offer.eq_def, dif_neg (by simp [h])]

/-- A full mailbox refuses an event. -/
theorem offer_of_full (h : m.isFull = true) (e : Event) : m.offer (some e) = ⟨m, false, 1⟩ := by
  rw [offer, dif_pos h]

/-- The marker for the end gets through. -/
theorem none_mem_offer (m : Mailbox) : none ∈ (m.offer none).mailbox.items := by
  generalize hn : m.items.length = n
  induction n using Nat.strongRecOn generalizing m with
  | ind n ih =>
    by_cases hm : m.isFull
    · rw [offer, dif_pos hm]
      exact ih _ (hn ▸ dropOldest_length_lt hm) _ rfl
    · rw [offer_of_room (by simpa using hm)]
      simp [push]

/-- The marker for the end displaces items, but brings no other. -/
theorem mem_of_mem_offer (m : Mailbox) {e : Event}
    (h : some e ∈ (m.offer none).mailbox.items) : some e ∈ m.items := by
  generalize hn : m.items.length = n
  induction n using Nat.strongRecOn generalizing m with
  | ind n ih =>
    by_cases hm : m.isFull
    · rw [offer, dif_pos hm] at h
      exact List.mem_of_mem_tail (ih _ (hn ▸ dropOldest_length_lt hm) _ h rfl)
    · rw [offer_of_room (by simpa using hm)] at h
      simpa [push] using h

/-- A marker is displaced by another one only. -/
theorem none_mem_offer_of_mem (h : none ∈ m.items) (item : Option Event) :
    none ∈ (m.offer item).mailbox.items := by
  cases item with
  | none => exact none_mem_offer m
  | some e =>
    by_cases hm : m.isFull
    · rw [offer_of_full hm]
      exact h
    · rw [offer_of_room (by simpa using hm)]
      exact List.mem_append_left _ h

end Mailbox

/-! ## Mailboxes by number -/

namespace Surroundings

variable {σ : Type} (s : Surroundings σ) (p q : QueueId) (m : Mailbox)

/-- The mailboxes after one of them was replaced. -/
theorem mailbox_setMailbox (hq : q < s.mailboxes.length) :
    (s.setMailbox q m).mailbox p = if p = q then m else s.mailbox p := by
  simp only [Surroundings.mailbox, Surroundings.setMailbox, List.getElem?_set]
  by_cases hp : p = q
  · simp [hp, hq]
  · simp [hp, Ne.symm hp]

/-- A mailbox is the same after another one was replaced. -/
theorem mailbox_setMailbox_ne (hp : p ≠ q) : (s.setMailbox q m).mailbox p = s.mailbox p := by
  simp [Surroundings.mailbox, Surroundings.setMailbox, Ne.symm hp]

/-- The mailboxes that were there are the same after one was added. -/
theorem mailbox_addMailbox (hq : q < s.mailboxes.length) :
    (s.addMailbox m).mailbox q = s.mailbox q := by
  simp [Surroundings.mailbox, Surroundings.addMailbox, List.getElem?_append_left hq]

/-- The mailbox that was added. -/
theorem mailbox_addMailbox_length : (s.addMailbox m).mailbox s.mailboxes.length = m := by
  simp [Surroundings.mailbox, Surroundings.addMailbox]

/-- A mailbox that is replaced by itself. -/
theorem setMailbox_mailbox (s : Surroundings σ) (q : QueueId) : s.setMailbox q (s.mailbox q) = s := by
  have : s.mailboxes.set q (s.mailbox q) = s.mailboxes := by
    rcases Nat.lt_or_ge q s.mailboxes.length with hlt | hge
    · simp [Surroundings.mailbox, List.getElem?_eq_getElem hlt]
    · exact List.set_eq_of_length_le hge
  simp only [Surroundings.setMailbox, this]

/-- The oldest item is taken out of a mailbox, or nothing if there is none. -/
theorem take_spec (P : Surroundings σ → Prop) (q : QueueId) (wait : Interval) :
    Spec P (take q wait)
      (fun item s => match item with
        | none => P s ∧ (s.mailbox q).items = []
        | some i => ∃ t rest, P t ∧ (t.mailbox q).items = i :: rest ∧
            s = t.setMailbox q { t.mailbox q with items := rest })
      (failing fun _ => P) := by
  intro s hs
  have hself := setMailbox_mailbox s q
  rw [take, Act.outcome_ofOutcome]
  cases wait with
  | missing =>
    simp only [Mailbox.take, hself]
    exact ⟨rfl, hs⟩
  | seconds t =>
    cases hneg : t.isBelowZero with
    | true =>
      simp only [Mailbox.take, hneg, if_true, hself]
      exact ⟨rfl, hs⟩
    | false =>
      cases hitems : (s.mailbox q).items with
      | cons i rest =>
        simp only [Mailbox.take, hneg, hitems]
        exact ⟨s, rest, hs, hitems, rfl⟩
      | nil =>
        cases hlong : t.exceeds Interval.longest with
        | true =>
          simp only [Mailbox.take, hneg, hitems, hlong, Bool.false_eq_true, if_false, if_true, hself]
          exact ⟨rfl, hs⟩
        | false =>
          simp only [Mailbox.take, hneg, hitems, hlong, Bool.false_eq_true, if_false, hself]
          exact ⟨hs, trivial⟩

end Surroundings

end HostRouting
