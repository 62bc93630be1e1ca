import HostRouting.Proofs.Delivery
import HostRouting.Proofs.Parting
import Mathlib.Data.List.Nodup
import Mathlib.Data.List.Range

/-!
# What becomes of the items that are offered

A mailbox is used by offers and looks, in any order. Every item that is offered is kept, that is to
say it waits or was taken out in its turn, or it is lost. An event is lost when the mailbox is full
at its offer, and the oldest item when the mailbox is full at the offer of a marker, which has to get
through; an offer loses no more than one item. A marker waits until a marker was taken out.
-/

namespace HostRouting.Mailbox

/-! ## A single offer -/

section

variable {m : Mailbox}

/-- The mailbox holds no more items than it has room for. -/
def Bounded (m : Mailbox) : Prop := m.capacity = 0 ∨ m.items.length ≤ m.capacity

theorem isFull_iff (h : m.Bounded) :
    m.isFull = true ↔ m.capacity ≠ 0 ∧ m.items.length = m.capacity := by
  simp only [Bounded, isFull, bne_iff_ne, ne_eq, Bool.and_eq_true, decide_eq_true_eq] at h ⊢
  omega

/-- A marker takes the room of the oldest item of a full mailbox, and gets through at the second
try. -/
theorem offer_none_of_full (h : m.Bounded) (hfull : m.isFull = true) :
    ∃ oldest rest, m.items = oldest :: rest ∧
      m.offer none = ⟨{ m with items := rest ++ [none] }, true, 2⟩ := by
  obtain ⟨hcapacity, hlength⟩ := (isFull_iff h).1 hfull
  cases hitems : m.items with
  | nil =>
    rw [hitems] at hlength
    exact absurd hlength.symm hcapacity
  | cons oldest rest =>
    have hroom : m.dropOldest.isFull = false := by
      simp only [dropOldest, isFull, hitems, List.tail_cons, Bool.and_eq_false_iff,
        decide_eq_false_iff_not]
      rw [hitems, List.length_cons] at hlength
      exact .inr (by omega)
    refine ⟨oldest, rest, rfl, ?_⟩
    rw [offer, dif_pos hfull, offer_of_room hroom]
    simp [push, dropOldest, hitems]

/-- What an offer can come to. -/
theorem offer_cases (h : m.Bounded) (item : Option Event) :
    (m.isFull = false ∧ m.offer item = ⟨m.push item, true, 1⟩) ∨
      (m.isFull = true ∧ ∃ e, item = some e ∧ m.offer item = ⟨m, false, 1⟩) ∨
      (m.isFull = true ∧ item = none ∧ ∃ oldest rest, m.items = oldest :: rest ∧
        m.offer item = ⟨{ m with items := rest ++ [none] }, true, 2⟩) := by
  cases hfull : m.isFull with
  | false => exact .inl ⟨rfl, offer_of_room hfull item⟩
  | true =>
    cases item with
    | some e => exact .inr (.inl ⟨rfl, e, rfl, offer_of_full hfull e⟩)
    | none => exact .inr (.inr ⟨rfl, rfl, offer_none_of_full h hfull⟩)

/-- An offer is made twice at the most. -/
theorem tries_offer_le (h : m.Bounded) (item : Option Event) : (m.offer item).tries ≤ 2 := by
  rcases offer_cases h item with ⟨-, ho⟩ | ⟨-, e, -, ho⟩ | ⟨-, -, oldest, rest, -, ho⟩
  all_goals simp [ho]

/-- No offer exceeds the bound. -/
theorem Bounded.offer (h : m.Bounded) (item : Option Event) : (m.offer item).mailbox.Bounded := by
  rcases offer_cases h item with ⟨hfull, ho⟩ | ⟨-, e, -, ho⟩ | ⟨-, -, oldest, rest, hitems, ho⟩
  · rw [ho]
    simp only [Bounded, push, isFull, Bool.and_eq_false_iff, bne_eq_false_iff_eq,
      decide_eq_false_iff_not, List.length_append, List.length_singleton] at hfull ⊢
    omega
  · rw [ho]
    exact h
  · rw [ho]
    simpa [Bounded, hitems] using h

end

/-! ## A mailbox in use -/

/-- What is done with a mailbox. -/
inductive Use where
  /-- An item is offered. -/
  | offer (item : Option Event)
  /-- The oldest item is taken out, if there is one. -/
  | poll
  deriving DecidableEq

/-- The item that is offered. -/
def Use.offered? : Use → Option (Option Event)
  | .offer item => some item
  | .poll => none

/-- A mailbox, and what was taken out of it so far. -/
structure Turnover where
  mailbox : Mailbox
  polled : List (Option Event) := []

/-- The mailbox is used. -/
def Turnover.use (t : Turnover) : Use → Turnover
  | .offer item => { t with mailbox := (t.mailbox.offer item).mailbox }
  | .poll => { mailbox := t.mailbox.poll.2, polled := t.polled ++ t.mailbox.poll.1.toList }

/-- A new mailbox that was used. -/
def turnover (capacity : Int) (uses : List Use) : Turnover :=
  uses.foldl Turnover.use { mailbox := ofCapacity capacity }

/-- The items that were offered. -/
def offered (uses : List Use) : List (Option Event) := uses.filterMap Use.offered?

section

variable {capacity : Int} {uses : List Use} {u : Use} {item : Option Event} {e : Event} {j k : ℕ}

theorem turnover_concat (capacity : Int) (uses : List Use) (u : Use) :
    turnover capacity (uses ++ [u]) = (turnover capacity uses).use u := by
  rw [turnover, List.foldl_append]
  rfl

/-- The bound is kept in mind. -/
theorem capacity_turnover (capacity : Int) (uses : List Use) :
    (turnover capacity uses).mailbox.capacity = capacity.toNat := by
  induction uses using List.reverseRecOn with
  | nil => rfl
  | append_singleton uses u ih =>
    rw [turnover_concat, ← ih]
    cases u with
    | offer item => exact capacity_offer _ item
    | poll => rfl

/-- The bound is never exceeded. -/
theorem turnover_bounded (capacity : Int) (uses : List Use) :
    (turnover capacity uses).mailbox.Bounded := by
  induction uses using List.reverseRecOn with
  | nil => exact .inr (Nat.zero_le _)
  | append_singleton uses u ih =>
    rw [turnover_concat]
    cases u with
    | offer item => exact ih.offer item
    | poll =>
      refine ih.imp_right fun h => ?_
      simp only [Turnover.use, poll, dropOldest, List.length_tail]
      omega

/-! ## Markers -/

/-- A marker was offered, and no marker was taken out since. -/
def Pending (capacity : Int) (uses : List Use) : Prop :=
  ∃ k, uses[k]? = some (.offer none) ∧ ∀ j, k < j → uses[j]? = some .poll →
    (turnover capacity (uses.take j)).mailbox.items.head? ≠ some none

theorem Pending.of_concat (h : Pending capacity (uses ++ [u])) (hu : u ≠ .offer none) :
    Pending capacity uses ∧
      (u = .poll → (turnover capacity uses).mailbox.items.head? ≠ some none) := by
  obtain ⟨k, hk, hlater⟩ := h
  have hlt : k < uses.length := by
    rcases Nat.lt_or_ge k uses.length with hlt | hge
    · exact hlt
    · rw [List.getElem?_append_right hge, List.getElem?_singleton] at hk
      split at hk
      · exact absurd (Option.some.inj hk) hu
      · cases hk
  rw [List.getElem?_append_left hlt] at hk
  refine ⟨⟨k, hk, fun j hj hpoll => ?_⟩, ?_⟩
  · have hj' : j < uses.length := (List.getElem?_eq_some_iff.1 hpoll).1
    have := hlater j hj (by rw [List.getElem?_append_left hj', hpoll])
    rwa [List.take_append_of_le_length hj'.le] at this
  · rintro rfl
    have := hlater uses.length hlt (by simp)
    rwa [List.take_append_of_le_length le_rfl, List.take_length] at this

/-- A marker waits until a marker was taken out. -/
theorem Pending.none_mem (h : Pending capacity uses) :
    none ∈ (turnover capacity uses).mailbox.items := by
  induction uses using List.reverseRecOn with
  | nil =>
    obtain ⟨k, hk, -⟩ := h
    cases hk
  | append_singleton uses u ih =>
    rw [turnover_concat]
    by_cases hu : u = .offer none
    · subst hu
      exact none_mem_offer _
    · obtain ⟨hbefore, hpoll⟩ := h.of_concat hu
      have hmem := ih hbefore
      cases u with
      | offer item => exact none_mem_offer_of_mem hmem item
      | poll =>
        -- what is taken out is not the marker, which is among the others then
        simp only [Turnover.use, poll, dropOldest]
        cases hitems : (turnover capacity uses).mailbox.items with
        | nil =>
          rw [hitems] at hmem
          cases hmem
        | cons oldest rest =>
          rw [hitems] at hmem
          have hother : none ≠ oldest := by
            rintro rfl
            exact hpoll rfl (by rw [hitems]; rfl)
          exact List.mem_of_ne_of_mem hother hmem

/-! ## What is kept and what is lost -/

/-- What becomes of an item. -/
inductive Fate where
  /-- It waits, or it was taken out. -/
  | kept
  /-- It was not taken in. -/
  | refused
  /-- It had to make room for the marker that was offered at this place. -/
  | displaced (place : ℕ)
  deriving DecidableEq

/-- The items that are kept. -/
def keptItems (fate : ℕ → Fate) (uses : List Use) : List (Option Event) :=
  uses.zipIdx.filterMap fun p => if fate p.2 = .kept then p.1.offered? else none

/-- An event is offered at this place, and the mailbox is full. -/
def RefusedAt (capacity : Int) (uses : List Use) (k : ℕ) : Prop :=
  ∃ e, uses[k]? = some (.offer (some e)) ∧ (turnover capacity (uses.take k)).mailbox.isFull = true

/-- The item that is offered at place `k` is the oldest one when a marker is offered at place `j`,
and the mailbox is full. -/
def DisplacedAt (capacity : Int) (uses : List Use) (k j : ℕ) : Prop :=
  k < j ∧ uses[j]? = some (.offer none) ∧ (turnover capacity (uses.take j)).mailbox.isFull = true ∧
    ∃ item, uses[k]? = some (.offer item) ∧
      (turnover capacity (uses.take j)).mailbox.items.head? = some item

/-- The fates account for all items that were offered: those that are kept were taken out and wait,
one after the other, and each of the others was lost for a reason; no marker displaces two. -/
structure Accounts (capacity : Int) (uses : List Use) (fate : ℕ → Fate) : Prop where
  kept : keptItems fate uses =
    (turnover capacity uses).polled ++ (turnover capacity uses).mailbox.items
  refused : ∀ k, fate k = .refused → RefusedAt capacity uses k
  displaced : ∀ k j, fate k = .displaced j → DisplacedAt capacity uses k j
  once : ∀ k l j, fate k = .displaced j → fate l = .displaced j → k = l

variable {fate : ℕ → Fate} {x : Option Event} {xs ys : List (Option Event)}

theorem keptItems_concat (fate : ℕ → Fate) (uses : List Use) (u : Use) :
    keptItems fate (uses ++ [u]) =
      keptItems fate uses ++ if fate uses.length = .kept then u.offered?.toList else [] := by
  simp only [keptItems, List.zipIdx_append, List.filterMap_append, Nat.zero_add]
  congr 1
  by_cases h : fate uses.length = .kept
  · cases hu : u.offered? <;> simp [h, hu]
  · simp [h]

/-- What is kept comes in the order of the offers. -/
theorem keptItems_sublist (fate : ℕ → Fate) (uses : List Use) :
    (keptItems fate uses).Sublist (offered uses) := by
  induction uses using List.reverseRecOn with
  | nil => exact .refl _
  | append_singleton uses u ih =>
    rw [keptItems_concat, offered, List.filterMap_append]
    refine ih.append ?_
    split
    · cases hu : u.offered? <;> simp [hu]
    · simp

/-- Another fate for what is at none of the places makes no difference. -/
theorem filterMap_update {places : List (Use × ℕ)} (h : ∀ p ∈ places, p.2 ≠ k) (f : Fate) :
    (places.filterMap fun p => if Function.update fate k f p.2 = .kept then p.1.offered? else none) =
      places.filterMap fun p => if fate p.2 = .kept then p.1.offered? else none := by
  apply List.filterMap_congr
  intro p hp
  rw [Function.update_of_ne (h p hp)]

theorem keptItems_update_length (fate : ℕ → Fate) (uses : List Use) (f : Fate) :
    keptItems (Function.update fate uses.length f) uses = keptItems fate uses := by
  refine filterMap_update (fun p hp => ?_) f
  have hlt : p.2 < uses.length := List.snd_lt_of_mem_zipIdx hp
  exact hlt.ne

/-- A place is that of no other use. -/
theorem ne_of_zipIdx_eq {before after : List (Use × ℕ)}
    (h : uses.zipIdx = before ++ (u, k) :: after) : ∀ p ∈ before ++ after, p.2 ≠ k := by
  have hnodup : (uses.zipIdx.map Prod.snd).Nodup := by
    rw [List.zipIdx_map_snd]
    exact List.nodup_range'
  rw [h, List.map_append, List.map_cons, List.nodup_middle, List.nodup_cons] at hnodup
  intro p hp hpk
  apply hnodup.1
  rw [← List.map_append]
  exact List.mem_map.2 ⟨p, hp, hpk⟩

/-- Each of the items that are kept was offered at some place, and with another fate there the others
are kept. -/
theorem exists_place (h : keptItems fate uses = xs ++ x :: ys) :
    ∃ k, uses[k]? = some (.offer x) ∧ fate k = .kept ∧
      ∀ f, f ≠ .kept → keptItems (Function.update fate k f) uses = xs ++ ys := by
  obtain ⟨before, ⟨u, k⟩, after, hparts, hbefore, hx, hafter⟩ := exists_part_of_filterMap h
  have hplace : (u, k) ∈ uses.zipIdx := by simp [hparts]
  have hkept : fate k = .kept := by
    by_contra hne
    simp [hne] at hx
  have hoffer : u = .offer x := by
    cases u with
    | poll => simp [Use.offered?] at hx
    | offer item => simpa [Use.offered?, hkept] using hx
  subst hoffer
  refine ⟨k, List.mem_zipIdx_iff_getElem?.1 hplace, hkept, fun f hf => ?_⟩
  have hother := ne_of_zipIdx_eq hparts
  rw [keptItems, hparts, List.filterMap_append, List.filterMap_cons_none (by simp [hf]),
    filterMap_update (fun p hp => hother p (List.mem_append_left _ hp)),
    filterMap_update (fun p hp => hother p (List.mem_append_right _ hp)), hbefore, hafter]

/-! ### One more use -/

theorem RefusedAt.concat (h : RefusedAt capacity uses k) (u : Use) :
    RefusedAt capacity (uses ++ [u]) k := by
  obtain ⟨e, hk, hfull⟩ := h
  have hlt : k < uses.length := (List.getElem?_eq_some_iff.1 hk).1
  refine ⟨e, by rw [List.getElem?_append_left hlt, hk], ?_⟩
  rwa [List.take_append_of_le_length hlt.le]

theorem DisplacedAt.concat (h : DisplacedAt capacity uses k j) (u : Use) :
    DisplacedAt capacity (uses ++ [u]) k j := by
  obtain ⟨hkj, hj, hfull, item, hk, hhead⟩ := h
  have hlt : j < uses.length := (List.getElem?_eq_some_iff.1 hj).1
  refine ⟨hkj, by rw [List.getElem?_append_left hlt, hj], ?_, item,
    by rw [List.getElem?_append_left (hkj.trans hlt), hk], ?_⟩
  all_goals rwa [List.take_append_of_le_length hlt.le]

/-- Nothing is lost that was not offered. -/
theorem Accounts.fate_length (h : Accounts capacity uses fate) : fate uses.length = .kept := by
  cases hf : fate uses.length with
  | kept => rfl
  | refused =>
    obtain ⟨e, hk, -⟩ := h.refused _ hf
    simp at hk
  | displaced j =>
    obtain ⟨-, -, -, item, hk, -⟩ := h.displaced _ _ hf
    simp at hk

/-- With no new loss, the fates are as before. -/
theorem Accounts.concat (h : Accounts capacity uses fate)
    (hu : (turnover capacity (uses ++ [u])).polled ++ (turnover capacity (uses ++ [u])).mailbox.items =
      (turnover capacity uses).polled ++ (turnover capacity uses).mailbox.items ++
        u.offered?.toList) : Accounts capacity (uses ++ [u]) fate where
  kept := by rw [keptItems_concat, if_pos h.fate_length, h.kept, hu]
  refused k hk := (h.refused k hk).concat u
  displaced k j hk := (h.displaced k j hk).concat u
  once := h.once

/-- What has another fate than the one that is new had it before. -/
theorem eq_of_update {f g : Fate} (h : Function.update fate k f j = g) (hne : g ≠ f) : fate j = g := by
  by_cases hjk : j = k
  · rw [hjk, Function.update_self] at h
    exact absurd h.symm hne
  · rwa [Function.update_of_ne hjk] at h

/-- An event is refused. -/
theorem Accounts.concat_refused (h : Accounts capacity uses fate)
    (hfull : (turnover capacity uses).mailbox.isFull = true) (e : Event) :
    Accounts capacity (uses ++ [.offer (some e)]) (Function.update fate uses.length .refused) := by
  constructor
  · rw [keptItems_concat, keptItems_update_length, Function.update_self, if_neg (by simp), h.kept,
      turnover_concat, Turnover.use, offer_of_full hfull, List.append_nil]
  · intro k hk
    by_cases hlast : k = uses.length
    · subst hlast
      exact ⟨e, by simp, by simpa using hfull⟩
    · rw [Function.update_of_ne hlast] at hk
      exact (h.refused k hk).concat _
  · intro k j hk
    exact (h.displaced k j (eq_of_update hk (by simp))).concat _
  · intro k l j hk hl
    exact h.once k l j (eq_of_update hk (by simp)) (eq_of_update hl (by simp))

/-- No marker was offered before at the place that comes next. -/
theorem Accounts.not_displaced_length (h : Accounts capacity uses fate) (k : ℕ) :
    fate k ≠ .displaced uses.length := by
  intro hk
  obtain ⟨-, hj, -⟩ := h.displaced k _ hk
  simp at hj

/-- The oldest item makes room for a marker. -/
theorem Accounts.concat_displaced (h : Accounts capacity uses fate)
    (hfull : (turnover capacity uses).mailbox.isFull = true) :
    ∃ fate', Accounts capacity (uses ++ [.offer none]) fate' := by
  obtain ⟨oldest, rest, hitems, hoffer⟩ := offer_none_of_full (turnover_bounded capacity uses) hfull
  obtain ⟨k, hk, hkept, hwithout⟩ := exists_place (hitems ▸ h.kept)
  have hlt : k < uses.length := (List.getElem?_eq_some_iff.1 hk).1
  have hplace : ∀ l, Function.update fate k (.displaced uses.length) l = .displaced uses.length →
      l = k := by
    intro l hl
    by_contra hlk
    rw [Function.update_of_ne hlk] at hl
    exact h.not_displaced_length l hl
  refine ⟨Function.update fate k (.displaced uses.length), ?_, ?_, ?_, ?_⟩
  · rw [keptItems_concat, hwithout _ (by simp), Function.update_of_ne hlt.ne', h.fate_length,
      turnover_concat, Turnover.use, hoffer]
    simp [Use.offered?]
  · intro l hl
    exact (h.refused l (eq_of_update hl (by simp))).concat _
  · intro l j hl
    by_cases hj : j = uses.length
    · subst hj
      rw [hplace l hl]
      refine ⟨hlt, by simp, by simpa using hfull, oldest, ?_, ?_⟩
      · rw [List.getElem?_append_left hlt, hk]
      · simp [hitems]
    · exact (h.displaced l j (eq_of_update hl (by simp [hj]))).concat _
  · intro l l' j hl hl'
    by_cases hj : j = uses.length
    · subst hj
      rw [hplace l hl, hplace l' hl']
    · exact h.once l l' j (eq_of_update hl (by simp [hj])) (eq_of_update hl' (by simp [hj]))

/-- All items can be accounted for. -/
theorem exists_accounts (capacity : Int) (uses : List Use) : ∃ fate, Accounts capacity uses fate := by
  induction uses using List.reverseRecOn with
  | nil => exact ⟨fun _ => .kept, rfl, by simp, by simp, by simp⟩
  | append_singleton uses u ih =>
    obtain ⟨fate, h⟩ := ih
    cases u with
    | poll =>
      refine ⟨fate, h.concat ?_⟩
      rw [turnover_concat]
      cases hitems : (turnover capacity uses).mailbox.items <;>
        simp [Turnover.use, poll, dropOldest, hitems, Use.offered?]
    | offer item =>
      rcases offer_cases (turnover_bounded capacity uses) item with
        ⟨-, hoffer⟩ | ⟨hfull, e, rfl, -⟩ | ⟨hfull, rfl, -⟩
      · refine ⟨fate, h.concat ?_⟩
        rw [turnover_concat]
        simp [Turnover.use, hoffer, push, Use.offered?]
      · exact ⟨_, h.concat_refused hfull e⟩
      · exact h.concat_displaced hfull

/-- **Whatever is offered and taken out, a mailbox keeps its promises.** An offer ends with the second
try at the latest, and the bound is never exceeded. What was taken out and what waits is a part of
what was offered, in its order. The others are accounted for: an event that found the mailbox full was
refused, and the oldest item of a full mailbox made room for a marker, each marker displacing no more
than one. A marker that was offered waits unless one was taken out since. -/
theorem offers_accounted_for (capacity : Int) (uses : List Use) :
    (∀ item, ((turnover capacity uses).mailbox.offer item).tries ≤ 2) ∧
      (0 < capacity → ((turnover capacity uses).mailbox.items.length : Int) ≤ capacity) ∧
      ((turnover capacity uses).polled ++ (turnover capacity uses).mailbox.items).Sublist
        (offered uses) ∧
      (∃ fate, Accounts capacity uses fate) ∧
      (Pending capacity uses → none ∈ (turnover capacity uses).mailbox.items) := by
  have hbounded := turnover_bounded capacity uses
  obtain ⟨fate, haccounts⟩ := exists_accounts capacity uses
  refine ⟨fun item => tries_offer_le hbounded item, ?_, ?_, ⟨fate, haccounts⟩, Pending.none_mem⟩
  · intro hpos
    rw [Bounded, capacity_turnover] at hbounded
    omega
  · rw [← haccounts.kept]
    exact keptItems_sublist fate uses

end

/-- A mailbox for one item, in which markers displace an event and one another. -/
def crowding : List Use :=
  let start : Event := ⟨.str "start", .str "aaaa"⟩
  [.offer (some start), .offer none, .poll, .offer none, .offer (some start), .offer none]

theorem crowding_pending : Pending 1 crowding := by
  refine ⟨3, rfl, fun j hj hpoll => ?_⟩
  -- after the second marker nothing is taken out
  have hlt : j < crowding.length := (List.getElem?_eq_some_iff.1 hpoll).1
  have hlate : j = 4 ∨ j = 5 := by
    simp only [crowding, List.length_cons, List.length_nil] at hlt
    omega
  rcases hlate with rfl | rfl <;> simp [crowding] at hpoll

theorem offers_accounted_for_crowding :
    (0 : Int) < 1 ∧ Pending 1 crowding ∧
      ((turnover 1 crowding).mailbox.items.length : Int) ≤ 1 ∧
      none ∈ (turnover 1 crowding).mailbox.items :=
  ⟨by decide, crowding_pending, (offers_accounted_for 1 crowding).2.1 (by decide),
    (offers_accounted_for 1 crowding).2.2.2.2 crowding_pending⟩

end HostRouting.Mailbox
