import HostRouting.Proofs.Heeding
import HostRouting.Proofs.Registry

/-!
# What listeners are sent

Listeners come and go while streams are opened, end and are closed. What a listener is sent can be
told from what occurred: the events of the messages that came in while it was registered, and a
marker for each stream that ended meanwhile. A mailbox without bound gets all of that in its order,
and a mailbox with a bound gets a part of it.
-/

namespace HostRouting

/-! ## Offers with and without a bound -/

namespace Mailbox

variable {m : Mailbox}

/-- Offers leave the bound. -/
@[simp] theorem capacity_offer (m : Mailbox) (item : Option Event) :
    (m.offer item).mailbox.capacity = m.capacity := by
  cases item with
  | some e =>
    by_cases hm : m.isFull
    · rw [offer_of_full hm]
    · rw [offer_of_room (by simpa using hm), push]
  | none =>
    generalize hn : m.items.length = n
    induction n using Nat.strongRecOn generalizing m with
    | ind n ih =>
      by_cases hm : m.isFull
      · rw [offer, dif_pos hm]
        exact ih _ (hn ▸ dropOldest_length_lt hm) _ rfl
      · rw [offer_of_room (by simpa using hm), push]

/-- Without a bound, whatever is offered is put at the end. -/
theorem items_offer (h : m.capacity = 0) (item : Option Event) :
    (m.offer item).mailbox.items = m.items ++ [item] := by
  rw [offer_of_room (by simp [isFull, h]), push]

/-- Offers bring nothing but the item, and leave the order. -/
theorem offer_sublist (m : Mailbox) (item : Option Event) :
    (m.offer item).mailbox.items.Sublist (m.items ++ [item]) := by
  cases item with
  | some e =>
    by_cases hm : m.isFull
    · rw [offer_of_full hm]
      exact List.sublist_append_left _ _
    · rw [offer_of_room (by simpa using hm)]
      exact .refl _
  | none =>
    generalize hn : m.items.length = n
    induction n using Nat.strongRecOn generalizing m with
    | ind n ih =>
      by_cases hm : m.isFull
      · rw [offer, dif_pos hm]
        have dropped := ih _ (hn ▸ dropOldest_length_lt hm) m.dropOldest rfl
        exact dropped.trans ((List.tail_sublist m.items).append_right _)
      · rw [offer_of_room (by simpa using hm)]
        exact .refl _

@[simp] theorem offerAll_nil (m : Mailbox) : m.offerAll [] = m := rfl

theorem offerAll_cons (m : Mailbox) (item : Option Event) (items : List (Option Event)) :
    m.offerAll (item :: items) = (m.offer item).mailbox.offerAll items := rfl

@[simp] theorem capacity_offerAll (m : Mailbox) (items : List (Option Event)) :
    (m.offerAll items).capacity = m.capacity := by
  induction items generalizing m with
  | nil => rfl
  | cons item items ih => rw [offerAll_cons, ih, capacity_offer]

/-- Without a bound, all items are put at the end. -/
theorem items_offerAll (h : m.capacity = 0) (items : List (Option Event)) :
    (m.offerAll items).items = m.items ++ items := by
  induction items generalizing m with
  | nil => simp
  | cons item items ih =>
    rw [offerAll_cons, ih (by rw [capacity_offer, h]), items_offer h, List.append_assoc]
    rfl

/-- Offers bring nothing but the items, and leave the order. -/
theorem offerAll_sublist (m : Mailbox) (items : List (Option Event)) :
    (m.offerAll items).items.Sublist (m.items ++ items) := by
  induction items generalizing m with
  | nil => simp
  | cons item items ih =>
    rw [offerAll_cons]
    refine (ih _).trans ?_
    rw [List.append_cons]
    exact (m.offer_sublist item).append_right _

end Mailbox

/-! ## Messages that can be delivered -/

/-- The message is read without a fault, and the texts of its event are texts. -/
def Event.Clear (message : Json) : Prop :=
  ∃ heard, Event.ofMessage message = .ok heard ∧ ∀ e, heard = some e → e.Textual

namespace Harbour

variable {σ : Type} {d : Daemon σ} {now : String} {c : ClientId} {s t : Harbour (Quay σ)}
  {q : QueueId} {x : Occurrence} {l : List Occurrence}

/-- A clear message can be delivered. -/
theorem not_undeliverable {message : Json} (h : Event.Clear message) :
    ¬ Undeliverable c message s := by
  obtain ⟨heard, hm, htextual⟩ := h
  simp only [Undeliverable, hm]
  cases heard with
  | none => exact id
  | some e =>
    rintro ⟨⟨f, hf⟩, -⟩
    obtain ⟨entry, hentry⟩ := (htextual e rfl).refusal
    rw [hentry] at hf
    cases hf

/-- The message of an occurrence, if it has one that was read, is clear. -/
def Occurrence.IsClear : Occurrence → Prop
  | streamed _ message => Event.Clear message
  | garbled _ message => Event.Clear message
  | _ => True

/-- A clear message is not garbled. -/
theorem Occurs.ne_garbled (hx : Occurs d now c s x t) (hclear : x.IsClear) (stream : StreamId)
    (message : Json) : x ≠ .garbled stream message := by
  rintro rfl
  cases hx with
  | garbled hr hm => exact not_undeliverable hclear hm

/-! ## The account of a listener -/

/-- Whether a listener is registered, and what it was to be sent so far. -/
structure Account where
  isRegistered : Bool := false
  due : List (Option Event) := []

/-- The account of the listener `q` after an occurrence. -/
def Account.after (q : QueueId) (a : Account) : Occurrence → Account
  | .added p (.ok ()) => { a with isRegistered := a.isRegistered || q = p }
  | .removed p _ => { a with isRegistered := a.isRegistered && q ≠ p }
  | .closed _ => { a with isRegistered := false }
  | x => { a with due := a.due ++ if a.isRegistered then x.sent else [] }

/-- The account of a listener that was not registered in the beginning. -/
def account (q : QueueId) (l : List Occurrence) : Account := l.foldl (Account.after q) {}

/-- What was taken out of the mailbox of a listener. -/
def takenFrom (q : QueueId) (l : List Occurrence) : List (Option Event) :=
  l.filterMap fun
    | .taken p item => if p = q then item else none
    | _ => none

@[simp] theorem account_nil : account q [] = {} := rfl

@[simp] theorem account_concat : account q (l ++ [x]) = (account q l).after q x := by
  simp [account]

@[simp] theorem takenFrom_nil : takenFrom q [] = [] := rfl

theorem takenFrom_concat_taken (item : Option (Option Event)) :
    takenFrom q (l ++ [.taken q item]) = takenFrom q l ++ item.toList := by
  simp only [takenFrom, List.filterMap_append]
  cases item <;> simp

theorem takenFrom_concat (hx : ∀ item, x ≠ .taken q item) :
    takenFrom q (l ++ [x]) = takenFrom q l := by
  cases x with
  | taken p item =>
    have hp : p ≠ q := by
      rintro rfl
      exact hx item rfl
    simp [takenFrom, hp]
  | _ => simp [takenFrom]

/-- What a registered listener is to be sent. -/
theorem Account.due_after (a : Account) :
    (a.after q x).due = a.due ++ if a.isRegistered then x.sent else [] := by
  cases x with
  | added p r => cases r <;> simp [after, Occurrence.sent]
  | _ => simp [after, Occurrence.sent]

/-- The account knows who is registered. -/
theorem Change.isRegistered (h : Fit c s) (hx : Change c s x t) {a : Account}
    (ha : a.isRegistered = true ↔ q ∈ (s.hub c).listeners) :
    (a.after q x).isRegistered = true ↔ q ∈ (t.hub c).listeners := by
  cases hx with
  | @opened p hlt hnew hst y =>
    rw [hub_opened h.there]
    simp [Account.after, ha]
  | @joined p hlt hnew hst =>
    rw [h.enrolled]
    simp [Account.after, ha]
  | @parted p hkept =>
    rw [h.withdrawn]
    simp [Account.after, ha]
  | @emptied p stream hlast r y =>
    have hlisteners := congrArg Hub.listeners (h.hub_emptied hlast r.isOk y)
    rw [hlisteners, ← (h.emptied hlast).1]
    simp [Account.after, ha]
  | hungUp hst r y => simp [Account.after]
  | hungUpAfter hst r y z => simp [Account.after]
  | cutShort hst f y => simp [Account.after]
  | @garbled stream _ item before hr hbefore =>
    rw [hub_closeDown, hub_offerEach]
    exact ha
  | ended reason hr =>
    rw [hub_closeDown]
    exact ha
  | streamed hr =>
    rw [hub_hearing]
    exact ha
  | _ => exact ha

/-! ## What a mailbox gets -/

/-- Between two occurrences: the account knows who is registered, and what was taken out of the
mailbox, with what is still in it, is what was due, or a part of it if there is a bound. -/
structure Served (c : ClientId) (q : QueueId) (s t : Harbour (Quay σ)) (l : List Occurrence) :
    Prop where
  isRegistered : (account q l).isRegistered = true ↔ q ∈ (t.hub c).listeners
  capacity : (t.mailbox q).capacity = (s.mailbox q).capacity
  whole : (s.mailbox q).capacity = 0 →
    takenFrom q l ++ (t.mailbox q).items = (s.mailbox q).items ++ (account q l).due
  part : (takenFrom q l ++ (t.mailbox q).items).Sublist
    ((s.mailbox q).items ++ (account q l).due)

/-- What is taken out of a mailbox was the first of its items. -/
theorem Change.taken_items {item : Option (Option Event)} (hx : Change c s (.taken q item) t) :
    (t.mailbox q).capacity = (s.mailbox q).capacity ∧
      item.toList ++ (t.mailbox q).items = (s.mailbox q).items := by
  cases hx with
  | @taken _ _ m hcapacity hitems =>
    rcases Nat.lt_or_ge q s.mailboxes.length with hq | hq
    · rw [Surroundings.mailbox_setMailbox _ _ _ _ hq, if_pos rfl]
      exact ⟨hcapacity, hitems⟩
    · -- there is no such mailbox, and nothing in it
      have hsame : s.setMailbox q m = s := by
        simp only [Surroundings.setMailbox, List.set_eq_of_length_le hq]
      have hempty : (s.mailbox q).items = [] := by
        simp [Surroundings.mailbox, List.getElem?_eq_none hq]
      rw [hempty, List.append_eq_nil_iff] at hitems
      rw [hsame, hempty, hitems.1]
      exact ⟨rfl, rfl⟩

/-- A mailbox is served before anything occurs. -/
theorem Unused.served (h : Unused c s) (q : QueueId) : Served c q s s [] where
  isRegistered := by simp [h.bare]
  capacity := rfl
  whole _ := by simp
  part := by simp

/-- A mailbox goes on being served. -/
theorem Served.concat {u : Harbour (Quay σ)} (h : Served c q s t l) (hfit : Fit c t)
    (hx : Change c t x u) (hclear : ∀ stream message, x ≠ .garbled stream message) :
    Served c q s u (l ++ [x]) := by
  have registered := hx.isRegistered hfit h.isRegistered
  by_cases htaken : ∃ item, x = .taken q item
  · obtain ⟨item, rfl⟩ := htaken
    obtain ⟨hcapacity, hitems⟩ := hx.taken_items
    have hsame : takenFrom q (l ++ [.taken q item]) ++ (u.mailbox q).items =
        takenFrom q l ++ (t.mailbox q).items := by
      rw [takenFrom_concat_taken, List.append_assoc, hitems]
    have hdue : (account q (l ++ [.taken q item])).due = (account q l).due := by
      rw [account_concat, Account.due_after]
      simp [Occurrence.sent]
    refine ⟨by rwa [account_concat], hcapacity.trans h.capacity, fun hunbounded => ?_, ?_⟩
    · rw [hsame, hdue, h.whole hunbounded]
    · rw [hsame, hdue]
      exact h.part
  · have htaken (item : Option (Option Event)) : x ≠ .taken q item := fun hx => htaken ⟨item, hx⟩
    have hmailbox := hx.mailbox hfit hclear htaken
    -- a mailbox gets what is due to its listener
    obtain ⟨items, hoffered, hdue⟩ : ∃ items, u.mailbox q = (t.mailbox q).offerAll items ∧
        (account q (l ++ [x])).due = (account q l).due ++ items := by
      rw [account_concat, Account.due_after]
      by_cases hq : q ∈ (t.hub c).listeners
      · rw [if_pos hq] at hmailbox
        exact ⟨_, hmailbox, by rw [if_pos (h.isRegistered.2 hq)]⟩
      · rw [if_neg hq] at hmailbox
        exact ⟨[], hmailbox, by rw [if_neg fun hreg => hq (h.isRegistered.1 hreg)]⟩
    have hsame := takenFrom_concat (l := l) htaken
    refine ⟨by rwa [account_concat], ?_, fun hunbounded => ?_, ?_⟩
    · rw [hoffered, Mailbox.capacity_offerAll, h.capacity]
    · rw [hsame, hoffered, Mailbox.items_offerAll (h.capacity.trans hunbounded), hdue,
        ← List.append_assoc, h.whole hunbounded, List.append_assoc]
    · have offered := ((t.mailbox q).offerAll_sublist items).append_left (takenFrom q l)
      have due := h.part.append_right items
      rw [← List.append_assoc] at offered
      rw [hsame, hoffered, hdue, ← List.append_assoc]
      exact offered.trans due

/-- Whoever is not registered is left alone, also by a message that cannot be delivered. -/
theorem Change.left_alone (h : Fit c s) (hx : Change c s x t) (hq : q ∉ (s.hub c).listeners)
    (htaken : ∀ item, x ≠ .taken q item) : t.mailbox q = s.mailbox q := by
  cases x with
  | garbled stream message =>
    cases hx with
    | @garbled _ _ item before hr hbefore =>
      rw [mailbox_closeDown (h.offered item before), hub_offerEach, if_neg hq,
        mailbox_offerEach (h.distinct.sublist hbefore.sublist)
          (fun p hp => h.listed p (hbefore.subset hp)),
        if_neg fun hmem => hq (hbefore.subset hmem)]
  | _ => rw [hx.mailbox h (by simp) htaken, if_neg hq]

/-- **Every listener is sent what came in while it was registered.** Whatever occurred with a client
and however it was mixed, as long as all messages were clear: without a bound, what was taken out of
a mailbox and what is still in it is what was due to its listener, in this order; with a bound, it is
a part of that. The mailbox of someone who is not registered is touched by nobody but himself. -/
theorem delivered_in_order (hs : Unused c s) (hl : History d now c s l t)
    (hclear : ∀ x ∈ l, x.IsClear) (q : QueueId) :
    ((account q l).isRegistered = true ↔ q ∈ (t.hub c).listeners) ∧
    ((s.mailbox q).capacity = 0 →
      takenFrom q l ++ (t.mailbox q).items = (s.mailbox q).items ++ (account q l).due) ∧
    (takenFrom q l ++ (t.mailbox q).items).Sublist
      ((s.mailbox q).items ++ (account q l).due) ∧
    ∀ x u, Occurs d now c t x u → (account q l).isRegistered = false →
      (∀ item, x ≠ .taken q item) → u.mailbox q = t.mailbox q := by
  have served : Served c q s t l := by
    induction hl with
    | nil => exact hs.served q
    | concat hl hx ih =>
      have hfit := hl.fit hs.fit
      exact (ih fun x hx => hclear x (by simp [hx])).concat hfit (hx.change hfit)
        (hx.ne_garbled (hclear _ (by simp)))
  have hfit := hl.fit hs.fit
  refine ⟨served.isRegistered, served.whole, served.part, fun x u hx hreg htaken => ?_⟩
  refine (hx.change hfit).left_alone hfit (fun hq => ?_) htaken
  rw [served.isRegistered.2 hq] at hreg
  cases hreg

/-- The message that a container was started. -/
def startMessage : Json := .obj [("status", .str "start"), ("id", .str "abc")]

/-- The event of that message. -/
def startEvent : Event := ⟨.str "start", .str "abc"⟩

/-- A listener that was registered before a container was started. -/
theorem delivered_in_order_started :
    let came := ((addListener (errandly (answering (pure ()))) 0 0).outcome quayside).2
    let heard := feed (report "") 0 startMessage came
    let l := [Occurrence.added 0 (.ok ()), .streamed 0 startMessage]
    Unused 0 quayside ∧ History (answering (pure ())) "" 0 quayside l heard ∧ (∀ x ∈ l, x.IsClear) ∧
      (heard.mailbox 0).items = [some startEvent] := by
  intro came heard l
  have hevent : Event.ofMessage startMessage = .ok (some startEvent) := rfl
  have hclear : Event.Clear startMessage :=
    ⟨some startEvent, hevent, by rintro _ ⟨⟩; exact ⟨⟨_, rfl⟩, _, rfl⟩⟩
  have hl : History (answering (pure ())) "" 0 quayside l heard :=
    .concat (l := [.added 0 (.ok ())]) (.concat (l := []) .nil (.added (by decide) rfl))
      (.streamed rfl (not_undeliverable hclear))
  have hall : ∀ x ∈ l, x.IsClear := by
    simp only [l, List.mem_cons, List.not_mem_nil, or_false]
    rintro x (rfl | rfl)
    · trivial
    · exact hclear
  exact ⟨quayside_unused, hl, hall, (delivered_in_order quayside_unused hl hall 0).2.1 rfl⟩

end Harbour

end HostRouting
