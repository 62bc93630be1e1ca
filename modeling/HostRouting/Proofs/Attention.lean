import HostRouting.Proofs.Outline
import HostRouting.Proofs.Shore

/-!
# The watcher is never deaf

A watcher that waits for events has its mailbox registered with its client, and will hear something:
either the client's stream is read, or the marker for its end is in the mailbox already. This holds
also among others who subscribe to events and who may even register the watcher's mailbox before the
watcher does, as long as they leave it alone after that.
-/

namespace HostRouting.Harbour

open Act (Spec Keeps failing never)
open Surroundings (mailbox_setMailbox_ne mailbox_addMailbox)

variable {σ : Type}

/-! ## Others -/

/-- What others do in a harbour, where `theirs` are the mailboxes that belong to them. -/
inductive Visit (theirs : σ → List QueueId) : Harbour σ → Harbour σ → Prop where
  /-- Someone makes a mailbox. -/
  | opened (s : Harbour σ) (m : Mailbox) {x : σ}
      (hx : ∀ q ∈ theirs x, q ∈ theirs s.rest.rest ∨ q = s.mailboxes.length) :
      Visit theirs s (turn (s.addMailbox m) s.control x)
  /-- Someone registers a mailbox, which may be the watcher's. -/
  | enrolled (s : Harbour σ) {c : ClientId} {q : QueueId} (hc : c < s.rest.hubs.length)
      (hq : q < s.mailboxes.length) :
      Visit theirs s ((addListener (Shore.quiet σ).daemon c q).outcome s).2
  /-- Someone takes a mailbox of theirs off a client. -/
  | withdrawn (s : Harbour σ) {c : ClientId} {q : QueueId} (hc : c < s.rest.hubs.length)
      (hq : q ∈ theirs s.rest.rest) :
      Visit theirs s ((removeListener (Shore.quiet σ).daemon c q).outcome s).2
  /-- Someone looks into a mailbox of theirs. -/
  | looked (s : Harbour σ) {q : QueueId} (hq : q ∈ theirs s.rest.rest) (wait : Interval) :
      Visit theirs s ((Surroundings.take q wait).outcome s).2

/-- The log does not tell whose a mailbox is. -/
def Aloof (theirs : σ → List QueueId) (note : Log.Entry → Act σ Unit) : Prop :=
  ∀ e x, theirs ((note e).outcome x).2 = theirs x

/-- Happenings and visits in any order. -/
def Tide (note : Log.Entry → Act σ Unit) (theirs : σ → List QueueId) :
    Harbour σ → Harbour σ → Prop :=
  Relation.ReflTransGen fun s t =>
    Happening note (fun x y => theirs y = theirs x) s t ∨ Visit theirs s t

/-! ## Streams that nobody holds -/

/-- Streams may have come, and a client has come to hold none but those. -/
structure Onward (s t : Harbour σ) : Prop where
  streams : s.rest.streams.length ≤ t.rest.streams.length
  held : ∀ c i, (t.hub c).stream? = some i →
    (s.hub c).stream? = some i ∨ s.rest.streams.length ≤ i

/-- A stream that was opened, and that nobody holds. -/
structure Unheld (stream : StreamId) (s : Harbour σ) : Prop where
  opened : stream < s.rest.streams.length
  free : ∀ c, (s.hub c).stream? ≠ some stream

namespace Onward

variable {s t u : Harbour σ} {note : Log.Entry → Act σ Unit} {theirs : σ → List QueueId}

theorem refl (s : Harbour σ) : Onward s s := ⟨Nat.le_refl _, fun _ _ => .inl⟩

theorem trans (h : Onward s t) (h' : Onward t u) : Onward s u where
  streams := Nat.le_trans h.streams h'.streams
  held c i hi := by
    rcases h'.held c i hi with hi | hi
    · exact h.held c i hi
    · exact .inr (Nat.le_trans h.streams hi)

/-- No stream came, and nobody holds another one than before. -/
theorem of_hub (hstreams : t.rest.streams.length = s.rest.streams.length)
    (hhub : ∀ c i, (t.hub c).stream? = some i → (s.hub c).stream? = some i) : Onward s t :=
  ⟨Nat.le_of_eq hstreams.symm, fun c i hi => .inl (hhub c i hi)⟩

theorem posted (h : Posted note s t) : Onward s t :=
  .of_hub (congrArg _ h.streams) fun c i hi => by rwa [h.hub] at hi

/-- At the end of the reading a stream may be given up. -/
theorem finishReading (s : Harbour σ) (note : Log.Entry → Act σ Unit) (c : ClientId)
    (stream : StreamId) (reason : Option Fault) :
    Onward s (finishReading (logged note) c stream reason s) := by
  obtain ⟨t, ht, he⟩ := finishReading_eq s c stream note reason
  rw [he]
  refine ((posted ht).trans (.of_hub (by simp) fun b i hi => ?_)).trans
    (posted (announceEnd_posted _ c note))
  rw [hub_giveUp, hub_endReading, hub_endReading] at hi
  split at hi
  · cases hi
  · exact hi

/-- No happening opens a stream. -/
theorem happening {may : σ → σ → Prop} (h : Happening note may s t) : Onward s t := by
  cases h with
  | turned control hx => exact .of_hub rfl fun _ _ hi => hi
  | fed stream message =>
    cases hr : s.reader? stream with
    | none =>
      simp only [feed, hr]
      exact .refl s
    | some c =>
      rcases feed_cases s c stream note message hr with ht | ⟨f, u, hu, he⟩
      · exact posted ht
      · rw [he]
        exact (posted hu).trans (finishReading u note c stream _)
  | finished stream reason =>
    cases hr : s.reader? stream with
    | none =>
      simp only [finish, hr]
      exact .refl s
    | some c =>
      simp only [finish, hr]
      exact finishReading s note c stream reason

/-- A client lets go of its stream, or has none. -/
theorem changeHub {c : ClientId} {f : Hub → Hub} (hc : c < s.rest.hubs.length)
    (hf : ∀ i, (f (s.hub c)).stream? = some i → (s.hub c).stream? = some i) :
    Onward s (s.changeHub c f) := by
  refine .of_hub rfl fun b i hi => ?_
  rw [hub_changeHub _ _ _ _ hc] at hi
  split at hi
  · rename_i hb
    rw [hb]
    exact hf i hi
  · exact hi

/-- A new stream is held. -/
theorem beginReading {c : ClientId} (hc : c < s.rest.hubs.length) : Onward s (s.beginReading c) where
  streams := by simp [Harbour.beginReading, Surroundings.mapRest, Harbour.changeHub]
  held b i hi := by
    rw [hub_beginReading _ _ _ hc] at hi
    split at hi
    · exact .inr (Nat.le_of_eq (Option.some.inj hi))
    · exact .inl hi

/-- Whoever visits may open new streams. -/
theorem visit (h : Visit theirs s t) : Onward s t := by
  cases h with
  | opened m hx => exact .of_hub rfl fun _ _ hi => hi
  | @enrolled c q hc hq =>
    have added : Spec (· = s) (addListener (Shore.quiet σ).daemon c q) (fun _ => Onward s)
        fun _ => Onward s := by
      refine addListener_spec (S := (· = s)) ?_ (Spec.pure fun _ hs => hs.1) ?_ ?_
      · rintro _ rfl -
        exact .refl _
      · rintro _ rfl
        refine (beginReading hc).trans (changeHub ?_ fun _ hi => hi)
        simpa using hc
      · rintro _ rfl - -
        exact changeHub hc fun _ hi => hi
    exact added.after rfl
  | @withdrawn c q hc hq =>
    have off : Onward s (withdraw c q s) := changeHub hc fun _ hi => hi
    have removed : Spec (· = s) (removeListener (Shore.quiet σ).daemon c q) (fun _ => Onward s)
        fun _ => Onward s := by
      refine removeListener_spec (S := fun _ => Onward s) (T := fun _ => Onward s) ?_ ?_
        (fun _ => Spec.pure fun _ hs => hs) fun _ _ hs => hs.trans (.of_hub ?_ fun _ _ hi => hi)
      · rintro _ rfl -
        exact off
      · rintro _ stream rfl -
        refine off.trans (changeHub ?_ fun _ hi => by cases hi)
        simpa using hc
      · simp
    exact removed.after rfl
  | @looked q hq wait =>
    have taken : Spec (· = s) (Surroundings.take q wait) (fun _ => Onward s) fun _ => Onward s := by
      refine (Surroundings.take_spec _ _ _).post (fun item u hu => ?_) fun _ u hu => ?_
      · cases item with
        | none =>
          rw [hu.1]
          exact .refl s
        | some i =>
          obtain ⟨_, rest, rfl, -, rfl⟩ := hu
          exact .of_hub rfl fun _ _ hi => hi
      · rw [hu.2]
        exact .refl s
    exact taken.after rfl

/-- So does the tide. -/
theorem tide (h : Tide note theirs s t) : Onward s t := by
  induction h with
  | refl => exact .refl s
  | tail _ hstep ih =>
    rcases hstep with hstep | hstep
    · exact ih.trans (happening hstep)
    · exact ih.trans (visit hstep)

end Onward

/-- What nobody holds is not held again. -/
theorem Unheld.onward {s t : Harbour σ} {stream : StreamId} (h : Unheld stream s)
    (hst : Onward s t) : Unheld stream t where
  opened := Nat.lt_of_lt_of_le h.opened hst.streams
  free c hc := by
    rcases hst.held c stream hc with hc | hc
    · exact h.free c hc
    · exact absurd h.opened (Nat.not_lt.2 hc)

/-! ## The condition -/

/-- The watcher's mailbox is registered if it has subscribed, and whoever is registered will hear of
the end of the stream. -/
structure Heard (theirs : σ → List QueueId) (hold : Option Hold) (a : Activity) (s : Harbour σ) :
    Prop where
  held : ∀ c stream, (s.hub c).stream? = some stream → s.reader? stream = some c
  listed : ∀ c, ∀ q ∈ (s.hub c).listeners, q < s.mailboxes.length
  foreign : ∀ q ∈ theirs s.rest.rest,
    q < s.mailboxes.length ∧ ∀ x, hold = some x → x.queue ≠ q
  there : ∀ x, hold = some x → x.client < s.rest.hubs.length ∧ x.queue < s.mailboxes.length
  came : ∀ c, a = .arrived c → c < s.rest.hubs.length
  listens : ∀ x, hold = some x → x.subscribed = true → x.queue ∈ (s.hub x.client).listeners
  awake : ∀ x, hold = some x → a ≠ .ended → x.queue ∈ (s.hub x.client).listeners →
    (s.hub x.client).stream? ≠ none ∨ none ∈ (s.mailbox x.queue).items

namespace Heard

variable {theirs : σ → List QueueId} {hold : Option Hold} {a b : Activity} {s t : Harbour σ}
  {note : Log.Entry → Act σ Unit} {c : ClientId} {stream : StreamId} {x : Hold}

/-- Before the first connection nobody is registered. -/
theorem start (s : Harbour σ) (hhubs : s.rest.hubs = []) (htheirs : theirs s.rest.rest = []) :
    Heard theirs none .calm s where
  held c stream h := by simp [hub, hhubs] at h
  listed c q h := by simp [hub, hhubs] at h
  foreign q h := by simp [htheirs] at h
  there := by rintro _ ⟨⟩
  came := by rintro _ ⟨⟩
  listens := by rintro _ ⟨⟩
  awake := by rintro _ ⟨⟩

/-- The activity matters only while a client arrives, and after the marker was taken. -/
theorem during (h : Heard theirs hold a s) (hb : ∀ c, b ≠ .arrived c)
    (hended : a = .ended → b = .ended ∨ hold = none) : Heard theirs hold b s := by
  refine { h with came := fun c hc => absurd hc (hb c), awake := ?_ }
  intro x hx hne
  refine h.awake x hx fun ha => ?_
  rcases hended ha with hbe | hnone
  · exact hne hbe
  · rw [hnone] at hx
    cases hx

/-- What the condition depends on. -/
theorem congr (h : Heard theirs hold a s) (hhub : ∀ c, t.hub c = s.hub c)
    (hread : ∀ i, t.reader? i = s.reader? i) (hhubs : t.rest.hubs.length = s.rest.hubs.length)
    (hmail : t.mailboxes.length = s.mailboxes.length)
    (htheirs : theirs t.rest.rest = theirs s.rest.rest)
    (hmarked : ∀ x, hold = some x → none ∈ (s.mailbox x.queue).items →
      none ∈ (t.mailbox x.queue).items) : Heard theirs hold a t where
  held c stream hs := by
    rw [hread]
    exact h.held c stream (hhub c ▸ hs)
  listed c q hq := by
    rw [hmail]
    exact h.listed c q (hhub c ▸ hq)
  foreign q hq := by
    rw [hmail]
    exact h.foreign q (htheirs ▸ hq)
  there x hx := by
    rw [hhubs, hmail]
    exact h.there x hx
  came c hc := by
    rw [hhubs]
    exact h.came c hc
  listens x hx hsub := by
    rw [hhub]
    exact h.listens x hx hsub
  awake x hx hne hq := by
    rw [hhub] at hq ⊢
    rcases h.awake x hx hne hq with hst | hmark
    · exact .inl hst
    · exact .inr (hmarked x hx hmark)

/-- Items that are offered leave the condition. -/
theorem posted (hnote : Aloof theirs note)
    (h : Heard theirs hold a s) (ht : Posted note s t) : Heard theirs hold a t := by
  refine h.congr ht.hub ht.reader? (congrArg _ ht.hubs) ht.length ?_ ?_
  · exact ht.log.same theirs hnote
  · intro x _ hmark
    exact ht.marked _ hmark

/-! ## Happenings -/

/-- The end of a stream is announced to everybody who listens to it. -/
theorem finished (hnote : Aloof theirs note)
    (h : Heard theirs hold a s) (hr : s.reader? stream = some c) (reason : Option Fault) :
    Heard theirs hold a (finishReading (logged note) c stream reason s) := by
  obtain ⟨t, hst, he⟩ := finishReading_eq s c stream note reason
  have ht := h.posted hnote hst
  have hrt : t.reader? stream = some c := by
    rw [hst.reader?]
    exact hr
  rw [he]
  generalize hu : giveUp c stream (t.endReading stream) = u
  have hpost : Posted note u (announceEnd (logged note) c u) := announceEnd_posted u c note
  have hhub (b : ClientId) : u.hub b = if b = c ∧ (t.hub c).stream? = some stream then
      ⟨(t.hub c).listeners, none⟩ else t.hub b := by
    rw [← hu, hub_giveUp, hub_endReading, hub_endReading]
  have hlist (b : ClientId) : (u.hub b).listeners = (t.hub b).listeners := by
    rw [← hu, listeners_giveUp, hub_endReading]
  have hread (i : StreamId) : u.reader? i = if i = stream then none else t.reader? i := by
    rw [← hu]
    exact reader?_endReading t i stream
  have hlen : u.rest.hubs.length = t.rest.hubs.length := by
    simp [← hu]
  have hmail : u.mailboxes = t.mailboxes := by
    rw [← hu]
    rfl
  have hlenv := (congrArg List.length hpost.hubs).trans hlen
  have hmailv := hpost.length.trans (congrArg _ hmail)
  refine
    { held := fun b i hb => ?_, listed := fun b q hq => ?_, foreign := fun q hq => ?_,
      there := fun x hx => ?_, came := fun b hb => ?_, listens := fun x hx hsub => ?_,
      awake := fun x hx hne hq => ?_ }
  · rw [hpost.hub] at hb
    rw [hpost.reader?, hread]
    rw [hhub] at hb
    split at hb
    · cases hb
    · rename_i hkept
      -- a stream that is still held is not the one that is over
      have hi : i ≠ stream := by
        rintro rfl
        have hbc := ht.held b i hb
        rw [hrt] at hbc
        cases hbc
        exact hkept ⟨rfl, hb⟩
      rw [if_neg hi]
      exact ht.held b i hb
  · rw [hpost.hub, hlist] at hq
    rw [hmailv]
    exact ht.listed b q hq
  · rw [hpost.log.same theirs hnote, ← hu] at hq
    rw [hmailv]
    exact ht.foreign q hq
  · rw [hlenv, hmailv]
    exact ht.there x hx
  · rw [hlenv]
    exact ht.came b hb
  · rw [hpost.hub, hlist]
    exact ht.listens x hx hsub
  · -- either the marker comes now, or the client has nothing to do with the stream
    by_cases hxc : x.client = c
    · refine .inr (announceEnd_marked u c x.queue note ?_ ?_)
      · rw [hpost.hub, hxc] at hq
        exact hq
      · rw [hmail]
        exact (ht.there x hx).2
    · have hother : u.hub x.client = t.hub x.client := by
        rw [hhub, if_neg fun h => hxc h.1]
      rw [hpost.hub, hother] at hq
      rw [hpost.hub, hother]
      rcases ht.awake x hx hne hq with hst | hmark
      · exact .inl hst
      · refine .inr (hpost.marked _ ?_)
        rw [Surroundings.mailbox, hmail]
        exact hmark

/-- Happenings leave the condition. -/
theorem happening (hnote : Aloof theirs note)
    (h : Heard theirs hold a s) (ht : Happening note (fun x y => theirs y = theirs x) s t) :
    Heard theirs hold a t := by
  cases ht with
  | turned control hx => exact h.congr (fun _ => rfl) (fun _ => rfl) rfl rfl hx fun _ _ hm => hm
  | fed stream message =>
    cases hr : s.reader? stream with
    | none =>
      simp only [feed, hr]
      exact h
    | some c =>
      rcases feed_cases s c stream note message hr with hpost | ⟨f, u, hpost, he⟩
      · exact h.posted hnote hpost
      · rw [he]
        refine (h.posted hnote hpost).finished hnote ?_ _
        rw [hpost.reader?]
        exact hr
  | finished stream reason =>
    cases hr : s.reader? stream with
    | none =>
      simp only [finish, hr]
      exact h
    | some c =>
      simp only [finish, hr]
      exact h.finished hnote hr reason

/-! ## Registering and withdrawing -/

/-- The hubs were changed and streams ended, but whoever is still registered has a stream or has
the marker. -/
theorem rehub (h : Heard theirs hold a s) {hold' : Option Hold}
    (hheld : ∀ c i, (t.hub c).stream? = some i → t.reader? i = some c)
    (hlisted : ∀ c, ∀ q ∈ (t.hub c).listeners, q < s.mailboxes.length)
    (hhubs : t.rest.hubs.length = s.rest.hubs.length) (hmail : t.mailboxes = s.mailboxes)
    (htheirs : theirs t.rest.rest = theirs s.rest.rest)
    (hhold : ∀ x, hold' = some x → ∃ y, hold = some y ∧ y.client = x.client ∧ y.queue = x.queue)
    (hlistens : ∀ x, hold' = some x → x.subscribed = true → x.queue ∈ (t.hub x.client).listeners)
    (hstream : ∀ x, hold' = some x → x.queue ∈ (t.hub x.client).listeners →
      (t.hub x.client).stream? ≠ none ∨
        x.queue ∈ (s.hub x.client).listeners ∧ (t.hub x.client).stream? = (s.hub x.client).stream?) :
    Heard theirs hold' a t where
  held := hheld
  listed c q hq := by
    rw [hmail]
    exact hlisted c q hq
  foreign q hq := by
    rw [htheirs] at hq
    obtain ⟨hlt, hne⟩ := h.foreign q hq
    rw [hmail]
    refine ⟨hlt, fun x hx => ?_⟩
    obtain ⟨y, hy, -, hyq⟩ := hhold x hx
    rw [← hyq]
    exact hne y hy
  there x hx := by
    obtain ⟨y, hy, hyc, hyq⟩ := hhold x hx
    rw [hhubs, hmail, ← hyc, ← hyq]
    exact h.there y hy
  came c hc := by
    rw [hhubs]
    exact h.came c hc
  listens := hlistens
  awake x hx hne hq := by
    rcases hstream x hx hq with hst | ⟨hqs, hst⟩
    · exact .inl hst
    · obtain ⟨y, hy, hyc, hyq⟩ := hhold x hx
      rw [hst, Surroundings.mailbox, hmail, ← hyc, ← hyq]
      rw [← hyc, ← hyq] at hqs
      exact h.awake y hy hne hqs

/-- A new stream is read, and its client holds it. -/
theorem beginReading (h : Heard theirs hold a s) (hc : c < s.rest.hubs.length) :
    Heard theirs hold a (s.beginReading c) := by
  have hhub (b : ClientId) := hub_beginReading s b c hc
  have hlist (b : ClientId) : ((s.beginReading c).hub b).listeners = (s.hub b).listeners := by
    rw [hhub]
    split
    · rename_i hb
      rw [hb]
    · rfl
  refine h.rehub (fun b i hb => ?_) (fun b q hq => ?_) ?_ rfl rfl (fun x hx => ⟨x, hx, rfl, rfl⟩)
    (fun x hx hsub => ?_) fun x hx hq => ?_
  · rw [hhub] at hb
    rw [reader?_beginReading]
    by_cases hbc : b = c
    · rw [if_pos hbc] at hb
      rw [if_pos (Option.some.inj hb).symm, hbc]
    · rw [if_neg hbc] at hb
      have hr := h.held b i hb
      rw [if_neg (Nat.ne_of_lt (lt_of_reader? _ _ _ hr))]
      exact hr
  · rw [hlist] at hq
    exact h.listed b q hq
  · simp
  · rw [hlist]
    exact h.listens x hx hsub
  · rw [hlist] at hq
    rw [hhub]
    split
    · exact .inl (by simp)
    · exact .inr ⟨hq, rfl⟩

/-- A mailbox is registered with a client that holds a stream; if it is the watcher's, the watcher
may take that for its subscription. -/
theorem enroll {q : QueueId} (h : Heard theirs hold a s) (hc : c < s.rest.hubs.length)
    (hq : q < s.mailboxes.length) (hst : (s.hub c).stream? ≠ none) {hold' : Option Hold}
    (hhold : ∀ x, hold' = some x → ∃ y, hold = some y ∧ y.client = x.client ∧ y.queue = x.queue ∧
      (x.subscribed = true → y.subscribed = true ∨ x.client = c ∧ x.queue = q)) :
    Heard theirs hold' a (enroll c q s) := by
  have hhub (b : ClientId) := hub_enroll s b q hc
  refine h.rehub (fun b i hb => ?_) (fun b p hp => ?_) ?_ rfl rfl (fun x hx => ?_)
    (fun x hx hsub => ?_) fun x hx hxq => ?_
  · rw [hhub] at hb
    split at hb
    · rename_i hbc
      rw [hbc]
      exact h.held c i hb
    · exact h.held b i hb
  · rw [hhub] at hp
    split at hp
    · rcases List.mem_append.1 hp with hp | hp
      · exact h.listed c p hp
      · rwa [List.mem_singleton.1 hp]
    · exact h.listed b p hp
  · simp
  · obtain ⟨y, hy, hyc, hyq, -⟩ := hhold x hx
    exact ⟨y, hy, hyc, hyq⟩
  · obtain ⟨y, hy, hyc, hyq, hsubs⟩ := hhold x hx
    rw [hhub]
    rcases hsubs hsub with hysub | ⟨hxc, hxq⟩
    · have hmem := h.listens y hy hysub
      rw [hyc, hyq] at hmem
      split
      · rename_i hxc
        rw [hxc] at hmem
        exact List.mem_append_left _ hmem
      · exact hmem
    · rw [if_pos hxc, hxq]
      simp
  · rw [hhub] at hxq ⊢
    split
    · exact .inl hst
    · rename_i hxc
      rw [if_neg hxc] at hxq
      exact .inr ⟨hxq, rfl⟩

/-- A mailbox is taken off a client; if it is the watcher's, the watcher does not count on it any
more. -/
theorem withdraw {q : QueueId} (h : Heard theirs hold a s) (hc : c < s.rest.hubs.length)
    {hold' : Option Hold}
    (hhold : ∀ x, hold' = some x → ∃ y, hold = some y ∧ y.client = x.client ∧ y.queue = x.queue ∧
      (x.subscribed = true → y.subscribed = true ∧ x.queue ≠ q)) :
    Heard theirs hold' a (withdraw c q s) := by
  have hhub (b : ClientId) := hub_withdraw s b q hc
  have hsub (b : ClientId) (p : QueueId) (hp : p ∈ ((Harbour.withdraw c q s).hub b).listeners) :
      p ∈ (s.hub b).listeners := by
    rw [hhub] at hp
    split at hp
    · rename_i hbc
      rw [hbc]
      exact (List.mem_filter.1 hp).1
    · exact hp
  have hst (b : ClientId) : ((Harbour.withdraw c q s).hub b).stream? = (s.hub b).stream? := by
    rw [hhub]
    split
    · rename_i hbc
      rw [hbc]
    · rfl
  refine h.rehub (fun b i hb => ?_) (fun b p hp => h.listed b p (hsub b p hp)) ?_ rfl rfl
    (fun x hx => ?_) (fun x hx hxs => ?_) fun x _ hxq => .inr ⟨hsub _ _ hxq, hst _⟩
  · rw [hst] at hb
    exact h.held b i hb
  · simp
  · obtain ⟨y, hy, hyc, hyq, -⟩ := hhold x hx
    exact ⟨y, hy, hyc, hyq⟩
  · obtain ⟨y, hy, hyc, hyq, hsubs⟩ := hhold x hx
    obtain ⟨hysub, hne⟩ := hsubs hxs
    have hmem := h.listens y hy hysub
    rw [hyc, hyq] at hmem
    rw [hhub]
    split
    · rename_i hxc
      rw [hxc] at hmem
      exact List.mem_filter.2 ⟨hmem, by simpa using hne⟩
    · exact hmem

/-- A stream that a client held is held by nobody after the client has let go of it. -/
theorem unheld (h : Heard theirs hold a s) (hst : (s.hub c).stream? = some stream)
    (hstreams : t.rest.streams.length = s.rest.streams.length)
    (hhub : ∀ b, (t.hub b).stream? = if b = c then none else (s.hub b).stream?) :
    Unheld stream t where
  opened := by
    rw [hstreams]
    exact lt_of_reader? _ _ _ (h.held c stream hst)
  free b hb := by
    rw [hhub] at hb
    split at hb
    · cases hb
    · rename_i hbc
      -- its only reader was the client itself
      have hr := h.held b stream hb
      rw [h.held c stream hst] at hr
      exact hbc (Option.some.inj hr).symm

/-- A stream that nobody holds comes to an end. -/
theorem endReading (h : Heard theirs hold a s) (hfree : Unheld stream s) :
    Heard theirs hold a (s.endReading stream) := by
  refine h.rehub (fun b i hb => ?_) h.listed ?_ rfl rfl (fun x hx => ⟨x, hx, rfl, rfl⟩) h.listens
    fun x _ hxq => .inr ⟨hxq, rfl⟩
  · rw [reader?_endReading, if_neg]
    · exact h.held b i hb
    · rintro rfl
      exact hfree.free b hb
  · rfl

/-- A client without listeners lets go of its stream. -/
theorem release (h : Heard theirs hold a s) (hc : c < s.rest.hubs.length)
    (hhub : s.hub c = ⟨[], some stream⟩) :
    Heard theirs hold a (release c s) ∧ Unheld stream (release c s) := by
  have hnew (b : ClientId) : (Harbour.release c s).hub b = if b = c then {} else s.hub b := by
    rw [hub_release _ _ hc, hhub]
  have hlist (b : ClientId) : ((Harbour.release c s).hub b).listeners = (s.hub b).listeners := by
    rw [hnew]
    split
    · rename_i hbc
      rw [hbc, hhub]
    · rfl
  constructor
  · refine h.rehub (fun b i hb => ?_) (fun b q hq => ?_) ?_ rfl rfl (fun x hx => ⟨x, hx, rfl, rfl⟩)
      (fun x hx hsub => ?_) fun x hx hxq => ?_
    · rw [hnew] at hb
      split at hb
      · cases hb
      · exact h.held b i hb
    · rw [hlist] at hq
      exact h.listed b q hq
    · simp
    · rw [hlist]
      exact h.listens x hx hsub
    · rw [hlist] at hxq
      -- whoever is still registered is registered with another client
      refine .inr ⟨hxq, ?_⟩
      rw [hnew, if_neg]
      intro hxc
      rw [hxc, hhub] at hxq
      cases hxq
  · refine h.unheld (congrArg Hub.stream? hhub) rfl fun b => ?_
    rw [hnew, apply_ite Hub.stream?]

/-- A client is closed. -/
theorem emptied (h : Heard theirs hold a s) (hc : c < s.rest.hubs.length) :
    Heard theirs none a (s.changeHub c fun _ => {}) := by
  have hnew (b : ClientId) := hub_changeHub s b c (fun _ => {}) hc
  refine h.rehub (fun b i hb => ?_) (fun b q hq => ?_) ?_ rfl rfl ?_ ?_ ?_
  · rw [hnew] at hb
    split at hb
    · cases hb
    · exact h.held b i hb
  · rw [hnew] at hq
    split at hq
    · cases hq
    · exact h.listed b q hq
  · simp
  · rintro _ ⟨⟩
  · rintro _ ⟨⟩
  · rintro _ ⟨⟩

/-- A mailbox was added. -/
theorem addMailbox (h : Heard theirs hold a s) (m : Mailbox) : Heard theirs hold a (s.addMailbox m) := by
  have hlen : (s.addMailbox m).mailboxes.length = s.mailboxes.length + 1 := by
    simp [Surroundings.addMailbox]
  refine { held := h.held, listed := fun c q hq => ?_, foreign := fun q hq => ?_,
           there := fun x hx => ?_, came := h.came, listens := h.listens,
           awake := fun x hx hne hq => ?_ }
  · rw [hlen]
    exact Nat.lt_succ_of_lt (h.listed c q hq)
  · obtain ⟨hlt, hne⟩ := h.foreign q hq
    rw [hlen]
    exact ⟨Nat.lt_succ_of_lt hlt, hne⟩
  · rw [hlen]
    exact ⟨(h.there x hx).1, Nat.lt_succ_of_lt (h.there x hx).2⟩
  · rw [mailbox_addMailbox _ _ _ (h.there x hx).2]
    exact h.awake x hx hne hq

/-! ## Visits -/

/-- What others do leaves the condition. -/
theorem visit (h : Heard theirs hold a s) (ht : Visit theirs s t) : Heard theirs hold a t := by
  cases ht with
  | opened m hx =>
    have hadd := h.addMailbox m
    refine { hadd with foreign := fun q hq => ?_ }
    rcases hx q hq with hold | hnew
    · exact hadd.foreign q hold
    · -- the new mailbox has a number that the watcher cannot have been given
      rw [hnew]
      refine ⟨by simp [Surroundings.addMailbox, turn], fun x hx => ?_⟩
      exact Nat.ne_of_lt (h.there x hx).2
  | @enrolled c q hc hq =>
    have added : Spec (fun s => Heard theirs hold a s ∧ c < s.rest.hubs.length ∧
        q < s.mailboxes.length) (addListener (Shore.quiet σ).daemon c q)
        (fun _ => Heard theirs hold a) fun _ => Heard theirs hold a := by
      refine addListener_spec (S := fun s => Heard theirs hold a s ∧ c < s.rest.hubs.length ∧
        q < s.mailboxes.length) (fun _ hs _ => hs.1) (Spec.pure fun _ hs => hs.1) ?_ ?_
      · rintro s ⟨hs, hc, hq⟩
        refine (hs.beginReading hc).enroll ?_ hq ?_ fun x hx => ⟨x, hx, rfl, rfl, .inl⟩
        · simpa using hc
        · rw [hub_beginReading _ _ _ hc, if_pos rfl]
          simp
      · rintro s ⟨hs, hc, hq⟩ - hst
        exact hs.enroll hc hq hst fun x hx => ⟨x, hx, rfl, rfl, .inl⟩
    exact added.after ⟨h, hc, hq⟩
  | @withdrawn c q hc hq =>
    have removed : Spec (fun s => Heard theirs hold a s ∧ c < s.rest.hubs.length ∧
        q ∈ theirs s.rest.rest) (removeListener (Shore.quiet σ).daemon c q)
        (fun _ => Heard theirs hold a) fun _ => Heard theirs hold a := by
      have gone (s : Harbour σ) (hs : Heard theirs hold a s) (hc : c < s.rest.hubs.length)
          (hq : q ∈ theirs s.rest.rest) : Heard theirs hold a (Harbour.withdraw c q s) := by
        refine hs.withdraw hc fun x hx => ⟨x, hx, rfl, rfl, fun hsub => ⟨hsub, ?_⟩⟩
        exact (hs.foreign q hq).2 x hx
      refine removeListener_spec (S := fun stream s => Heard theirs hold a s ∧ Unheld stream s)
        (T := fun stream s => Heard theirs hold a s ∧ Unheld stream s) ?_ ?_
        (fun _ => Spec.pure fun _ hs => hs) fun _ _ hs => hs.1.endReading hs.2
      · rintro s ⟨hs, hc, hq⟩ -
        exact gone s hs hc hq
      · rintro s stream ⟨hs, hc, hq⟩ heq
        refine (gone s hs hc hq).release ?_ heq
        simpa using hc
    exact removed.after ⟨h, hc, hq⟩
  | @looked q hq wait =>
    have taken : Spec (fun s => Heard theirs hold a s ∧ q ∈ theirs s.rest.rest)
        (Surroundings.take q wait) (fun _ => Heard theirs hold a) fun _ => Heard theirs hold a := by
      refine (Surroundings.take_spec _ _ _).post (fun item s hs => ?_) fun _ _ hs => hs.2.1
      cases item with
      | none => exact hs.1.1
      | some i =>
        obtain ⟨u, rest, ⟨hu, hq⟩, -, rfl⟩ := hs
        refine hu.congr (fun _ => rfl) (fun _ => rfl) rfl (by simp [Surroundings.setMailbox]) rfl ?_
        intro x hx hmark
        rw [mailbox_setMailbox_ne _ _ _ _ ((hu.foreign q hq).2 x hx)]
        exact hmark
    exact taken.after ⟨h, hq⟩

/-- So does whatever the tide brings. -/
theorem tide (hnote : Aloof theirs note)
    (h : Heard theirs hold a s) (ht : Tide note theirs s t) : Heard theirs hold a t := by
  induction ht with
  | refl => exact h
  | tail _ hstep ih =>
    rcases hstep with hstep | hstep
    · exact ih.happening hnote hstep
    · exact ih.visit hstep

/-! ## The watcher's calls -/

/-- A new client arrives. -/
theorem addClient (h : Heard theirs hold .calm s) :
    Heard theirs hold (.arrived s.rest.hubs.length) s.addClient := by
  have hlen : s.addClient.rest.hubs.length = s.rest.hubs.length + 1 := by
    simp
  refine { held := fun c i hi => ?_, listed := fun c q hq => ?_, foreign := h.foreign,
           there := fun x hx => ?_, came := ?_, listens := fun x hx hsub => ?_,
           awake := fun x hx _ hq => ?_ }
  · rw [hub_addClient] at hi
    exact h.held c i hi
  · rw [hub_addClient] at hq
    exact h.listed c q hq
  · rw [hlen]
    exact ⟨Nat.lt_succ_of_lt (h.there x hx).1, (h.there x hx).2⟩
  · rintro _ ⟨⟩
    rw [hlen]
    exact Nat.lt_succ_self _
  · rw [hub_addClient]
    exact h.listens x hx hsub
  · rw [hub_addClient] at hq ⊢
    exact h.awake x hx (by simp) hq

/-- The client that arrived gets a mailbox, with which nobody is registered. -/
theorem adopted (h : Heard theirs none (.arrived c) s) (m : Mailbox) :
    Heard theirs (some { client := c, queue := s.mailboxes.length }) .due (s.addMailbox m) := by
  have hadd := h.addMailbox m
  refine { hadd with foreign := fun q hq => ?_, there := ?_, came := ?_, listens := ?_, awake := ?_ }
  · refine ⟨(hadd.foreign q hq).1, ?_⟩
    rintro _ ⟨⟩ rfl
    exact Nat.lt_irrefl _ (h.foreign _ hq).1
  · rintro _ ⟨⟩
    exact ⟨h.came c rfl, by simp [Surroundings.addMailbox]⟩
  · rintro _ ⟨⟩
  · rintro _ ⟨⟩ ⟨⟩
  · -- nobody can be registered with a number that is new
    rintro _ ⟨⟩ - hq
    exact absurd (h.listed c _ hq) (Nat.lt_irrefl _)

/-- Something is taken out of the watcher's mailbox. -/
theorem taken (h : Heard theirs (some x) .calm s) {i : Option Event} {rest : List (Option Event)}
    (hitems : (s.mailbox x.queue).items = i :: rest) :
    Heard theirs (some x) (.after (some i))
      (s.setMailbox x.queue { s.mailbox x.queue with items := rest }) := by
  have hlen (q : QueueId) (m : Mailbox) : (s.setMailbox q m).mailboxes.length = s.mailboxes.length := by
    simp [Surroundings.setMailbox]
  refine { held := h.held, listed := fun c q hq => ?_, foreign := fun q hq => ?_,
           there := fun y hy => ?_, came := fun c hc => ?_, listens := h.listens, awake := ?_ }
  · rw [hlen]
    exact h.listed c q hq
  · rw [hlen]
    exact h.foreign q hq
  · rw [hlen]
    exact h.there y hy
  · rcases Activity.after_cases (some i) with ha | ha | ha | ha <;> rw [ha] at hc <;> cases hc
  · rintro _ ⟨⟩ hne hq
    rcases h.awake x rfl (by simp) hq with hst | hmark
    · exact .inl hst
    · -- the marker is still there unless it was the item that was taken
      refine .inr ?_
      rw [Surroundings.mailbox_setMailbox _ _ _ _ (h.there x rfl).2, if_pos rfl]
      rw [hitems] at hmark
      rcases List.mem_cons.1 hmark with rfl | hrest
      · exact absurd rfl hne
      · exact hrest

section

variable {k : Shore σ}

/-- Orderly acts keep the condition. -/
theorem keeps (hnote : Aloof theirs k.note) {α : Type}
    {act : Act (Harbour σ) α} (h : act.Along (Tide k.note theirs)) :
    Keeps (Heard theirs hold a) act :=
  h.keeps fun _ _ hst hs => hs.tide hnote hst

/-- So do those that do not stop. -/
theorem safe (hnote : Aloof theirs k.note)
    {act : Act (Harbour σ) Unit} (h : act.Safely (Tide k.note theirs)) :
    Spec (Heard theirs hold a) act (fun _ => Heard theirs hold a) never :=
  h.spec fun _ _ hst hs => hs.tide hnote hst

/-- While a stream is closed that nobody holds, it is not held again. -/
theorem closing (hnote : Aloof theirs k.note) {act : Act (Harbour σ) Unit}
    (h : act.Along (Tide k.note theirs)) :
    Spec (fun s => Heard theirs hold a s ∧ Unheld stream s) act
      (fun _ s => Heard theirs hold a s ∧ Unheld stream s) (failing fun _ => Heard theirs hold a) :=
  (h.keeps fun _ _ hst hs => ⟨hs.1.tide hnote hst, hs.2.onward (.tide hst)⟩).post
    (fun _ _ hs => hs) fun _ _ hs => ⟨hs.1, hs.2.1⟩

/-- The watcher is registered before it waits, and will hear something. -/
def outline (ho : k.Orderly (Tide k.note theirs))
    (hnote : Aloof theirs k.note)
    (hopen : Unaware k.daemon) (c : WatchConfig) : Outline k.host c where
  holds := Heard theirs
  report hold a e _ := safe hnote (ho.report e)
  alarm hold f := (safe hnote (ho.report _)).post (fun _ _ hs => hs.during (by simp) (by simp))
    fun _ _ he => he
  sleep hold := (safe hnote (ho.sleep _)).post (fun _ _ hs => hs.during (by simp) (by simp))
    fun _ _ he => he
  connect hold _ := by
    refine (connect_spec (keeps hnote ho.dial)).post ?_
      fun _ _ hs => ⟨hs.1, hs.2.during (by simp) (by simp)⟩
    rintro client _ ⟨s, hs, rfl, rfl⟩
    exact hs.addClient
  remove x a _ _ := by
    -- the listener goes first, and the stream after the last listener
    have gone (s : Harbour σ) (hs : Heard theirs (some x) a s) :
        Heard theirs (some x.silent) a (Harbour.withdraw x.client x.queue s) := by
      refine hs.withdraw (hs.there x rfl).1 ?_
      rintro _ ⟨⟩
      exact ⟨x, rfl, rfl, rfl, fun hsub => by cases hsub⟩
    refine removeListener_spec (S := fun stream s => Heard theirs (some x.silent) a s ∧ Unheld stream s)
      (T := fun stream s => Heard theirs (some x.silent) a s ∧ Unheld stream s)
      (fun s hs _ => gone s hs) ?_ (fun stream => closing hnote (ho.closeStream x.client stream))
      fun _ _ hs => hs.1.endReading hs.2
    intro s stream hs heq
    exact (gone s hs).release ((gone s hs).there _ rfl).1 heq
  close x a _ _ := by
    refine closeClient_spec (S := Heard theirs none a)
      (T := fun stream s => Heard theirs none a s ∧ Unheld stream s)
      (fun s hs _ => hs.emptied (hs.there x rfl).1) (fun stream => ?_)
      (fun _ _ hs => hs.1.endReading hs.2) (keeps hnote (ho.close x.client))
    refine (closing hnote (ho.closeStream x.client stream)).pre ?_
    rintro _ ⟨t, ht, hst, rfl⟩
    refine ⟨ht.emptied (ht.there x rfl).1, ht.unheld hst rfl fun b => ?_⟩
    rw [hub_changeHub _ _ _ _ (ht.there x rfl).1, apply_ite Hub.stream?]
  settle s hs := hs.during (by simp) (by simp)
  adopt client := fun s hs => hs.adopted { capacity := c.queueSize }
  survey x := by
    refine (Host.enumerate_keeps (Q := Heard theirs (some x) .due) ?_ ?_ ?_ _ _).post
      (fun _ _ hs => hs.during (by simp) (by simp))
      fun _ _ hs => ⟨hs.1, hs.2.during (by simp) (by simp)⟩
    · exact Daemon.listRunning_keeps (keeps hnote (ho.containers _))
    · exact fun id => Daemon.inspectContainer_keeps (keeps hnote (ho.inspect _ id))
    · exact fun e => safe hnote (ho.report e)
  publish x t := (keeps hnote (ho.publish t)).post (fun _ _ hs => hs.during (by simp) (by simp))
    fun _ _ hs => ⟨hs.1, hs.2.during (by simp) (by simp)⟩
  ping x := (Daemon.checkAlive_keeps (keeps hnote (ho.ping _))).post (fun _ _ hs => hs)
    fun _ _ hs => ⟨hs.1, hs.2.during (by simp) (by simp)⟩
  add x _ _ := by
    have opened : Spec (Heard theirs (some x) .calm) (k.daemon.openStream x.client)
        (fun _ => Heard theirs (some x) .calm) (failing fun f => match f with
          | .alreadySubscribed _ => Heard theirs (some x.listening) .calm
          | _ => Heard theirs (some x) .failed) := by
      have kept : Keeps (Heard theirs (some x) .calm) (k.daemon.openStream x.client) :=
        keeps hnote (ho.openStream x.client)
      refine (kept.and (hopen x.client)).mono (fun s hs => ⟨hs, trivial⟩) (fun _ s hs => hs.1)
        fun f s hs => ⟨hs.1.1, ?_⟩
      cases f with
      | alreadySubscribed u => exact absurd rfl (hs.2 u)
      | _ => exact hs.1.2.during (by simp) (by simp)
    have registered (s : Harbour σ) (hs : Heard theirs (some x) .calm s)
        (hst : (s.hub x.client).stream? ≠ none) :
        Heard theirs (some x.listening) .calm (Harbour.enroll x.client x.queue s) := by
      refine hs.enroll (hs.there x rfl).1 (hs.there x rfl).2 hst ?_
      rintro _ ⟨⟩
      exact ⟨x, rfl, rfl, rfl, fun _ => .inr ⟨rfl, rfl⟩⟩
    refine addListener_spec (S := Heard theirs (some x) .calm) ?_ (opened.pre fun _ hs => hs.1) ?_ ?_
    · intro s hs hq
      -- someone has registered the watcher's mailbox already, and that counts
      refine ⟨rfl, ?_⟩
      refine hs.rehub hs.held hs.listed rfl rfl rfl ?_ ?_ ?_
      · rintro _ ⟨⟩
        exact ⟨x, rfl, rfl, rfl⟩
      · rintro _ ⟨⟩ _
        exact hq
      · rintro _ ⟨⟩ hq
        exact .inr ⟨hq, rfl⟩
    · intro s hs
      have hlt := (hs.there x rfl).1
      refine registered _ (hs.beginReading hlt) ?_
      rw [hub_beginReading _ _ _ hlt, if_pos rfl]
      simp
    · intro s hs _ hst
      exact registered s hs hst
  take x _ := by
    refine (Surroundings.take_spec (Heard theirs (some x) .calm) _ _).post (fun item s hs => ?_)
      fun _ _ hs => ⟨hs.1, hs.2.during (by simp) (by simp)⟩
    cases item with
    | none => exact hs.1
    | some i =>
      obtain ⟨t, rest, ht, hitems, rfl⟩ := hs
      exact ht.taken hitems

end

end Heard

/-! ## Wherever the watcher comes to -/

section

variable {k : Shore σ} {theirs : σ → List QueueId} {c : WatchConfig} {control : Control} {x : σ}
  {m : Machine (Fleet σ)}

/-- **The watcher is never deaf.** Whenever it waits for events, its mailbox is registered with its
client, and either the client holds a stream that is read, or the mailbox has the marker for the
end of the stream. -/
theorem watching_hears (ho : k.Orderly (Tide k.note theirs)) (hnote : Aloof theirs k.note)
    (hopen : Unaware k.daemon) (hx : theirs x = [])
    (h : Watcher.Reachable k.host c (Tide k.note theirs) (launched control x) m)
    (hphase : m.watcher.phase = .watching) :
    ∃ client queue, m.watcher.client? = some client ∧ m.watcher.queue? = some queue ∧
      queue ∈ (hub m.outside client).listeners ∧
      ((∃ stream, (hub m.outside client).stream? = some stream ∧
        reader? m.outside stream = some client) ∨
        none ∈ (m.outside.mailbox queue).items) := by
  let o := Heard.outline ho hnote hopen c
  have calm : o.Calm m := by
    refine o.calm_of_reachable (o.calm_of_fresh rfl (Heard.start _ rfl hx)) ?_ ?_ h
    · exact fun _ _ hs => hs.during (by simp) (by simp)
    · exact fun _ _ _ ht hs => hs.tide hnote ht
  obtain ⟨phase, hold, hfit, hw, hm⟩ := calm
  rw [hw] at hphase
  obtain rfl : phase = .watching := hphase
  obtain ⟨x, rfl, hx⟩ := hfit
  have hmem := hm.listens x rfl hx
  refine ⟨x.client, x.queue, by rw [hw]; rfl, by rw [hw]; rfl, hmem, ?_⟩
  rcases hm.awake x rfl (by simp) hmem with hst | hmark
  · obtain ⟨stream, hst⟩ := Option.ne_none_iff_exists'.1 hst
    exact .inl ⟨stream, hst, hm.held _ _ hst⟩
  · exact .inr hmark

end

/-- A queue for three items, and no time to wait. -/
def hasty : WatchConfig where
  ports := ["80"]
  pingInterval := .missing
  reconnectInterval := .missing
  queueSize := 3

/-- Two transitions on a quiet shore, after which the watcher waits for events. -/
def settled : Machine (Fleet Unit) :=
  ((Watcher.step (Shore.quiet Unit).host hasty).outcome
    ((Watcher.step (Shore.quiet Unit).host hasty).outcome
      (launched {} ())).2).2

/-- A watcher whose stream has ended meanwhile. -/
theorem watching_hears_settled :
    (Shore.quiet Unit).Orderly (Tide (Shore.quiet Unit).note fun _ => []) ∧
      Unaware (Shore.quiet Unit).daemon ∧ settled.watcher.phase = .watching ∧
      ∃ client queue, settled.watcher.client? = some client ∧ settled.watcher.queue? = some queue ∧
        queue ∈ (hub (finish (logged (Shore.quiet Unit).note) 0 none settled.outside) client).listeners ∧
        ((∃ stream,
          (hub (finish (logged (Shore.quiet Unit).note) 0 none settled.outside) client).stream? =
            some stream ∧
          reader? (finish (logged (Shore.quiet Unit).note) 0 none settled.outside) stream =
            some client) ∨
          none ∈
            ((finish (logged (Shore.quiet Unit).note) 0 none settled.outside).mailbox queue).items) := by
  have orderly : (Shore.quiet Unit).Orderly (Tide (Shore.quiet Unit).note fun _ => []) :=
    Shore.quiet_orderly fun _ => .refl
  have unaware : Unaware (Shore.quiet Unit).daemon := fun _ => Spec.pure fun _ _ => trivial
  have waits : settled.watcher.phase = .watching := by decide +kernel
  have reached : Watcher.Reachable (Shore.quiet Unit).host hasty
      (Tide (Shore.quiet Unit).note fun _ => []) (launched {} ())
      { settled with outside := finish (logged (Shore.quiet Unit).note) 0 none settled.outside } :=
    .meanwhile (.step (.step .start)) (.single (.inl (.finished _ 0 none)))
  exact ⟨orderly, unaware, waits, watching_hears orderly (fun _ _ => rfl) unaware rfl reached waits⟩

end HostRouting.Harbour
