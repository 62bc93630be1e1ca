import HostRouting.Proofs.Chronicle
import HostRouting.Proofs.Outline

/-!
# The watcher's client is the only one with listeners

While nobody but the watcher subscribes to events, the only client with a listener is the one that
the watcher holds, and its listener is the watcher's mailbox. A stream that is held is read. Others
that are still read are those that could not be closed, and nobody listens to these.
-/

namespace HostRouting.Harbour

open Act (Spec Keeps failing never)

variable {σ : Type} {hold : Option Hold} {a : Activity} {s t : Harbour σ} {c : ClientId}
  {stream : StreamId} {x : Hold}

/-! ## The condition -/

/-- The listeners, the streams and the numbers, as they are while only the watcher subscribes. -/
structure Sole (hold : Option Hold) (a : Activity) (s : Harbour σ) : Prop where
  others : ∀ c, (∀ x, hold = some x → x.client ≠ c) → s.hub c = {}
  own : ∀ x, hold = some x →
    s.hub x.client = {} ∨ x.subscribed = true ∧ (s.hub x.client).listeners = [x.queue]
  held : ∀ c stream, (s.hub c).stream? = some stream → s.reader? stream = some c
  /-- A client reads a stream that it does not hold only after its subscription was taken away. -/
  read : ∀ c stream, s.reader? stream = some c → c < s.rest.hubs.length ∧
    ((s.hub c).stream? = some stream ∨
      s.hub c = {} ∧ ∀ x, hold = some x → x.client = c → x.parted = true)
  there : ∀ x, hold = some x → x.client < s.rest.hubs.length ∧ x.queue < s.mailboxes.length
  came : ∀ c, a = .arrived c → c < s.rest.hubs.length ∧ (∀ x, hold = some x → x.client ≠ c) ∧
    ∀ stream, s.reader? stream ≠ some c

namespace Sole

/-- What the condition depends on. -/
theorem congr (h : Sole hold a s) (hhub : ∀ c, t.hub c = s.hub c)
    (hread : ∀ i, t.reader? i = s.reader? i) (hhubs : t.rest.hubs.length = s.rest.hubs.length)
    (hmail : s.mailboxes.length ≤ t.mailboxes.length) : Sole hold a t where
  others c hc := by
    rw [hhub]
    exact h.others c hc
  own x hx := by
    rw [hhub]
    exact h.own x hx
  held c stream := by
    rw [hhub, hread]
    exact h.held c stream
  read c stream := by
    rw [hhub, hread, hhubs]
    exact h.read c stream
  there x hx := by
    rw [hhubs]
    exact ⟨(h.there x hx).1, Nat.lt_of_lt_of_le (h.there x hx).2 hmail⟩
  came c hc := by
    simp only [hhubs, hread]
    exact h.came c hc

theorem turn (h : Sole hold a s) (control : Control) (y : σ) : Sole hold a (s.turn control y) :=
  h.congr (fun _ => rfl) (fun _ => rfl) rfl (Nat.le_refl _)

theorem setMailbox (h : Sole hold a s) (q : QueueId) (m : Mailbox) :
    Sole hold a (s.setMailbox q m) :=
  h.congr (fun _ => rfl) (fun _ => rfl) rfl (by simp [Surroundings.setMailbox])

/-- The activity matters only while a new client arrives. -/
theorem during (h : Sole hold a s) {b : Activity} (hb : ∀ c, b ≠ .arrived c) : Sole hold b s :=
  { h with came := fun c hc => absurd hc (hb c) }

/-- Nothing was registered for a connection without a subscription. -/
theorem silent (h : Sole (some x) a s) (hx : x.subscribed = false) : s.hub x.client = {} := by
  rcases h.own x rfl with he | ⟨hsub, -⟩
  · exact he
  · simp [hx] at hsub

/-- Another client than the watcher's has nothing. -/
theorem other (h : Sole (some x) a s) (hc : c ≠ x.client) : s.hub c = {} := by
  refine h.others c ?_
  rintro _ ⟨⟩
  exact hc.symm

/-- Without a subscription nobody has anything. -/
theorem bare (h : Sole (some x) a s) (hx : x.subscribed = false) (c : ClientId) :
    s.hub c = {} := by
  by_cases hc : c = x.client
  · rw [hc, h.silent hx]
  · exact h.other hc

/-- Only the watcher's client holds a stream. -/
theorem holder (h : Sole hold a s) (hst : (s.hub c).stream? = some stream) :
    ∃ x, hold = some x ∧ x.client = c ∧ x.subscribed = true ∧
      (s.hub c).listeners = [x.queue] := by
  have hne : s.hub c ≠ {} := by
    intro he
    simp [he] at hst
  have hx : ∃ x, hold = some x ∧ x.client = c := by
    by_cases hx : ∃ x, hold = some x ∧ x.client = c
    · exact hx
    · exact absurd (h.others c fun x hx' hc => hx ⟨x, hx', hc⟩) hne
  obtain ⟨x, hx, rfl⟩ := hx
  rcases h.own x hx with he | ⟨hsub, hl⟩
  · exact absurd he hne
  · exact ⟨x, hx, rfl, hsub, hl⟩

/-- A stream that is read is that of the watcher's client, or nobody listens to it. -/
theorem reader_cases (h : Sole hold a s) (stream : StreamId) :
    (∀ c, s.reader? stream = some c → s.hub c = {}) ∨
      ∃ x, hold = some x ∧ s.reader? stream = some x.client ∧ x.subscribed = true ∧
        (s.hub x.client).listeners = [x.queue] ∧ (s.hub x.client).stream? = some stream := by
  cases hr : s.reader? stream with
  | none => simp
  | some c =>
    rcases (h.read c stream hr).2 with hst | ⟨he, -⟩
    · obtain ⟨x, hx, rfl, hsub, hl⟩ := h.holder hst
      exact .inr ⟨x, hx, rfl, hsub, hl, hst⟩
    · left
      rintro _ ⟨⟩
      exact he

/-- The reading of a stream that nobody holds may end. -/
theorem endReading (h : Sole hold a s) (hfree : ∀ c, (s.hub c).stream? ≠ some stream) :
    Sole hold a (s.endReading stream) := by
  have hsub (c : ClientId) (i : StreamId) (hr : (s.endReading stream).reader? i = some c) :
      s.reader? i = some c := by
    rw [reader?_endReading] at hr
    split at hr
    · cases hr
    · exact hr
  refine { h with held := fun c i hst => ?_, read := fun c i hr => ?_, came := fun c hc => ?_ }
  · rw [reader?_endReading, if_neg]
    · exact h.held c i hst
    · rintro rfl
      exact hfree c hst
  · exact h.read c i (hsub c i hr)
  · obtain ⟨hlt, hne, hnot⟩ := h.came c hc
    exact ⟨hlt, hne, fun i hr => hnot i (hsub c i hr)⟩

/-- What comes in on a stream to which nobody listens changes nothing. -/
theorem unheard {note : Log.Entry → Act σ Unit} (h : Sole hold a s)
    (hbare : ∀ c, s.reader? stream = some c → s.hub c = {}) (ht : Unheard note stream s t) :
    Sole hold a t := by
  cases ht with
  | passed => exact h
  | ended hx =>
    refine (h.turn _ _).endReading fun c hst => ?_
    have he := hbare c (h.held c stream hst)
    change (s.hub c).stream? = some stream at hst
    simp [he] at hst

/-- The stream of the watcher's client is neither held nor read once it is over. -/
theorem lapsed (h : Sole (some x) a s) (hst : (s.hub x.client).stream? = some stream) :
    Sole (some x) a (lapsed x.client x.queue stream s) := by
  obtain ⟨_, ⟨⟩, -, hsub, hl⟩ := h.holder hst
  refine Sole.setMailbox ?_ _ _
  have hhub (b : ClientId) : (giveUp x.client stream (s.endReading stream)).hub b =
      if b = x.client then ⟨(s.hub x.client).listeners, none⟩ else s.hub b := by
    rw [hub_giveUp, hub_endReading, hub_endReading]
    simp only [hst, and_true]
  have hread (b : ClientId) (i : StreamId)
      (hr : (giveUp x.client stream (s.endReading stream)).reader? i = some b) :
      i ≠ stream ∧ s.reader? i = some b := by
    change (s.endReading stream).reader? i = some b at hr
    rw [reader?_endReading] at hr
    split at hr
    · cases hr
    · exact ⟨‹_›, hr⟩
  have hlen : (giveUp x.client stream (s.endReading stream)).rest.hubs.length =
      s.rest.hubs.length := by
    simp
  refine { others := fun c hc => ?_, own := ?_, held := fun c i hi => ?_, read := fun c i hr => ?_,
           there := ?_, came := fun c hc => ?_ }
  · rw [hhub, if_neg fun he => hc x rfl he.symm]
    exact h.others c hc
  · rintro _ ⟨⟩
    rw [hhub, if_pos rfl]
    exact .inr ⟨hsub, hl⟩
  · -- nobody holds a stream any more
    rw [hhub] at hi
    split at hi
    · cases hi
    · rename_i hc
      simp [h.other hc] at hi
  · obtain ⟨hi, hr⟩ := hread c i hr
    rw [hhub, hlen]
    refine ⟨(h.read c i hr).1, .inr ?_⟩
    rcases (h.read c i hr).2 with hst' | ⟨he, hparted⟩
    · -- the only stream that was held is the one that is over
      obtain ⟨_, ⟨⟩, rfl, -⟩ := h.holder hst'
      rw [hst] at hst'
      exact absurd (Option.some.inj hst').symm hi
    · rw [if_neg]
      · exact ⟨he, hparted⟩
      · rintro rfl
        simp [he] at hst
  · rintro _ ⟨⟩
    rw [hlen]
    exact h.there x rfl
  · obtain ⟨hlt, hne, hnot⟩ := h.came c hc
    rw [hlen]
    exact ⟨hlt, hne, fun i hr => hnot i (hread c i hr).2⟩

/-- Before the first connection nobody has anything. -/
theorem start (s : Harbour σ) (hhubs : s.rest.hubs = []) (hstreams : s.rest.streams = []) :
    Sole none .calm s where
  others c _ := by simp [hub, hhubs]
  own := by rintro _ ⟨⟩
  held c stream := by simp [hub, hhubs]
  read c stream := by simp [reader?, hstreams]
  there := by rintro _ ⟨⟩
  came := by rintro _ ⟨⟩

/-! ## Happenings -/

section

variable {note : Log.Entry → Act σ Unit} {may : σ → σ → Prop}

/-- Happenings leave the condition. -/
theorem happening (hnote : Sound note) (h : Sole hold a s) (ht : Happening note may s t) :
    Sole hold a t := by
  cases ht with
  | turned control hx => exact h.turn control _
  | fed stream message =>
    rcases h.reader_cases stream with hbare | ⟨x, rfl, hr, -, hl, hst⟩
    · exact h.unheard hbare (feed_unheard note hbare message)
    · have hreceipt := feed_single message hnote hr hl
      generalize feed (logged note) stream message s = t at hreceipt
      cases hreceipt with
      | skipped hm => exact h
      | stored hm hroom => exact h.setMailbox _ _
      | refused hm hfull hx => exact h.turn _ _
      | broken hm hsome hx => exact (h.turn _ _).lapsed hst
  | finished stream reason =>
    rcases h.reader_cases stream with hbare | ⟨x, rfl, hr, -, hl, hst⟩
    · exact h.unheard hbare (finish_unheard note hbare reason)
    · obtain ⟨y, hy, ht⟩ := finishReading_single note stream hl reason
      simp only [finish, hr, ht]
      exact (h.turn _ _).lapsed hst

/-- So does any course of happenings. -/
theorem course (hnote : Sound note) (h : Sole hold a s) (ht : Course note s t) :
    Sole hold a t := by
  induction ht with
  | refl => exact h
  | tail _ hstep ih => exact ih.happening hnote hstep

end

/-! ## Calls through a client -/

variable {d : Daemon (Harbour σ)}

/-- A new client arrives. -/
theorem addClient (h : Sole hold .calm s) : Sole hold (.arrived s.rest.hubs.length) s.addClient where
  others c hc := by
    rw [hub_addClient]
    exact h.others c hc
  own x hx := by
    rw [hub_addClient]
    exact h.own x hx
  held c stream := by
    rw [hub_addClient]
    exact h.held c stream
  read c stream hr := by
    have := h.read c stream hr
    rw [hub_addClient, length_hubs_addClient]
    exact ⟨Nat.lt_succ_of_lt this.1, this.2⟩
  there x hx := by
    have := h.there x hx
    rw [length_hubs_addClient]
    exact ⟨Nat.lt_succ_of_lt this.1, this.2⟩
  came c hc := by
    cases hc
    refine ⟨by simp, fun x hx => ?_, fun i hr => ?_⟩
    · exact Nat.ne_of_lt (h.there x hx).1
    · exact Nat.lt_irrefl _ (h.read _ i hr).1

/-- A subscription may find nothing registered. -/
theorem subscribed (h : Sole (some x) a s) (hx : x.subscribed = false) :
    Sole (some x.listening) a s where
  others c _ := h.bare hx c
  own := by
    rintro _ ⟨⟩
    exact .inl (h.silent hx)
  held := h.held
  read c i hr := by
    obtain ⟨hlt, hcase⟩ := h.read c i hr
    refine ⟨hlt, hcase.imp_right fun ⟨he, hparted⟩ => ⟨he, ?_⟩⟩
    rintro _ ⟨⟩
    exact hparted x rfl
  there := by
    rintro _ ⟨⟩
    exact h.there x rfl
  came c hc := by
    obtain ⟨hlt, hne, hnot⟩ := h.came c hc
    refine ⟨hlt, ?_, hnot⟩
    rintro _ ⟨⟩
    exact hne x rfl

/-- The watcher's mailbox is registered, and a stream is opened. -/
theorem enrolled (h : Sole (some x) .calm s) (hx : x.subscribed = false) (hp : x.parted = false) :
    Sole (some x.listening) .calm (enroll x.client x.queue (s.beginReading x.client)) := by
  have hthere := h.there x rfl
  have hhub (b : ClientId) : (enroll x.client x.queue (s.beginReading x.client)).hub b =
      if b = x.client then ⟨[x.queue], some s.rest.streams.length⟩ else {} := by
    have hlt : x.client < (s.beginReading x.client).rest.hubs.length := by
      simpa using hthere.1
    rw [hub_enroll _ _ _ hlt, hub_beginReading _ _ _ hthere.1,
      hub_beginReading _ _ _ hthere.1, if_pos rfl, h.silent hx, h.bare hx b]
    split <;> rfl
  have hread (i : StreamId) : (enroll x.client x.queue (s.beginReading x.client)).reader? i =
      if i = s.rest.streams.length then some x.client else s.reader? i :=
    reader?_beginReading s x.client i
  have hlen : (enroll x.client x.queue (s.beginReading x.client)).rest.hubs.length =
      s.rest.hubs.length := by
    simp
  refine { others := fun c hc => ?_, own := ?_, held := fun c i hi => ?_, read := fun c i hr => ?_,
           there := ?_, came := ?_ }
  · rw [hhub, if_neg fun he => hc x.listening rfl he.symm]
  · rintro _ ⟨⟩
    refine .inr ⟨rfl, ?_⟩
    rw [Hold.listening_client, hhub, if_pos rfl]
    rfl
  · rw [hhub] at hi
    split at hi
    · rename_i hc
      rw [hread, if_pos (Option.some.inj hi).symm, hc]
    · cases hi
  · rw [hread] at hr
    rw [hhub, hlen]
    split at hr
    · rename_i hi
      obtain rfl := Option.some.inj hr
      rw [if_pos rfl, hi]
      exact ⟨hthere.1, .inl rfl⟩
    · obtain ⟨hlt, hcase⟩ := h.read c i hr
      refine ⟨hlt, .inr ?_⟩
      -- nobody held a stream, and the watcher's client read none
      rcases hcase with hst | ⟨-, hparted⟩
      · simp [h.bare hx c] at hst
      · have hne : c ≠ x.client := by
          rintro rfl
          simp [hparted x rfl rfl] at hp
        rw [if_neg hne]
        refine ⟨rfl, ?_⟩
        rintro _ ⟨⟩ hc
        exact absurd hc.symm hne
  · rintro _ ⟨⟩
    rw [hlen]
    exact hthere
  · intro c hc
    cases hc

/-- Registering the watcher's mailbox. -/
theorem addListener (hopen : Keeps (Sole (some x) .calm) (d.openStream x.client))
    (hx : x.subscribed = false) (hp : x.parted = false) :
    Spec (Sole (some x) .calm) (addListener d x.client x.queue)
      (fun _ => Sole (some x.listening) .calm) (failing fun _ => Sole (some x) .calm) := by
  refine addListener_spec (S := Sole (some x) .calm) (fun s hs hq => ?_) (hopen.pre fun _ hs => hs.1)
    (fun s hs => hs.enrolled hx hp) fun s hs _ hsome => ?_
  · rw [hs.silent hx] at hq
    cases hq
  · rw [hs.silent hx] at hsome
    exact absurd rfl hsome

/-- The listeners after the watcher's mailbox was taken off. -/
theorem hub_withdraw (h : Sole (some x) a s) (b : ClientId) :
    (withdraw x.client x.queue s).hub b =
      if b = x.client then ⟨[], (s.hub x.client).stream?⟩ else s.hub b := by
  rw [Harbour.hub_withdraw _ _ _ (h.there x rfl).1]
  rcases h.own x rfl with he | ⟨-, hl⟩
  · simp [he]
  · simp [hl]

/-- Nothing is registered with the watcher's client any more, and nobody else has anything either.
The client may read its stream on. -/
theorem bared (h : Sole (some x) a s) (hx : x.subscribed = true)
    (hhub : ∀ b, t.hub b = if b = x.client then {} else s.hub b)
    (hread : ∀ i, t.reader? i = s.reader? i) (hhubs : t.rest.hubs.length = s.rest.hubs.length)
    (hmail : t.mailboxes.length = s.mailboxes.length) : Sole (some x.silent) a t := by
  have hempty (b : ClientId) : t.hub b = {} := by
    rw [hhub]
    split
    · rfl
    · exact h.other ‹_›
  refine { others := fun c _ => hempty c, own := ?_, held := fun c i hi => ?_,
           read := fun c i hr => ?_, there := ?_, came := fun c hc => ?_ }
  · rintro _ ⟨⟩
    exact .inl (hempty _)
  · simp [hempty c] at hi
  · rw [hread] at hr
    rw [hhubs]
    refine ⟨(h.read c i hr).1, .inr ⟨hempty c, ?_⟩⟩
    rintro _ ⟨⟩ -
    exact Hold.silent_parted hx
  · rintro _ ⟨⟩
    rw [hhubs, hmail]
    exact h.there x rfl
  · simp only [hhubs, hread]
    obtain ⟨hlt, hne, hnot⟩ := h.came c hc
    refine ⟨hlt, ?_, hnot⟩
    rintro _ ⟨⟩
    exact hne x rfl

/-- Without a stream, nothing is left of the subscription. -/
theorem withdrawn (h : Sole (some x) a s) (hx : x.subscribed = true)
    (hnone : (s.hub x.client).stream? = none) :
    Sole (some x.silent) a (withdraw x.client x.queue s) := by
  refine h.bared hx (fun b => ?_) (fun _ => rfl) ?_ rfl
  · rw [h.hub_withdraw, hnone]
  · simp

/-- With a stream, the client lets go of it. -/
theorem released (h : Sole (some x) a s) (hx : x.subscribed = true) :
    Sole (some x.silent) a (release x.client (withdraw x.client x.queue s)) := by
  have hlt : x.client < (withdraw x.client x.queue s).rest.hubs.length := by
    simpa using (h.there x rfl).1
  refine h.bared hx (fun b => ?_) (fun _ => rfl) ?_ rfl
  · rw [hub_release _ _ hlt, h.hub_withdraw, h.hub_withdraw, if_pos rfl]
    split <;> rfl
  · simp

/-- Taking the watcher's mailbox off. -/
theorem removeListener (hx : x.subscribed = true)
    (hclose : ∀ stream, Keeps (Sole (some x.silent) a) (d.closeStream x.client stream)) :
    Spec (Sole (some x) a) (removeListener d x.client x.queue)
      (fun _ => Sole (some x.silent) a) (failing fun _ => Sole (some x.silent) a) := by
  refine removeListener_spec (S := fun _ => Sole (some x.silent) a)
    (T := fun _ => Sole (some x.silent) a) (fun s hs hne => hs.withdrawn hx ?_)
    (fun s stream hs _ => hs.released hx) hclose fun stream s hs => hs.endReading fun c => ?_
  · cases hst : (s.hub x.client).stream? with
    | none => rfl
    | some stream =>
      refine absurd ?_ (hne stream)
      rw [hs.hub_withdraw, if_pos rfl, hst]
  · simp [hs.bare rfl c]

/-- A client without a subscription is let go. -/
theorem closed (h : Sole (some x) a s) (hx : x.subscribed = false) :
    Sole none a (s.changeHub x.client fun _ => {}) := by
  have hhub (b : ClientId) : (s.changeHub x.client fun _ => {}).hub b = s.hub b := by
    rw [hub_changeHub _ _ _ _ (h.there x rfl).1, h.bare hx b, ite_self]
  have hempty : Sole none a s := by
    refine { h with others := fun c _ => h.bare hx c, own := ?_, read := fun c i hr => ?_,
                    there := ?_, came := fun c hc => ?_ }
    · rintro _ ⟨⟩
    · refine ⟨(h.read c i hr).1, .inr ⟨h.bare hx c, ?_⟩⟩
      rintro _ ⟨⟩
    · rintro _ ⟨⟩
    · obtain ⟨hlt, -, hnot⟩ := h.came c hc
      refine ⟨hlt, ?_, hnot⟩
      rintro _ ⟨⟩
  exact hempty.congr hhub (fun _ => rfl) (by simp) (Nat.le_refl _)

/-- A client without a subscription is closed. -/
theorem closeClient (hx : x.subscribed = false)
    (hclose : Keeps (Sole none a) (d.close x.client)) :
    Spec (Sole (some x) a) (closeClient d x.client) (fun _ => Sole none a)
      (failing fun _ => Sole none a) := by
  refine closeClient_spec (T := fun _ _ => False) (fun s hs _ => hs.closed hx) (fun stream => ?_)
    (fun _ _ hs => hs.elim) hclose
  -- the client held no stream
  rintro _ ⟨t, ht, hst, -⟩
  rw [ht.silent hx] at hst
  cases hst

/-- A mailbox for the client that arrived. -/
theorem adopted (h : Sole none (.arrived c) s) (m : Mailbox) :
    Sole (some { client := c, queue := s.mailboxes.length }) .due (s.addMailbox m) := by
  have hempty (b : ClientId) : s.hub b = {} := h.others b (by rintro _ ⟨⟩)
  refine { others := fun b _ => hempty b, own := ?_, held := h.held, read := fun b i hr => ?_,
           there := ?_, came := fun b hb => ?_ }
  · rintro _ ⟨⟩
    exact .inl (hempty c)
  · refine ⟨(h.read b i hr).1, .inr ⟨hempty b, ?_⟩⟩
    rintro _ ⟨⟩ rfl
    exact absurd hr ((h.came c rfl).2.2 i)
  · rintro _ ⟨⟩
    exact ⟨(h.came c rfl).1, by simp [Surroundings.addMailbox]⟩
  · cases hb

end Sole

/-! ## The watcher's transitions -/

section

variable {ω : Type} {k : Shore (Chronicle ω σ)}
  {R : Harbour (Chronicle ω σ) → Harbour (Chronicle ω σ) → Prop}

/-- Orderly acts keep the condition. -/
theorem Sole.keeps (ho : k.Orderly R) (hR : ∀ s t, R s t → Course k.note s t) {α : Type}
    {act : Act (Harbour (Chronicle ω σ)) α} (h : act.Along R) : Keeps (Sole hold a) act :=
  h.keeps fun s t hst hs => hs.course ho.sound (hR s t hst)

/-- A deed that keeps the condition is told of, and then another activity goes on. -/
theorem Sole.told {α : Type} {act : Act (Harbour (Chronicle ω σ)) α} {call : Watcher.Call}
    {answer : α → Watcher.Deed} {b : α → Activity} {b' : Activity} (h : Keeps (Sole hold a) act)
    (hb : ∀ v c, b v ≠ .arrived c) (hb' : ∀ c, b' ≠ .arrived c) :
    Spec (Sole hold a) (act.noted (fun d => chronicle [.deed d]) call answer)
      (fun v => Sole hold (b v)) (failing fun _ => Sole hold b') :=
  (h.watched fun _ _ hs => hs.turn _ _).post (fun v _ hs => hs.during (hb v))
    fun _ _ hs => ⟨hs.1, hs.2.during hb'⟩

/-- So is one that does not stop. -/
theorem Sole.told_safe (ho : k.Orderly R) (hR : ∀ s t, R s t → Course k.note s t)
    {act : Act (Harbour (Chronicle ω σ)) Unit} (h : act.Safely R) {call : Watcher.Call}
    {answer : Unit → Watcher.Deed} :
    Spec (Sole hold a) (act.noted (fun d => chronicle [.deed d]) call answer)
      (fun _ => Sole hold a) never :=
  (h.spec fun s t hst (hs : Sole hold a s) => hs.course ho.sound (hR s t hst)).watched_safe
    fun _ _ hs => hs.turn _ _

/-- While only the watcher subscribes, its client is the only one with listeners. -/
def soleOutline (ho : k.Orderly R) (hR : ∀ s t, R s t → Course k.note s t) (c : WatchConfig) :
    Outline k.watched c where
  holds := Sole
  report hold a e _ := Sole.told_safe ho hR (ho.report e)
  alarm hold f := (Sole.told_safe ho hR (ho.report _)).post (fun _ _ hs => hs.during (by simp))
    fun _ _ he => he
  sleep hold := (Sole.told_safe ho hR (ho.sleep _)).post (fun _ _ hs => hs.during (by simp))
    fun _ _ he => he
  connect hold _ := by
    have dialled : Keeps (Sole hold .calm) k.dial := Sole.keeps ho hR ho.dial
    have made : Spec (Sole hold .calm) (Harbour.connect k.dial)
        (fun client => Sole hold (.arrived client)) (failing fun _ => Sole hold .failed) := by
      refine (connect_spec dialled).post ?_ fun _ _ hs => ⟨hs.1, hs.2.during (by simp)⟩
      rintro client _ ⟨s, hs, rfl, rfl⟩
      exact hs.addClient
    exact made.watched (fun _ _ hs => hs.turn _ _) (fun _ _ _ hs => hs.turn _ _)
      fun _ _ _ hs => ⟨hs.1, hs.2.turn _ _⟩
  remove x a _ hx := by
    have kept (stream : StreamId) :
        Keeps (Sole (some x.silent) a) (k.tallied.daemon.closeStream x.client stream) :=
      Sole.keeps ho hR (ho.closeStream x.client stream)
    have removed := Sole.removeListener hx kept
    exact removed.watched (fun _ _ hs => hs.turn _ _) (fun _ _ _ hs => hs.turn _ _)
      fun _ _ _ hs => ⟨hs.1, hs.2.turn _ _⟩
  close x a _ hx := by
    have hung : Keeps (Sole none a) (k.tallied.daemon.close x.client) :=
      Spec.bind (R := fun _ => Sole none a) (Spec.update fun _ hs => hs.turn _ _) fun _ =>
        Sole.keeps ho hR (ho.close x.client)
    have closed := Sole.closeClient hx hung
    exact closed.watched (fun _ _ hs => hs.turn _ _) (fun _ _ _ hs => hs.turn _ _)
      fun _ _ _ hs => ⟨hs.1, hs.2.turn _ _⟩
  settle s hs := hs.during (by simp)
  adopt client := fun s hs => hs.adopted { capacity := c.queueSize }
  survey x := by
    refine (Host.enumerate_keeps (Q := Sole (some x) .due) ?_ ?_ ?_ _ _).post
      (fun _ _ hs => hs.during (by simp)) fun _ _ hs => ⟨hs.1, hs.2.during (by simp)⟩
    · have listed : Keeps (Sole (some x) .due) (k.daemon.listRunning x.client) :=
        Daemon.listRunning_keeps (Sole.keeps ho hR (ho.containers _))
      exact Sole.told listed (by simp) (by simp)
    · intro id
      have inspected : Keeps (Sole (some x) .due) (k.daemon.inspectContainer x.client id) :=
        Daemon.inspectContainer_keeps (Sole.keeps ho hR (ho.inspect _ id))
      exact Sole.told inspected (by simp) (by simp)
    · exact fun e => Sole.told_safe ho hR (ho.report e)
  publish x t := Sole.told (Sole.keeps ho hR (ho.publish t)) (by simp) (by simp)
  ping x := by
    have pinged : Keeps (Sole (some x) .calm) (k.daemon.checkAlive x.client) :=
      Daemon.checkAlive_keeps (Sole.keeps ho hR (ho.ping _))
    exact Sole.told pinged (by simp) (by simp)
  add x hx hp := by
    have added := Sole.addListener (d := k.tallied.daemon) (x := x)
      (Sole.keeps ho hR (ho.openStream x.client)) hx hp
    refine (added.watched (fun _ _ hs => hs.turn _ _) (fun _ _ _ hs => hs.turn _ _)
      fun _ _ _ hs => ⟨hs.1, hs.2.turn _ _⟩).post (fun _ _ hs => hs) fun f s hs => ⟨hs.1, ?_⟩
    cases f with
    | alreadySubscribed _ => exact hs.2.subscribed hx
    | _ => exact hs.2.during (by simp)
  take x _ := by
    have taken : Keeps (Sole (some x) .calm)
        (Surroundings.take x.queue c.pingInterval : Act (Harbour (Chronicle ω σ)) _) := by
      refine (Surroundings.take_spec _ _ _).post (fun item s hs => ?_) fun _ _ hs => hs
      cases item with
      | none => exact hs.1
      | some i =>
        obtain ⟨t, rest, ht, -, rfl⟩ := hs
        exact ht.setMailbox _ _
    refine Sole.told taken (fun item c => ?_) (by simp)
    rcases Activity.after_cases item with ha | ha | ha | ha <;> simp [ha]

end

end HostRouting.Harbour
