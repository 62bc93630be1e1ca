import HostRouting.Proofs.Heeding
import HostRouting.Proofs.Steady

/-!
# Events that a full mailbox refuses

A mailbox that is full refuses an event, for the events in it are said to cause a pass anyway. That
is so if one of them is an event of the lifecycle. If the mailbox is full of other events, nothing
comes of an event of the lifecycle that is refused. Here it is told from the chronicle exactly when
the events that were read on a connection have all been followed by a pass.
-/

namespace HostRouting

open Act (Spec Keeps)

/-! ## Happenings that are told of -/

namespace Harbour

variable {ω σ : Type}

/-- What is told of a message: its event is offered to each listener. -/
def offers (s : Harbour (Chronicle ω σ)) (stream : StreamId) (message : Json) : List (Entry ω) :=
  match s.reader? stream, Event.ofMessage message with
  | some c, .ok (some e) => (s.hub c).listeners.map fun q => .offered q e (s.mailbox q)
  | _, _ => []

/-- Nothing is told of a message on a stream to which nobody listens. -/
theorem offers_of_bare {s : Harbour (Chronicle ω σ)} {stream : StreamId}
    (hbare : ∀ c, s.reader? stream = some c → s.hub c = {}) (message : Json) :
    s.offers stream message = [] := by
  unfold offers
  split
  · rename_i c _ hr _
    rw [hbare c hr]
    rfl
  · rfl

/-- What happens in a harbour while every offer is told of: a message with a textual event, or with
none, comes in on a stream, a stream ends or breaks, or the control and the rest change. -/
inductive Telling (note : Log.Entry → Act (Chronicle ω σ) Unit) :
    Harbour (Chronicle ω σ) → Harbour (Chronicle ω σ) → Prop where
  | fed (s : Harbour (Chronicle ω σ)) (stream : StreamId) {message : Json}
      (htext : ∀ e, Event.ofMessage message = .ok (some e) → e.Textual) :
      Telling note s (feed (logged note) stream message (s.chronicle (s.offers stream message)))
  | finished (s : Harbour (Chronicle ω σ)) (stream : StreamId) (reason : Option Fault) :
      Telling note s (finish (logged note) stream reason s)
  | turned (s : Harbour (Chronicle ω σ)) (control : Control) {x : Chronicle ω σ}
      (hx : x.entries = s.entries) : Telling note s (s.turn control x)

/-- Such happenings in any order. -/
def Told (note : Log.Entry → Act (Chronicle ω σ) Unit) :
    Harbour (Chronicle ω σ) → Harbour (Chronicle ω σ) → Prop :=
  Relation.ReflTransGen (Telling note)

/-- They are a course of happenings. -/
theorem Told.course {note : Log.Entry → Act (Chronicle ω σ) Unit} {s t : Harbour (Chronicle ω σ)}
    (h : Told note s t) : Course note s t := by
  induction h with
  | refl => exact .refl
  | tail _ hstep ih =>
    refine ih.trans ?_
    cases hstep with
    | fed stream htext => exact (Relation.ReflTransGen.single (.turned _ _ trivial)).tail (.fed _ _ _)
    | finished stream reason => exact .single (.finished _ _ _)
    | turned control hx => exact .single (.turned _ _ trivial)

/-! ## What is kept -/

open Chronicle (Heeded PassDue LatestCovered Covered heeded_concat passDue_concat
  latestCovered_concat)

/-- A pass will be made without anything else being read. -/
def Pending (x : Hold) (a : Activity) (s : Harbour (Chronicle ω σ)) : Prop :=
  a = .due ∨ ∃ e, some e ∈ (s.mailbox x.queue).items ∧ e.isLifecycle = true

/-- The connection is about to be given up because the stream is over. -/
def Marked (x : Hold) (a : Activity) (s : Harbour (Chronicle ω σ)) : Prop :=
  a = .ended ∨ none ∈ (s.mailbox x.queue).items

/-- If the latest event of the lifecycle was covered, all of them have been followed by a pass, or
one is pending, or the connection is about to be given up. If it was not covered, nothing comes
of it. -/
structure Mindful (hold : Option Hold) (a : Activity) (s : Harbour (Chronicle ω σ)) : Prop where
  settled : s.entries.getLast? = some (.deed (.took none)) → (Heeded s.entries ↔ LatestCovered s.entries)
  fresh : ∀ c, a = .arrived c → Heeded s.entries ∧ LatestCovered s.entries ∧
    ∀ x, hold = some x → x.subscribed = false
  pass : PassDue s.entries ↔ a = .due ∧ ∃ x, hold = some x ∧ x.subscribed = true
  texts : ∀ x, hold = some x → ∀ e, some e ∈ (s.mailbox x.queue).items → e.Textual
  covered : ∀ x, hold = some x → LatestCovered s.entries →
    Heeded s.entries ∨ Pending x a s ∨ Marked x a s
  uncovered : ∀ x, hold = some x → ¬ LatestCovered s.entries → ¬ Heeded s.entries ∧ ¬ Pending x a s

namespace Mindful

variable {hold : Option Hold} {a b : Activity} {s t : Harbour (Chronicle ω σ)} {x : Hold}
  {note : Log.Entry → Act (Chronicle ω σ) Unit}

/-- What the condition depends on. -/
theorem congr (h : Mindful hold a s) (hentries : t.entries = s.entries)
    (hmail : ∀ x, hold = some x → (t.mailbox x.queue).items = (s.mailbox x.queue).items) :
    Mindful hold a t where
  settled := by
    rw [hentries]
    exact h.settled
  fresh := by
    rw [hentries]
    exact h.fresh
  pass := by
    rw [hentries]
    exact h.pass
  texts x hx := by
    rw [hmail x hx]
    exact h.texts x hx
  covered x hx := by
    rw [hentries, Pending, Marked, hmail x hx]
    exact h.covered x hx
  uncovered x hx := by
    rw [hentries, Pending, hmail x hx]
    exact h.uncovered x hx

/-- The marker gets into the mailbox, at the expense of other items. -/
theorem marked (h : Mindful hold a s) (hentries : t.entries = s.entries)
    (hmark : ∀ x, hold = some x → none ∈ (t.mailbox x.queue).items)
    (hfew : ∀ x, hold = some x → ∀ e, some e ∈ (t.mailbox x.queue).items →
      some e ∈ (s.mailbox x.queue).items) : Mindful hold a t where
  settled := by
    rw [hentries]
    exact h.settled
  fresh := by
    rw [hentries]
    exact h.fresh
  pass := by
    rw [hentries]
    exact h.pass
  texts x hx e he := h.texts x hx e (hfew x hx e he)
  covered x hx _ := .inr (.inr (.inr (hmark x hx)))
  uncovered x hx hn := by
    rw [hentries] at hn ⊢
    obtain ⟨hheeded, hpending⟩ := h.uncovered x hx hn
    refine ⟨hheeded, ?_⟩
    rintro (ha | ⟨e, he, hl⟩)
    · exact hpending (.inl ha)
    · exact hpending (.inr ⟨e, hfew x hx e he, hl⟩)

/-- An event is offered to the watcher's mailbox. -/
theorem offered (h : Mindful (some x) a s) (hsub : x.subscribed = true) {e : Event}
    (htext : e.Textual) (hentries : t.entries = s.entries ++ [.offered x.queue e (s.mailbox x.queue)])
    (hmail : (s.mailbox x.queue).isFull = false ∧
        (t.mailbox x.queue).items = (s.mailbox x.queue).items ++ [some e] ∨
      (s.mailbox x.queue).isFull = true ∧ (t.mailbox x.queue).items = (s.mailbox x.queue).items) :
    Mindful (some x) a t := by
  have hpass : PassDue t.entries ↔ PassDue s.entries := by
    rw [hentries, passDue_concat]
    simp [Entry.isTaking, Entry.isListing]
  have hheeded : Heeded t.entries ↔ e.isLifecycle = false ∧ Heeded s.entries := by
    rw [hentries, heeded_concat]
    simp [Entry.isReading, Entry.isListing, Entry.isConnection]
  have hlatest : LatestCovered t.entries ↔
      (e.isLifecycle = true → Covered s.entries (s.mailbox x.queue)) ∧
        (e.isLifecycle = true ∨ LatestCovered s.entries) := by
    rw [hentries, latestCovered_concat]
    simp [Entry.isReading, Entry.isConnection]
  have hmem (i : Option Event) : i ∈ (s.mailbox x.queue).items → i ∈ (t.mailbox x.queue).items := by
    intro hi
    rcases hmail with ⟨-, hitems⟩ | ⟨-, hitems⟩
    · rw [hitems]
      exact List.mem_append_left _ hi
    · rw [hitems]
      exact hi
  refine { settled := fun hlast => ?_, fresh := ?_, pass := hpass.trans h.pass, texts := ?_,
           covered := ?_, uncovered := ?_ }
  · rw [hentries, List.getLast?_concat] at hlast
    cases hlast
  · intro c hc
    -- no client arrives while the watcher has subscribed
    have := (h.fresh c hc).2.2 x rfl
    simp [hsub] at this
  · rintro _ ⟨⟩ e' he'
    rcases hmail with ⟨-, hitems⟩ | ⟨-, hitems⟩
    · rw [hitems] at he'
      rcases List.mem_append.1 he' with he' | he'
      · exact h.texts x rfl e' he'
      · cases List.mem_singleton.1 he'
        exact htext
    · rw [hitems] at he'
      exact h.texts x rfl e' he'
  · rintro _ ⟨⟩ hl
    obtain ⟨hcov, hl⟩ := hlatest.1 hl
    by_cases he : e.isLifecycle = true
    · -- what covers the event is still there
      refine .inr (.inl ?_)
      rcases hmail with ⟨-, hitems⟩ | ⟨hfull, -⟩
      · exact .inr ⟨e, by simp [hitems], he⟩
      · rcases hcov he with hroom | ⟨e', he', hl'⟩ | hdue
        · simp [hfull] at hroom
        · exact .inr ⟨e', hmem _ he', hl'⟩
        · exact .inl (h.pass.1 hdue).1
    · rcases h.covered x rfl (hl.resolve_left he) with hh | (hdue | ⟨e', he', hl'⟩) | (hend | hmark)
      · exact .inl (hheeded.2 ⟨by simpa using he, hh⟩)
      · exact .inr (.inl (.inl hdue))
      · exact .inr (.inl (.inr ⟨e', hmem _ he', hl'⟩))
      · exact .inr (.inr (.inl hend))
      · exact .inr (.inr (.inr (hmem _ hmark)))
  · rintro _ ⟨⟩ hn
    rw [hlatest] at hn
    by_cases he : e.isLifecycle = true
    · -- nothing covers the event: it is refused, and nothing else will cause a pass
      have hcov : ¬ Covered s.entries (s.mailbox x.queue) := fun hcov => hn ⟨fun _ => hcov, .inl he⟩
      refine ⟨fun hh => by simp [he] at hheeded; exact hheeded hh, ?_⟩
      rcases hmail with ⟨hroom, -⟩ | ⟨-, hitems⟩
      · exact absurd (.inl hroom) hcov
      · rintro (hdue | ⟨e', he', hl'⟩)
        · exact hcov (.inr (.inr (h.pass.2 ⟨hdue, x, rfl, hsub⟩)))
        · rw [hitems] at he'
          exact hcov (.inr (.inl ⟨e', he', hl'⟩))
    · -- another event neither helps nor harms
      have hns : ¬ LatestCovered s.entries := fun hl => hn ⟨fun h => absurd h he, .inr hl⟩
      obtain ⟨hh, hp⟩ := h.uncovered x rfl hns
      refine ⟨fun h => hh (hheeded.1 h).2, ?_⟩
      rintro (hdue | ⟨e', he', hl'⟩)
      · exact hp (.inl hdue)
      · rcases hmail with ⟨-, hitems⟩ | ⟨-, hitems⟩
        · rw [hitems] at he'
          rcases List.mem_append.1 he' with he' | he'
          · exact hp (.inr ⟨e', he', hl'⟩)
          · cases List.mem_singleton.1 he'
            exact he hl'
        · rw [hitems] at he'
          exact hp (.inr ⟨e', he', hl'⟩)

/-- An end that is announced to the watcher's mailbox. -/
theorem lapsed (h : Mindful (some x) a s) (hlt : x.queue < s.mailboxes.length) (stream : StreamId)
    (ht : t.entries = s.entries) (hmail : t.mailboxes = s.mailboxes) :
    Mindful (some x) a (lapsed x.client x.queue stream t) := by
  have hbox : t.mailbox x.queue = s.mailbox x.queue := by
    rw [Surroundings.mailbox, hmail]
    rfl
  have hafter : ((Harbour.lapsed x.client x.queue stream t).mailbox x.queue) =
      ((s.mailbox x.queue).offer none).mailbox := by
    rw [Harbour.lapsed, Surroundings.mailbox_setMailbox, if_pos rfl, hbox]
    show x.queue < t.mailboxes.length
    rwa [hmail]
  refine h.marked ht ?_ ?_
  · rintro _ ⟨⟩
    rw [hafter]
    exact Mailbox.none_mem_offer _
  · rintro _ ⟨⟩ e he
    rw [hafter] at he
    exact Mailbox.mem_of_mem_offer _ he

/-- Nothing comes to the mailbox on a stream to which nobody listens. -/
theorem unheard (hapart : Apart note) (h : Mindful hold a s) {stream : StreamId}
    (ht : Unheard note stream s t) : Mindful hold a t :=
  h.congr (hapart.unheard ht) fun x _ => by rw [ht.mailbox]

/-- Happenings that are told of leave the condition. -/
theorem telling (hnote : Sound note) (hapart : Apart note) (hsole : Sole hold b s)
    (h : Mindful hold a s) (ht : Telling note s t) : Mindful hold a t := by
  cases ht with
  | turned control hx => exact h.congr hx fun _ _ => rfl
  | finished stream reason =>
    rcases hsole.reader_cases stream with hbare | ⟨x, rfl, hr, -, hl, -⟩
    · exact h.unheard hapart (finish_unheard note hbare reason)
    · obtain ⟨y, hy, he⟩ := finishReading_single note stream hl reason
      simp only [finish, hr, he]
      exact h.lapsed (hsole.there x rfl).2 stream (hapart.noted hy) rfl
  | @fed stream message htext =>
    rcases hsole.reader_cases stream with hbare | ⟨x, rfl, hr, hsub, hl, -⟩
    · have hempty : Mindful hold a (s.chronicle []) := h.congr (by simp) fun _ _ => rfl
      rw [offers_of_bare hbare message]
      exact hempty.unheard hapart (feed_unheard (s := s.chronicle []) note hbare message)
    · have hlt := (hsole.there x rfl).2
      have hreceipt := feed_single (s := s.chronicle (s.offers stream message)) message hnote hr hl
      generalize feed (logged note) stream message (s.chronicle (s.offers stream message)) = t
        at hreceipt
      have hoffers {e : Event} (he : Event.ofMessage message = .ok (some e)) :
          s.offers stream message = [.offered x.queue e (s.mailbox x.queue)] := by
        simp [offers, hr, he, hl]
      have hnothing (he : ∀ e, Event.ofMessage message ≠ .ok (some e)) :
          s.offers stream message = [] := by
        rcases hm : Event.ofMessage message with f | _ | e
        · simp [offers, hm]
        · simp [offers, hm]
        · exact absurd hm (he e)
      cases hreceipt with
      | skipped hm =>
        refine h.congr ?_ fun _ _ => rfl
        rw [hnothing fun e he => by simp [hm] at he]
        simp
      | @stored e hm hroom =>
        refine h.offered hsub (htext e hm) ?_ (.inl ⟨hroom, ?_⟩)
        · rw [hoffers hm]
          rfl
        · rw [Surroundings.mailbox_setMailbox (s.chronicle (s.offers stream message)) _ _ _ hlt,
            if_pos rfl]
          rfl
      | @refused e hm hfull y hy =>
        refine h.offered hsub (htext e hm) ?_ (.inr ⟨hfull, rfl⟩)
        show y.entries = _
        rw [hapart.noted hy, hoffers hm]
        rfl
      | @broken hm hsome y hy =>
        -- an event with texts could have been refused, so the message had none
        have hnone : s.offers stream message = [] := by
          refine hnothing fun e he => ?_
          obtain ⟨f, hf⟩ := hm e he
          obtain ⟨entry, hentry⟩ := (htext e he).refusal
          rw [hf] at hentry
          cases hentry
        refine h.lapsed hlt stream ?_ rfl
        show y.entries = _
        rw [hapart.noted hy, hnone]
        exact List.append_nil _

/-- So does any course of them. -/
theorem told (hnote : Sound note) (hapart : Apart note) (hsole : Sole hold b s)
    (h : Mindful hold a s) (ht : Told note s t) : Sole hold b t ∧ Mindful hold a t := by
  induction ht with
  | refl => exact ⟨hsole, h⟩
  | @tail u v _ hstep ih =>
    refine ⟨?_, ih.2.telling hnote hapart ih.1 hstep⟩
    exact ih.1.course hnote (Told.course (.single hstep))

/-! ## Deeds -/

/-- A plain entry, by which nothing was found missing in the mailbox. -/
theorem plain (h : Mindful hold a s) {y : Entry ω} (hy : y.isPlain = true)
    (hnone : y ≠ .deed (.took none)) : Mindful hold a (s.chronicle [y]) := by
  simp only [Entry.isPlain, Bool.and_eq_true, Bool.not_eq_true'] at hy
  obtain ⟨⟨⟨hconn, hread⟩, htake⟩, hlist⟩ := hy
  have hheeded : Heeded (s.chronicle [y]).entries ↔ Heeded s.entries := by
    rw [entries_chronicle, heeded_concat, hconn, hread, hlist]
    simp
  have hlatest : LatestCovered (s.chronicle [y]).entries ↔ LatestCovered s.entries := by
    rw [entries_chronicle, latestCovered_concat, hconn, hread]
    simp only [Bool.false_eq_true, false_or, and_iff_right_iff_imp]
    rintro - q e box rfl he
    simp [Entry.isReading, he] at hread
  have hpass : PassDue (s.chronicle [y]).entries ↔ PassDue s.entries := by
    rw [entries_chronicle, passDue_concat, htake, hlist]
    simp
  refine { settled := fun hlast => ?_, fresh := ?_, pass := hpass.trans h.pass, texts := h.texts,
           covered := ?_, uncovered := ?_ }
  · rw [entries_chronicle, List.getLast?_concat] at hlast
    exact absurd (Option.some.inj hlast) hnone
  · rw [hheeded, hlatest]
    exact h.fresh
  · rw [hheeded, hlatest]
    exact h.covered
  · rw [hheeded, hlatest]
    exact h.uncovered

/-- The activity matters for a client that arrives, for a pass that is due, and after the marker was
taken. -/
theorem during (h : Mindful hold a s) (ha : a ≠ .due) (hb : b ≠ .due) (harrived : ∀ c, b ≠ .arrived c)
    (hended : a ≠ .ended ∨ hold = none) : Mindful hold b s where
  settled := h.settled
  fresh c hc := absurd hc (harrived c)
  pass := by
    rw [h.pass]
    simp [ha, hb]
  texts := h.texts
  covered x hx hl := by
    rcases h.covered x hx hl with hh | (hdue | hp) | (hend | hmark)
    · exact .inl hh
    · exact absurd hdue ha
    · exact .inr (.inl (.inr hp))
    · rcases hended with hne | hnone
      · exact absurd hend hne
      · rw [hnone] at hx
        cases hx
    · exact .inr (.inr (.inr hmark))
  uncovered x hx hn := by
    obtain ⟨hh, hp⟩ := h.uncovered x hx hn
    refine ⟨hh, ?_⟩
    rintro (hdue | hp')
    · exact hb hdue
    · exact hp (.inr hp')

/-- A pass begins. -/
theorem listed (h : Mindful (some x) .due s) (client : ClientId) :
    Mindful (some x) .calm (s.chronicle [.deed (.began (.list client))]) := by
  have hheeded : Heeded (s.chronicle [.deed (.began (.list client))]).entries := by
    rw [entries_chronicle, heeded_concat]
    simp [Entry.isReading, Entry.isListing]
  have hlatest : LatestCovered (s.chronicle [.deed (.began (.list client))]).entries := by
    rw [entries_chronicle, latestCovered_concat]
    refine ⟨by simp, .inr (.inr ?_)⟩
    -- the pass is one that was due, so what was read before was covered
    refine Classical.not_not.1 fun hn => ?_
    exact (h.uncovered x rfl hn).2 (.inl rfl)
  refine { settled := fun _ => iff_of_true hheeded hlatest, fresh := by simp, pass := ?_,
           texts := h.texts, covered := fun _ _ _ => .inl hheeded,
           uncovered := fun _ _ hn => absurd hlatest hn }
  rw [entries_chronicle, passDue_concat]
  simp [Entry.isTaking, Entry.isListing]

/-- A connection was made. -/
theorem connected (h : Mindful hold .calm s) (hfit : Phase.disconnected.Fits hold)
    (client : ClientId) : Mindful hold (.arrived client) (s.chronicle [.deed (.connected client)]) := by
  have hheeded : Heeded (s.chronicle [.deed (.connected client)]).entries := by
    rw [entries_chronicle, heeded_concat]
    simp [Entry.isReading, Entry.isConnection]
  have hlatest : LatestCovered (s.chronicle [.deed (.connected client)]).entries := by
    rw [entries_chronicle, latestCovered_concat]
    simp [Entry.isConnection]
  refine { settled := fun _ => iff_of_true hheeded hlatest,
           fresh := fun _ _ => ⟨hheeded, hlatest, hfit⟩, pass := ?_, texts := h.texts,
           covered := fun _ _ _ => .inl hheeded, uncovered := fun _ _ hn => absurd hlatest hn }
  rw [entries_chronicle, passDue_concat, h.pass]
  simp [Entry.isTaking]

/-- The new client gets a mailbox, which is empty. -/
theorem adopted {client : ClientId} (h : Mindful none (.arrived client) s) (capacity : Nat) :
    Mindful (some { client, queue := s.mailboxes.length }) .due (s.addMailbox { capacity }) := by
  obtain ⟨hheeded, hlatest, -⟩ := h.fresh client rfl
  refine { settled := h.settled, fresh := by simp, pass := ?_, texts := ?_,
           covered := fun _ _ _ => .inl hheeded, uncovered := fun _ _ hn => absurd hlatest hn }
  · show PassDue s.entries ↔ _
    rw [h.pass]
    simp
  · rintro _ ⟨⟩ e he
    rw [Surroundings.mailbox_addMailbox_length] at he
    cases he

/-- The watcher has subscribed. -/
theorem subscribed (h : Mindful (some x) .calm s) : Mindful (some x.listening) .calm s where
  settled := h.settled
  fresh := by simp
  pass := by
    rw [h.pass]
    simp
  texts := by
    rintro _ ⟨⟩
    exact h.texts x rfl
  covered := by
    rintro _ ⟨⟩
    exact h.covered x rfl
  uncovered := by
    rintro _ ⟨⟩
    exact h.uncovered x rfl

/-- The watcher's mailbox is taken off before a client is given up. -/
theorem silenced (h : Mindful (some x) a s) (ha : a ≠ .due) : Mindful (some x.silent) a s where
  settled := h.settled
  fresh c hc := by
    obtain ⟨hheeded, hlatest, -⟩ := h.fresh c hc
    refine ⟨hheeded, hlatest, ?_⟩
    rintro _ ⟨⟩
    rfl
  pass := by
    rw [h.pass]
    simp [ha]
  texts := by
    rintro _ ⟨⟩
    exact h.texts x rfl
  covered := by
    rintro _ ⟨⟩
    exact h.covered x rfl
  uncovered := by
    rintro _ ⟨⟩
    exact h.uncovered x rfl

/-- A connection that is given up. -/
theorem released (h : Mindful (some x) a s) (ha : a ≠ .due) : Mindful none a s where
  settled := h.settled
  fresh c hc := by
    obtain ⟨hheeded, hlatest, -⟩ := h.fresh c hc
    refine ⟨hheeded, hlatest, ?_⟩
    rintro _ ⟨⟩
  pass := by
    rw [h.pass]
    simp [ha]
  texts := by rintro _ ⟨⟩
  covered := by rintro _ ⟨⟩
  uncovered := by rintro _ ⟨⟩

/-! ## Taking -/

/-- Nothing is in the mailbox: then all is settled. -/
theorem idle (h : Mindful (some x) .calm s) (hitems : (s.mailbox x.queue).items = []) :
    Mindful (some x) .calm (s.chronicle [.deed (.took none)]) := by
  have hpending : ¬ Pending x .calm s := by
    rintro (hdue | ⟨e, he, -⟩)
    · cases hdue
    · rw [hitems] at he
      cases he
  have hsettled : Heeded s.entries ↔ LatestCovered s.entries := by
    constructor
    · intro hh
      exact Classical.not_not.1 fun hn => (h.uncovered x rfl hn).1 hh
    · intro hl
      rcases h.covered x rfl hl with hh | hp | (hend | hmark)
      · exact hh
      · exact absurd hp hpending
      · cases hend
      · rw [hitems] at hmark
        cases hmark
  have hheeded : Heeded (s.chronicle [.deed (.took none)]).entries ↔ Heeded s.entries := by
    rw [entries_chronicle, heeded_concat]
    simp [Entry.isReading, Entry.isConnection, Entry.isListing]
  have hlatest : LatestCovered (s.chronicle [.deed (.took none)]).entries ↔
      LatestCovered s.entries := by
    rw [entries_chronicle, latestCovered_concat]
    simp [Entry.isReading, Entry.isConnection]
  refine { settled := fun _ => hheeded.trans (hsettled.trans hlatest.symm), fresh := by simp,
           pass := ?_, texts := h.texts, covered := ?_, uncovered := ?_ }
  · rw [entries_chronicle, passDue_concat, h.pass]
    simp [Entry.isTaking]
  · rw [hheeded, hlatest]
    exact h.covered
  · rw [hheeded, hlatest]
    exact h.uncovered

/-- An item is taken out of the mailbox. -/
theorem took (h : Mindful (some x) .calm s) (hsub : x.subscribed = true)
    (hlt : x.queue < s.mailboxes.length) {i : Option Event} {rest : List (Option Event)}
    (hitems : (s.mailbox x.queue).items = i :: rest) :
    Mindful (some x) (.after (some i)) (chronicle [.deed (.took (some i))]
      (s.setMailbox x.queue { s.mailbox x.queue with items := rest })) := by
  generalize ht : s.setMailbox x.queue { s.mailbox x.queue with items := rest } = t
  have hbox : (t.mailbox x.queue).items = rest := by
    rw [← ht, Surroundings.mailbox_setMailbox _ _ _ _ hlt, if_pos rfl]
  have hentries : entries t = s.entries := by
    rw [← ht]
    rfl
  have hmem (j : Option Event) (hj : j ∈ (t.mailbox x.queue).items) :
      j ∈ (s.mailbox x.queue).items := by
    rw [hbox] at hj
    rw [hitems]
    exact List.mem_cons_of_mem _ hj
  have htexts (e : Event) (he : some e ∈ (t.mailbox x.queue).items) : e.Textual :=
    h.texts x rfl e (hmem _ he)
  cases i with
  | none =>
    have hended : Mindful (some x) .ended t := by
      refine { settled := hentries ▸ h.settled, fresh := by simp, pass := ?_, texts := ?_,
               covered := fun _ _ _ => .inr (.inr (.inl rfl)), uncovered := ?_ }
      · rw [hentries, h.pass]
        simp
      · rintro _ ⟨⟩
        exact htexts
      · rintro _ ⟨⟩ hn
        rw [hentries] at hn ⊢
        obtain ⟨hh, hp⟩ := h.uncovered x rfl hn
        refine ⟨hh, ?_⟩
        rintro (hdue | ⟨e, he, hl⟩)
        · cases hdue
        · exact hp (.inr ⟨e, hmem _ he, hl⟩)
    exact hended.plain rfl (by simp)
  | some e =>
    obtain ⟨⟨status, hstatus⟩, id, hid⟩ : e.Textual := h.texts x rfl e (by simp [hitems])
    obtain ⟨l, hlook⟩ : ∃ l, e.status.isOneOf Event.lifecycle = .ok l := by
      rw [hstatus]
      exact ⟨_, rfl⟩
    have hlife : e.isLifecycle = l := by simp only [Event.isLifecycle, hlook]
    cases l with
    | false =>
      have hcalm : Mindful (some x) .calm t := by
        refine { settled := hentries ▸ h.settled, fresh := by simp, pass := hentries ▸ h.pass,
                 texts := ?_, covered := ?_, uncovered := ?_ }
        · rintro _ ⟨⟩
          exact htexts
        · rintro _ ⟨⟩ hl
          rw [hentries] at hl ⊢
          -- the item that is taken is neither an event of the lifecycle nor the marker
          rcases h.covered x rfl hl with hh | (hdue | ⟨e', he', hl'⟩) | (hend | hmark)
          · exact .inl hh
          · cases hdue
          · rw [hitems] at he'
            rcases List.mem_cons.1 he' with heq | hrest
            · cases heq
              simp [hlife] at hl'
            · exact .inr (.inl (.inr ⟨e', hbox ▸ hrest, hl'⟩))
          · cases hend
          · rw [hitems] at hmark
            rcases List.mem_cons.1 hmark with heq | hrest
            · cases heq
            · exact .inr (.inr (.inr (hbox ▸ hrest)))
        · rintro _ ⟨⟩ hn
          rw [hentries] at hn ⊢
          obtain ⟨hh, hp⟩ := h.uncovered x rfl hn
          refine ⟨hh, ?_⟩
          rintro (hdue | ⟨e', he', hl'⟩)
          · cases hdue
          · exact hp (.inr ⟨e', hmem _ he', hl'⟩)
      rw [Activity.after_of_other hlook]
      exact hcalm.plain (by simp [Entry.isPlain, Entry.isConnection, Entry.isReading, Entry.isTaking,
        Entry.isListing, hlife]) (by simp)
    | true =>
      -- its pass is due from now on, and what covered the latest event is not needed any more
      have hshort : e.containerId.short = .ok (e.containerId.short.toOption.getD .null) := by
        rw [hid]
        rfl
      rw [Activity.after_of_lifecycle hlook hshort]
      have hlatest : LatestCovered s.entries := by
        refine Classical.not_not.1 fun hn => (h.uncovered x rfl hn).2 (.inr ⟨e, ?_, hlife⟩)
        simp [hitems]
      have hlatest' : LatestCovered (chronicle [.deed (.took (some (some e)))] t).entries := by
        rw [entries_chronicle, latestCovered_concat, hentries]
        exact ⟨by simp, .inr (.inr hlatest)⟩
      refine { settled := fun hlast => ?_, fresh := by simp, pass := ?_, texts := ?_,
               covered := fun _ _ _ => .inr (.inl (.inl rfl)),
               uncovered := fun _ _ hn => absurd hlatest' hn }
      · rw [entries_chronicle, List.getLast?_concat] at hlast
        cases hlast
      · rw [entries_chronicle, passDue_concat]
        simp [Entry.isTaking, hlife, hsub]
      · rintro _ ⟨⟩
        exact htexts

/-! ## The watcher's transitions -/

section

variable {k : Shore (Chronicle ω σ)}

/-- Happenings and plain entries leave the condition. -/
theorem steady (ho : k.Orderly (Told k.note)) (hapart : Apart k.note) :
    Steady (Told k.note) (Passes Entry.isPlain) hold b (Mindful hold a) where
  moved _ _ hsole h ht := h.told ho.sound hapart hsole ht
  told _ _ hy h := h.plain hy.1 hy.2

/-- Without a pass that is due, the condition does not depend on the subscription. -/
theorem silenced_loosens (ha : a ≠ .due) :
    Loosens (Mindful (ω := ω) (σ := σ) (some x) a) (Mindful (some x.silent) a) := by
  intro s t hmail hentries h
  refine (h.silenced ha).congr hentries fun y _ => ?_
  rw [Surroundings.mailbox, hmail]
  rfl

/-- Nor does it depend on a connection that is given up. -/
theorem released_loosens (ha : a ≠ .due) :
    Loosens (Mindful (ω := ω) (σ := σ) (some x) a) (Mindful none a) := by
  intro s t _ hentries h
  refine (h.released ha).congr hentries ?_
  rintro _ ⟨⟩

/-- The condition is about the mailboxes and what is told. -/
theorem loosens : Loosens (Mindful (ω := ω) (σ := σ) hold a) (Mindful hold a) := by
  intro s t hmail hentries h
  refine h.congr hentries fun y _ => ?_
  rw [Surroundings.mailbox, hmail]
  rfl

/-- While every offer is told of, the chronicle tells whether a pass has followed. -/
def beside (ho : k.Orderly (Told k.note)) (hapart : Apart k.note)
    (c : WatchConfig) : (soleOutline ho (fun _ _ h => Told.course h) c).Beside where
  more := Mindful
  report hold a e _ := ((steady ho hapart).recorded_safe (ho.report e)
    (.of_done rfl rfl fun _ => rfl)).post (fun _ _ hs => hs.2) fun _ _ he => he
  alarm hold f := ((steady ho hapart).recorded_safe (ho.report _)
    (.of_done rfl rfl fun _ => rfl)).post
    (fun _ _ hs => hs.2.during (by simp) (by simp) (by simp) (by simp)) fun _ _ he => he
  sleep hold := ((steady ho hapart).recorded_safe (ho.sleep _)
    (.of_done rfl rfl fun _ => rfl)).post
    (fun _ _ hs => hs.2.during (by simp) (by simp) (by simp) (by simp)) fun _ _ he => he
  connect hold hfit := by
    apply (steady ho hapart).connected ho loosens ⟨rfl, by simp⟩
    · exact fun client s hs => hs.connected hfit client
    · intro f s hs
      exact (hs.plain rfl (by simp)).during (by simp) (by simp) (by simp) (by simp)
  remove x a ha hx := by
    have hdue : a ≠ .due := by
      rintro rfl
      cases ha
    exact (steady ho hapart).removed (steady ho hapart) ho hx (silenced_loosens hdue) loosens
      (.of_done rfl rfl fun _ => rfl)
  close x a ha hx := by
    have hdue : a ≠ .due := by
      rintro rfl
      cases ha
    exact (steady ho hapart).closed (steady ho hapart) ho hx (released_loosens hdue)
      (.of_done rfl rfl fun _ => rfl) ⟨rfl, by simp⟩
  settle s _ hs := hs.during (by simp) (by simp) (by simp) (by simp)
  adopt client := fun s hs => hs.2.adopted c.queueSize
  survey x := by
    refine (Host.enumerate_keeps
      (Q := fun s => Sole (some x) .due s ∧ Mindful (some x) .calm s) ?_ ?_ ?_ _ _).post
      (fun _ _ hs => hs.2.during (by simp) (by simp) (by simp) (by simp))
      fun _ _ hs => ⟨hs.1, hs.2.2⟩
    · have kept : Keeps (fun s => Sole (some x) .due s ∧ Mindful (some x) .calm s)
          (k.daemon.listRunning x.client) :=
        Daemon.listRunning_keeps ((steady ho hapart).keeps (ho.containers _))
      show Spec _ ((k.daemon.listRunning x.client).noted (fun d => chronicle [.deed d])
        (.list x.client) fun _ => .done (.list x.client)) _ _
      -- the pass begins before the daemon is asked, and it heeds whatever was read until then
      apply kept.noted
      · intro s hs
        exact ⟨hs.1.turn _ _, hs.2.listed x.client⟩
      · intro v s hs
        exact ⟨hs.1.turn _ _, hs.2.plain rfl (by simp)⟩
      · intro f s hs
        exact ⟨hs.1, hs.2.1.turn _ _, hs.2.2.plain rfl (by simp)⟩
    · intro id
      have kept : Keeps (fun s => Sole (some x) .due s ∧ Mindful (some x) .calm s)
          (k.daemon.inspectContainer x.client id) :=
        Daemon.inspectContainer_keeps ((steady ho hapart).keeps (ho.inspect _ id))
      exact (steady ho hapart).recorded kept (.of_done rfl rfl fun _ => rfl)
    · intro e
      exact (steady ho hapart).recorded_safe (ho.report e) (.of_done rfl rfl fun _ => rfl)
  publish x t := by
    have kept : Keeps (fun s => Sole (some x) (.bringing t) s ∧ Mindful (some x) .calm s)
        (k.publish t) := (steady ho hapart).keeps (ho.publish t)
    refine ((steady ho hapart).recorded kept (.of_done rfl rfl fun _ => rfl)).mono ?_
      (fun _ _ hs => hs.2) ?_
    · intro s hs
      exact ⟨hs.1, hs.2.during (by simp) (by simp) (by simp) (by simp)⟩
    · intro f s hs
      exact ⟨hs.1, hs.2.2.during (by simp) (by simp) (by simp) (by simp)⟩
  ping x := ((steady ho hapart).pinged ho (.of_done rfl rfl fun _ => rfl)).post
    (fun _ _ hs => hs.2)
    fun _ _ hs => ⟨hs.1, hs.2.2.during (by simp) (by simp) (by simp) (by simp)⟩
  add x hx _ := by
    have opened : Spec (fun _ => True) (k.daemon.openStream x.client) (fun _ _ => True)
        fun _ _ => True := Spec.intro (fun _ _ _ _ _ => trivial) fun _ _ _ _ _ => trivial
    apply (steady ho hapart).added ho hx loosens opened ⟨rfl, by simp⟩
    · intro s _ hs
      exact (hs.plain rfl (by simp)).subscribed
    · intro f s _ hs
      have hplain := hs.plain (y := .deed (.failed (.addListener x.client x.queue) f)) rfl (by simp)
      cases f with
      | alreadySubscribed _ => exact hplain.subscribed
      | _ => exact hplain.during (by simp) (by simp) (by simp) (by simp)
  take x hx := by
    apply (steady ho hapart).taken _ ⟨rfl, by simp⟩
    · exact fun s hs hitems => hs.idle hitems
    · exact fun s i rest hlt hs hitems => hs.took hx hlt hitems
    · intro f s hs
      exact (hs.plain rfl (by simp)).during (by simp) (by simp) (by simp) (by simp)

end

/-- Before anything is told of, nothing was read. -/
theorem start (s : Harbour (Chronicle ω σ)) (hs : s.entries = []) : Mindful none .calm s where
  settled := by simp [hs]
  fresh := by simp
  pass := by simp [hs, PassDue]
  texts := by rintro _ ⟨⟩
  covered := by rintro _ ⟨⟩
  uncovered := by rintro _ ⟨⟩

end Mindful

/-! ## Whether a pass has followed -/

/-- **When nothing more is in the mailbox, all events of the lifecycle that were read on the
connection have been followed by a pass if and only if the latest of them was covered**: there was
room for it, or an event of the lifecycle was in the mailbox, or one had been taken out whose pass
had not begun. -/
theorem idle_heeded_iff {k : Shore (Chronicle ω σ)} (ho : k.Orderly (Told k.note))
    (hapart : Apart k.note) {c : WatchConfig} {control : Control} {x : σ}
    {m : Machine (Fleet (Chronicle ω σ))}
    (h : Watcher.Reachable k.watched c (Told k.note) (launched control { rest := x }) m)
    (hidle : (entries m.outside).getLast? = some (.deed (.took none))) :
    Heeded (entries m.outside) ↔ LatestCovered (entries m.outside) := by
  let o := (Mindful.beside ho hapart c).outline
  have calm : o.Calm m := by
    refine o.calm_of_reachable (o.calm_of_fresh rfl ⟨Sole.start _ rfl rfl, .start _ rfl⟩) ?_ ?_ h
    · rintro hold s ⟨hsole, hs⟩
      exact ⟨hsole.during (by simp), hs.during (by simp) (by simp) (by simp) (by simp)⟩
    · rintro hold s t ht ⟨hsole, hs⟩
      exact hs.told ho.sound hapart hsole ht
  obtain ⟨phase, hold, -, -, -, hm⟩ := calm
  exact hm.settled hidle

/-- A mailbox for one item, and a second to wait. -/
def tight : WatchConfig where
  ports := ["80"]
  pingInterval := .seconds { bits := 0x3FF0000000000000 }
  reconnectInterval := .missing
  queueSize := 1

/-- A quiet shore, of which a chronicle is kept. -/
def silentShore : Shore (Chronicle Unit Unit) := Shore.quiet _

/-- A transition of the watcher on this shore. -/
def stepped (m : Machine (Fleet (Chronicle Unit Unit))) : Machine (Fleet (Chronicle Unit Unit)) :=
  ((Watcher.step silentShore.watched tight).outcome m).2

/-- A message about a container. -/
def rumour (status : String) : Json := .obj [("status", .str status), ("id", .str "a")]

/-- The message comes in on the first stream. -/
def hear (status : String) (s : Harbour (Chronicle Unit Unit)) : Harbour (Chronicle Unit Unit) :=
  feed (logged silentShore.note) 0 (rumour status) (s.chronicle (s.offers 0 (rumour status)))

/-- While the watcher waits for events, something is done in a container, and another one is started;
then the watcher makes two transitions. -/
def neglectful : Machine (Fleet (Chronicle Unit Unit)) :=
  let m := stepped (stepped (launched {} { rest := () }))
  stepped (stepped { m with outside := hear "start" (hear "exec_create" m.outside) })

/-- The watcher comes to this. -/
theorem neglectful_reachable : Watcher.Reachable silentShore.watched tight (Told silentShore.note)
    (launched {} { rest := () }) neglectful := by
  have textual (status : String)
      (hread : Event.ofMessage (rumour status) = .ok (some ⟨.str status, .str "a"⟩)) (e : Event)
      (he : Event.ofMessage (rumour status) = .ok (some e)) : e.Textual := by
    rw [hread] at he
    cases he
    exact ⟨⟨_, rfl⟩, _, rfl⟩
  refine .step (.step (.meanwhile (.step (.step .start)) ?_))
  refine (Relation.ReflTransGen.single (.fed _ 0 ?_)).tail (.fed _ 0 ?_)
  · exact textual "start" rfl
  · exact textual "exec_create" rfl

/-- Nothing more is in the mailbox at the end. -/
theorem neglectful_idle :
    (entries neglectful.outside).getLast? = some (.deed (.took none)) := by
  have hlast : (entries neglectful.outside).getLast?.any Entry.isIdle = true := by decide +kernel
  obtain ⟨x, hx, hidle⟩ := (Option.any_eq_true _ _).1 hlast
  rw [hx, Entry.eq_of_isIdle hidle]

/-- A quiet shore is orderly, and its log writes nothing. -/
theorem silentShore_orderly : silentShore.Orderly (Told silentShore.note) :=
  Shore.quiet_orderly fun _ => .refl

/-- What is said of the neglectful watcher. -/
theorem idle_heeded_iff_neglectful : silentShore.Orderly (Told silentShore.note) ∧
    Apart silentShore.note ∧
    Watcher.Reachable silentShore.watched tight (Told silentShore.note)
      (launched {} { rest := () }) neglectful ∧
    (entries neglectful.outside).getLast? = some (.deed (.took none)) ∧
    (Heeded (entries neglectful.outside) ↔ LatestCovered (entries neglectful.outside)) :=
  ⟨silentShore_orderly, fun _ _ => rfl, neglectful_reachable, neglectful_idle,
    idle_heeded_iff silentShore_orderly (fun _ _ => rfl) neglectful_reachable neglectful_idle⟩

/-- **An event that was refused may never be followed by a pass**: the mailbox was full, but of
nothing that causes one. -/
theorem refused_start_unheeded : silentShore.Orderly (Told silentShore.note) ∧
    Apart silentShore.note ∧
    Watcher.Reachable silentShore.watched tight (Told silentShore.note)
      (launched {} { rest := () }) neglectful ∧
    (entries neglectful.outside).getLast? = some (.deed (.took none)) ∧
    ¬ Heeded (entries neglectful.outside) := by
  refine ⟨silentShore_orderly, fun _ _ => rfl, neglectful_reachable, neglectful_idle, fun h => ?_⟩
  generalize hes : entries neglectful.outside = es at h
  -- the event that was refused is the eighteenth entry
  have hread : (es.drop 17).head?.any Entry.isReading = true := by
    rw [← hes]
    decide +kernel
  have hafter : (es.drop 18).all (fun y => !y.isConnection && !y.isListing) = true := by
    rw [← hes]
    decide +kernel
  obtain ⟨x, hx, hxr⟩ := (Option.any_eq_true _ _).1 hread
  obtain ⟨rest, hrest⟩ := List.head?_eq_some_iff.1 hx
  have htail : es.drop 18 = rest := by
    rw [show 18 = 17 + 1 from rfl, ← List.drop_drop, hrest]
    rfl
  rw [htail, List.all_eq_true] at hafter
  have hpart : es = es.take 17 ++ x :: rest := by
    rw [← hrest, List.take_append_drop]
  obtain ⟨y, hy, hyl⟩ := h _ x rest hpart hxr fun y hy => by
    have := hafter y hy
    simp only [Bool.and_eq_true, Bool.not_eq_true'] at this
    exact this.1
  have := hafter y hy
  simp [hyl] at this

end Harbour

end HostRouting
