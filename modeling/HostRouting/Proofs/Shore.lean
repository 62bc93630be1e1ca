import HostRouting.Proofs.Harbour
import HostRouting.Watcher

/-!
# What stands around a harbour

The daemon, the consumer and the log may do many things while a call lasts: messages come in,
streams end, and what is nobody's business changes. A call is orderly if it does nothing but that.
-/

namespace HostRouting

open Act (Spec Keeps failing never)

/-! ## Moving -/

/-- Whatever becomes of the act, it moves the state as `R` says, and only ordinary failures stop
it. -/
def Act.Along {σ α : Type} (R : σ → σ → Prop) (act : Act σ α) : Prop :=
  ∀ s, Spec (· = s) act (fun _ t => R s t) (failing fun _ t => R s t)

/-- The act moves the state as `R` says and does not stop. -/
def Act.Safely {σ α : Type} (R : σ → σ → Prop) (act : Act σ α) : Prop :=
  ∀ s, Spec (· = s) act (fun _ t => R s t) never

namespace Act

variable {σ α : Type} {R : σ → σ → Prop} {P : σ → Prop} {act : Act σ α}

/-- What survives the moves is kept. -/
theorem Along.keeps (h : act.Along R) (hP : ∀ s t, R s t → P s → P t) : Keeps P act :=
  fun s hs => ((h s).post (fun _ t ht => hP s t ht hs) fun _ t ht => ⟨ht.1, hP s t ht.2 hs⟩) s rfl

/-- What survives the moves is there afterwards. -/
theorem Safely.spec (h : act.Safely R) (hP : ∀ s t, R s t → P s → P t) :
    Spec P act (fun _ => P) never :=
  fun s hs => ((h s).post (fun _ t ht => hP s t ht hs) fun _ _ he => he) s rfl

end Act

/-! ## Happenings -/

/-- The clients' daemon, the making of a connection, the waits, the consumer, and a log that is kept
apart. -/
structure Shore (σ : Type) where
  daemon : Daemon (Harbour σ)
  dial : Act (Harbour σ) Unit
  sleep : Interval → Act (Harbour σ) Unit
  publish : Table → Act (Harbour σ) Unit
  note : Log.Entry → Act σ Unit

/-- The host on a shore. -/
def Shore.host {σ : Type} (k : Shore σ) : Host (Fleet σ) :=
  Harbour.host k.daemon k.dial k.sleep k.publish (Harbour.logged k.note)

namespace Harbour

variable {σ : Type}

/-- What happens in a harbour by itself: a message comes in on a stream, a stream ends or breaks, or
the control and the rest change as `may` allows. -/
inductive Happening (note : Log.Entry → Act σ Unit) (may : σ → σ → Prop) :
    Harbour σ → Harbour σ → Prop where
  | fed (s : Harbour σ) (stream : StreamId) (message : Json) :
      Happening note may s (feed (logged note) stream message s)
  | finished (s : Harbour σ) (stream : StreamId) (reason : Option Fault) :
      Happening note may s (finish (logged note) stream reason s)
  | turned (s : Harbour σ) (control : Control) {x : σ} (h : may s.rest.rest x) :
      Happening note may s (s.turn control x)

/-- Opening a stream does not fail for the reason that a listener is registered already; the daemon
does not know of listeners. -/
def Unaware (d : Daemon (Harbour σ)) : Prop :=
  ∀ c, Spec (fun _ => True) (d.openStream c) (fun _ _ => True) fun f _ =>
    ∀ u, f ≠ .alreadySubscribed u

end Harbour

/-- The calls on a shore move the harbour as `R` says and fail in ordinary ways only; the waits and
the log do not fail. -/
structure Shore.Orderly {σ : Type} (k : Shore σ) (R : Harbour σ → Harbour σ → Prop) : Prop where
  containers : ∀ c, (k.daemon.containers c).Along R
  inspect : ∀ c id, (k.daemon.inspect c id).Along R
  ping : ∀ c, (k.daemon.ping c).Along R
  openStream : ∀ c, (k.daemon.openStream c).Along R
  closeStream : ∀ c stream, (k.daemon.closeStream c stream).Along R
  close : ∀ c, (k.daemon.close c).Along R
  dial : k.dial.Along R
  publish : ∀ t, (k.publish t).Along R
  sleep : ∀ t, (k.sleep t).Safely R
  report : ∀ e, (Harbour.logged k.note e).Safely R

namespace Act

variable {σ α : Type} {R : σ → σ → Prop}

/-- A value moves nothing. -/
theorem Along.pure (hR : ∀ s, R s s) (a : α) : (Pure.pure a : Act σ α).Along R :=
  fun s => Spec.pure fun _ ht => ht ▸ hR s

/-- A failure moves nothing. -/
theorem Along.fail (hR : ∀ s, R s s) {f : Fault} (hf : f.isFailure = true) :
    (Act.fail f : Act σ α).Along R :=
  fun s => Spec.fail fun _ ht => ⟨hf, ht ▸ hR s⟩

/-- A change. -/
theorem Along.update {f : σ → σ} (hR : ∀ s, R s (f s)) : (Act.update f).Along R :=
  fun s => Spec.update fun _ ht => ht ▸ hR s

end Act

/-- A watcher that has not begun, and no client yet. -/
def Harbour.launched {σ : Type} (control : Control) (x : σ) : Machine (Fleet σ) where
  outside := { control, rest := { rest := x } }

/-- A shore where the daemon runs no containers and answers every call, and where nothing happens. -/
def Shore.quiet (σ : Type) : Shore σ where
  daemon :=
    { containers := fun _ => pure []
      inspect := fun _ _ => Act.fail .pingRefused
      ping := fun _ => pure (.bool true)
      openStream := fun _ => pure ()
      closeStream := fun _ _ => pure ()
      close := fun _ => pure () }
  dial := pure ()
  sleep _ := pure ()
  publish _ := pure ()
  note _ := pure ()

/-- A quiet shore is orderly. -/
theorem Shore.quiet_orderly {σ : Type} {R : Harbour σ → Harbour σ → Prop} (hR : ∀ s, R s s) :
    (Shore.quiet σ).Orderly R where
  containers _ := .pure hR _
  inspect _ _ := .fail hR rfl
  ping _ := .pure hR _
  openStream _ := .pure hR _
  closeStream _ _ := .pure hR _
  close _ := .pure hR _
  dial := .pure hR _
  publish _ := .pure hR _
  sleep _ := fun s => Spec.pure fun _ ht => ht ▸ hR s
  report _ := fun s _ ht => ht ▸ hR s

namespace Shore.Orderly

variable {σ : Type} {k : Shore σ} {R : Harbour σ → Harbour σ → Prop}

/-- The log of an orderly shore never fails. -/
theorem sound (h : k.Orderly R) : Harbour.Sound k.note := by
  intro e x
  have := h.report e { rest := { rest := x } } _ rfl
  match ho : (k.note e).outcome x with
  | (.ok (), y) => rfl
  | (.error f, y) =>
    simp only [Harbour.logged, Harbour.aside, Act.outcome_within, ho] at this
    exact this.elim

end Shore.Orderly

namespace Harbour

variable {σ : Type} {s t : Harbour σ}

/-- The clients, the streams and the mailboxes are as many as before. -/
structure SameSize (s t : Harbour σ) : Prop where
  hubs : t.rest.hubs.length = s.rest.hubs.length
  streams : t.rest.streams.length = s.rest.streams.length
  mailboxes : t.mailboxes.length = s.mailboxes.length

theorem SameSize.refl (s : Harbour σ) : SameSize s s := ⟨rfl, rfl, rfl⟩

theorem SameSize.trans {u : Harbour σ} (h : SameSize s t) (h' : SameSize t u) : SameSize s u :=
  ⟨h'.hubs.trans h.hubs, h'.streams.trans h.streams, h'.mailboxes.trans h.mailboxes⟩

theorem Posted.sameSize {note : Log.Entry → Act σ Unit} (h : Posted note s t) : SameSize s t :=
  ⟨congrArg _ h.hubs, congrArg _ h.streams, h.length⟩

/-- The end of the reading changes no number. -/
theorem finishReading_sameSize (s : Harbour σ) (note : Log.Entry → Act σ Unit) (c : ClientId)
    (stream : StreamId) (reason : Option Fault) :
    SameSize s (finishReading (logged note) c stream reason s) := by
  obtain ⟨t, ht, he⟩ := finishReading_eq s c stream note reason
  rw [he]
  refine (ht.sameSize.trans ?_).trans (announceEnd_posted _ c note).sameSize
  exact ⟨by simp, by simp, rfl⟩

/-- No happening makes a client, a stream or a mailbox. -/
theorem Happening.sameSize {note : Log.Entry → Act σ Unit} {may : σ → σ → Prop}
    (h : Happening note may s t) : SameSize s t := by
  cases h with
  | turned control hx => exact ⟨rfl, rfl, rfl⟩
  | fed stream message =>
    cases hr : s.reader? stream with
    | none =>
      simp only [feed, hr]
      exact .refl s
    | some c =>
      rcases feed_cases s c stream note message hr with ht | ⟨f, u, hu, ht⟩
      · exact ht.sameSize
      · rw [ht]
        exact hu.sameSize.trans (finishReading_sameSize u note c stream _)
  | finished stream reason =>
    cases hr : s.reader? stream with
    | none =>
      simp only [finish, hr]
      exact .refl s
    | some c =>
      simp only [finish, hr]
      exact finishReading_sameSize s note c stream reason

end Harbour

/-! ## Calls through a client -/

namespace Daemon

variable {τ : Type} {d : Daemon τ} {P : τ → Prop} {c : ClientId}

theorem listRunning_keeps (h : Keeps P (d.containers c)) : Keeps P (d.listRunning c) :=
  Keeps.bind h fun _ => Keeps.mapM _ fun _ _ => Keeps.ofExcept (Json.required_ordinary _ _)

theorem inspectContainer_keeps {id : Json} (h : Keeps P (d.inspect c id)) :
    Keeps P (d.inspectContainer c id) :=
  Keeps.bind h fun _ => Keeps.ofExcept (Container.ofInspection_ordinary _)

theorem checkAlive_keeps (h : Keeps P (d.ping c)) : Keeps P (d.checkAlive c) := by
  refine Keeps.bind h fun answer => ?_
  split
  · exact Keeps.pure _
  · exact Spec.fail fun _ hs => ⟨rfl, hs⟩

end Daemon

namespace Harbour

variable {σ : Type}

/-- A new client gets the next number. -/
theorem connect_spec {dial : Act (Harbour σ) Unit} {P : Harbour σ → Prop} (h : Keeps P dial) :
    Spec P (connect dial) (fun c s => ∃ t, P t ∧ c = t.rest.hubs.length ∧ s = t.addClient)
      (failing fun _ => P) := by
  refine Spec.bind h fun _ => ?_
  refine Spec.bind (R := fun t s => P t ∧ t = s) (Spec.read fun s hs => ⟨hs, rfl⟩) fun t => ?_
  refine Spec.bind (R := fun _ s => P t ∧ s = t.addClient) ?_ fun _ => ?_
  · exact Spec.update fun s hs => ⟨hs.1, by rw [← hs.2]⟩
  · exact Spec.pure fun s hs => ⟨t, hs.1, rfl, hs.2⟩

/-- One more listener. -/
def enroll (c : ClientId) (q : QueueId) : Harbour σ → Harbour σ :=
  changeHub c fun hub => { hub with listeners := hub.listeners ++ [q] }

/-- A listener less. -/
def withdraw (c : ClientId) (q : QueueId) : Harbour σ → Harbour σ :=
  changeHub c fun hub => { hub with listeners := hub.listeners.filter (· ≠ q) }

/-- The hubs after a listener was registered. -/
theorem hub_enroll (s : Harbour σ) (b : ClientId) {c : ClientId} (q : QueueId)
    (hc : c < s.rest.hubs.length) : (enroll c q s).hub b =
      if b = c then ⟨(s.hub c).listeners ++ [q], (s.hub c).stream?⟩ else s.hub b :=
  hub_changeHub s b c _ hc

/-- The hubs after a listener was taken off. -/
theorem hub_withdraw (s : Harbour σ) (b : ClientId) {c : ClientId} (q : QueueId)
    (hc : c < s.rest.hubs.length) : (withdraw c q s).hub b =
      if b = c then ⟨(s.hub c).listeners.filter (· ≠ q), (s.hub c).stream?⟩ else s.hub b :=
  hub_changeHub s b c _ hc

/-- The client holds no stream any more. -/
def release (c : ClientId) : Harbour σ → Harbour σ :=
  changeHub c fun hub => { hub with stream? := none }

/-- The hubs after a client has let go of its stream. -/
theorem hub_release (s : Harbour σ) (b : ClientId) {c : ClientId} (hc : c < s.rest.hubs.length) :
    (release c s).hub b = if b = c then ⟨(s.hub c).listeners, none⟩ else s.hub b :=
  hub_changeHub s b c _ hc

@[simp] theorem length_hubs_enroll (s : Harbour σ) (c : ClientId) (q : QueueId) :
    (enroll c q s).rest.hubs.length = s.rest.hubs.length := List.length_set

@[simp] theorem length_hubs_withdraw (s : Harbour σ) (c : ClientId) (q : QueueId) :
    (withdraw c q s).rest.hubs.length = s.rest.hubs.length := List.length_set

@[simp] theorem length_hubs_release (s : Harbour σ) (c : ClientId) :
    (release c s).rest.hubs.length = s.rest.hubs.length := List.length_set

section

variable {d : Daemon (Harbour σ)} {c : ClientId} {q : QueueId} {P S : Harbour σ → Prop}
  {Q : Unit → Harbour σ → Prop} {E : Fault → Harbour σ → Prop}

/-- A listener is registered once, and a stream is opened for it unless one is held. -/
theorem addListener_spec
    (hmem : ∀ s, P s → q ∈ (s.hub c).listeners → E (.alreadySubscribed "") s)
    (hopen : Spec (fun s => P s ∧ q ∉ (s.hub c).listeners ∧ (s.hub c).stream? = none)
      (d.openStream c) (fun _ => S) E)
    (hnew : ∀ s, S s → Q () (enroll c q (s.beginReading c)))
    (hheld : ∀ s, P s → q ∉ (s.hub c).listeners → (s.hub c).stream? ≠ none → Q () (enroll c q s)) :
    Spec P (addListener d c q) Q E := by
  unfold addListener
  refine Spec.bind (R := fun t s => t = s ∧ P s) (Spec.read fun s hs => ⟨rfl, hs⟩) fun t => ?_
  split
  · rename_i hq
    refine Spec.bind (R := fun _ _ => False) (Spec.fail ?_) fun _ s hs => hs.elim
    rintro s ⟨rfl, hs⟩
    exact hmem t hs hq
  · rename_i hq
    refine Spec.bind (R := fun u s => u = s ∧ P s ∧ q ∉ (s.hub c).listeners) (Spec.read ?_) fun u => ?_
    · rintro s ⟨rfl, hs⟩
      exact ⟨rfl, hs, hq⟩
    · dsimp only
      split
      · rename_i hnone
        refine Spec.bind (R := fun _ => S) (hopen.pre ?_) fun _ => ?_
        · rintro s ⟨rfl, hs⟩
          exact ⟨hs.1, hs.2, hnone⟩
        · refine Spec.bind (R := fun _ s => ∃ t, S t ∧ s = t.beginReading c) ?_ fun _ => ?_
          · exact Spec.update fun s hs => ⟨s, hs, rfl⟩
          · refine Spec.update ?_
            rintro _ ⟨s, hs, rfl⟩
            exact hnew s hs
      · rename_i hsome
        refine Spec.update ?_
        rintro s ⟨rfl, hs, hq⟩
        exact hheld u hs hq hsome

/-- A stream is not read any more once it is closed. -/
theorem closeStream_spec {stream : StreamId}
    (hclose : Spec P (d.closeStream c stream) (fun _ => S) E)
    (hover : ∀ s, S s → Q () (s.endReading stream)) : Spec P (closeStream d c stream) Q E := by
  refine Spec.bind hclose fun _ => ?_
  exact Spec.update hover

/-- A listener is taken off, and the stream is closed after the last one. The client has let go of
the stream by then, also if closing it fails. -/
theorem removeListener_spec {S T : StreamId → Harbour σ → Prop}
    (hkeep : ∀ s, P s → (∀ stream, (withdraw c q s).hub c ≠ ⟨[], some stream⟩) → Q () (withdraw c q s))
    (hlast : ∀ s stream, P s → (withdraw c q s).hub c = ⟨[], some stream⟩ →
      S stream (release c (withdraw c q s)))
    (hclose : ∀ stream, Spec (S stream) (d.closeStream c stream) (fun _ => T stream) E)
    (hover : ∀ stream s, T stream s → Q () (s.endReading stream)) :
    Spec P (removeListener d c q) Q E := by
  unfold removeListener
  refine Spec.bind (R := fun _ s => ∃ t, P t ∧ s = withdraw c q t) ?_ fun _ => ?_
  · exact Spec.update fun s hs => ⟨s, hs, rfl⟩
  · refine Spec.bind (R := fun u s => u = s ∧ ∃ t, P t ∧ s = withdraw c q t)
      (Spec.read fun s hs => ⟨rfl, hs⟩) fun u => ?_
    split
    · rename_i stream heq
      refine Spec.bind (R := fun _ => S stream) (Spec.update ?_) fun _ =>
        closeStream_spec (hclose stream) (hover stream)
      rintro _ ⟨rfl, t, ht, rfl⟩
      exact hlast t stream ht heq
    · rename_i hne
      refine Spec.pure ?_
      rintro _ ⟨rfl, t, ht, rfl⟩
      exact hkeep t ht hne

/-- The client of an emptied hub gives up its connection, unless closing its stream fails. -/
theorem closeClient_spec {T : StreamId → Harbour σ → Prop}
    (hnone : ∀ s, P s → (s.hub c).stream? = none → S (s.changeHub c fun _ => {}))
    (hsome : ∀ stream, Spec (fun s => ∃ t, P t ∧ (t.hub c).stream? = some stream ∧
      s = t.changeHub c fun _ => {}) (d.closeStream c stream) (fun _ => T stream) E)
    (hover : ∀ stream s, T stream s → S (s.endReading stream))
    (hclose : Spec S (d.close c) Q E) : Spec P (closeClient d c) Q E := by
  unfold closeClient
  refine Spec.bind (R := fun u s => u = s ∧ P s) (Spec.read fun s hs => ⟨rfl, hs⟩) fun u => ?_
  refine Spec.bind (R := fun _ s => P u ∧ s = u.changeHub c fun _ => {}) (Spec.update ?_) fun _ => ?_
  · rintro s ⟨rfl, hs⟩
    exact ⟨hs, rfl⟩
  · refine Spec.of_fact fun hu => ?_
    cases hst : (u.hub c).stream? with
    | none =>
      refine hclose.pre ?_
      rintro s rfl
      exact hnone u hu hst
    | some stream =>
      refine Spec.bind (R := fun _ => S) ?_ fun _ => hclose
      refine closeStream_spec ((hsome stream).pre ?_) (hover stream)
      rintro s rfl
      exact ⟨u, hu, hst, rfl⟩

end

end Harbour

end HostRouting
