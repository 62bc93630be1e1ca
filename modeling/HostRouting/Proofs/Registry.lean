import HostRouting.Proofs.Audience

/-!
# A client, its listeners and its stream

What is done with a client of a fleet, and what comes in on its streams, one after the other and in
any order. The daemon may refuse to open a stream, to close one and to give up the connection. The
client holds a stream only while somebody listens, it reads the stream that it holds and, beside it,
only streams that could not be closed, and whoever has subscribed hears of the end.
-/

namespace HostRouting

open Act (Spec)

/-! ## Errands -/

/-- A call of a client to the daemon. -/
inductive Errand where
  /-- A stream is opened, while the client holds this one. -/
  | opened (client : ClientId) (held : Option StreamId)
  /-- A stream is to be closed, and whether that was done. -/
  | closed (client : ClientId) (stream : StreamId) (done : Bool)
  /-- The connection is given up. -/
  | hungUp (client : ClientId)
  deriving DecidableEq

/-- What there is beside the clients: the errands that were run, the event log, and the state of the
daemon. -/
structure Quay (σ : Type) where
  errands : List Errand := []
  log : EventLog := {}
  rest : σ

/-- An entry is recorded in the event log. -/
def Quay.record {σ : Type} (now : String) (e : Log.Entry) : Act (Quay σ) Unit :=
  .ofOutcome fun x =>
    let r := EventLog.record now e x.log
    (r.outcome, { x with log := r.log })

namespace Harbour

variable {σ : Type}

/-- The errands that were run. -/
def errands (s : Harbour (Quay σ)) : List Errand := s.rest.rest.errands

/-- One more errand was run, after which the daemon is in the given state. -/
def ran (e : Errand) (x : σ) (s : Harbour (Quay σ)) : Harbour (Quay σ) :=
  s.turn s.control { s.rest.rest with errands := s.errands ++ [e], rest := x }

/-- The client was to close the stream, and the daemon failed at that. -/
def Jammed (c : ClientId) (i : StreamId) (s : Harbour (Quay σ)) : Prop :=
  .closed c i false ∈ s.errands

instance {c : ClientId} {i : StreamId} {s : Harbour (Quay σ)} : Decidable (Jammed c i s) :=
  inferInstanceAs (Decidable (_ ∈ _))

/-- The client that opened a stream. -/
def opener? (s : Harbour (Quay σ)) (stream : StreamId) : Option ClientId :=
  s.rest.streams[stream]?.map Stream.client

/-- An act of the daemon, which knows nothing of the harbour, as an errand. -/
def errand {α : Type} (e : Harbour (Quay σ) → Except Fault α → Errand) (act : Act σ α) :
    Act (Harbour (Quay σ)) α :=
  .ofOutcome fun s =>
    let (r, x) := act.outcome s.rest.rest.rest
    (r, s.ran (e s r) x)

/-- An act of the daemon that is no errand. -/
def beneath {α : Type} (act : Act σ α) : Act (Harbour (Quay σ)) α :=
  aside (act.within Quay.rest fun x quay => { quay with rest := x })

/-- The daemon to which clients run errands. -/
def errandly (d : Daemon σ) : Daemon (Harbour (Quay σ)) where
  containers c := beneath (d.containers c)
  inspect c id := beneath (d.inspect c id)
  ping c := beneath (d.ping c)
  openStream c := errand (fun s _ => .opened c (s.hub c).stream?) (d.openStream c)
  closeStream c stream := errand (fun _ r => .closed c stream r.isOk) (d.closeStream c stream)
  close c := errand (fun _ _ => .hungUp c) (d.close c)

/-- What the reader of a stream reports goes to the event log. -/
def report (now : String) : Log.Entry → Act (Harbour (Quay σ)) Unit := logged (Quay.record now)

theorem report_quiet (now : String) : Quiet (report now : Log.Entry → Act (Harbour (Quay σ)) Unit) := by
  intro e he s
  simp only [report, logged, aside, Quay.record, Act.outcome_within, Act.outcome_ofOutcome,
    EventLog.record_of_not_kept he]
  rfl

/-! ## Occurrences -/

/-- Something that is done with a client, or that comes in on one of its streams. -/
inductive Occurrence where
  /-- A listener was to be registered. -/
  | added (queue : QueueId) (result : Except Fault Unit)
  /-- A listener was taken off. -/
  | removed (queue : QueueId) (result : Except Fault Unit)
  /-- The client was closed. -/
  | closed (result : Except Fault Unit)
  /-- A message came in on a stream that is read. -/
  | streamed (stream : StreamId) (message : Json)
  /-- So did a message that cannot be delivered. -/
  | garbled (stream : StreamId) (message : Json)
  /-- A stream that is read came to its end, or broke. -/
  | ended (stream : StreamId) (reason : Option Fault)
  /-- A message came in on a stream that is not read any more. -/
  | unread (stream : StreamId) (message : Json)
  /-- A stream that is not read any more came to its end, or broke. -/
  | lapsed (stream : StreamId) (reason : Option Fault)
  /-- Someone looked into a mailbox and took this out of it, or nothing. -/
  | taken (queue : QueueId) (item : Option (Option Event))

/-- The item that a look into a mailbox gives. -/
def itemOf : Except Fault (Option (Option Event)) → Option (Option Event)
  | .ok item => item
  | .error _ => none

/-- What occurs with the client `c`, in which state, and what comes of it. -/
inductive Occurs (d : Daemon σ) (now : String) (c : ClientId) :
    Harbour (Quay σ) → Occurrence → Harbour (Quay σ) → Prop where
  | added {s t : Harbour (Quay σ)} {q : QueueId} {r : Except Fault Unit}
      (hq : q < s.mailboxes.length) (ho : (addListener (errandly d) c q).outcome s = (r, t)) :
      Occurs d now c s (.added q r) t
  | removed {s t : Harbour (Quay σ)} {q : QueueId} {r : Except Fault Unit}
      (ho : (removeListener (errandly d) c q).outcome s = (r, t)) :
      Occurs d now c s (.removed q r) t
  | closed {s t : Harbour (Quay σ)} {r : Except Fault Unit}
      (ho : (closeClient (errandly d) c).outcome s = (r, t)) : Occurs d now c s (.closed r) t
  | streamed {s : Harbour (Quay σ)} {stream : StreamId} {message : Json}
      (hr : s.reader? stream = some c) (hm : ¬ Undeliverable c message s) :
      Occurs d now c s (.streamed stream message) (feed (report now) stream message s)
  | garbled {s : Harbour (Quay σ)} {stream : StreamId} {message : Json}
      (hr : s.reader? stream = some c) (hm : Undeliverable c message s) :
      Occurs d now c s (.garbled stream message) (feed (report now) stream message s)
  | ended {s : Harbour (Quay σ)} {stream : StreamId} (reason : Option Fault)
      (hr : s.reader? stream = some c) :
      Occurs d now c s (.ended stream reason) (finish (report now) stream reason s)
  | unread {s : Harbour (Quay σ)} {stream : StreamId} (message : Json)
      (hc : s.opener? stream = some c) (hr : s.reader? stream = none) :
      Occurs d now c s (.unread stream message) (feed (report now) stream message s)
  | lapsed {s : Harbour (Quay σ)} {stream : StreamId} (reason : Option Fault)
      (hc : s.opener? stream = some c) (hr : s.reader? stream = none) :
      Occurs d now c s (.lapsed stream reason) (finish (report now) stream reason s)
  | taken {s t : Harbour (Quay σ)} {q : QueueId} {wait : Interval}
      {r : Except Fault (Option (Option Event))}
      (ho : (Surroundings.take q wait).outcome s = (r, t)) :
      Occurs d now c s (.taken q (itemOf r)) t

/-- All that occurred with the client `c`, the latest last. -/
inductive History (d : Daemon σ) (now : String) (c : ClientId) (s : Harbour (Quay σ)) :
    List Occurrence → Harbour (Quay σ) → Prop where
  | nil : History d now c s [] s
  | concat {l : List Occurrence} {t u : Harbour (Quay σ)} {x : Occurrence}
      (h : History d now c s l t) (hx : Occurs d now c t x u) : History d now c s (l ++ [x]) u

/-- A client with which nothing was done yet. -/
structure Unused (c : ClientId) (s : Harbour (Quay σ)) : Prop where
  there : c < s.rest.hubs.length
  bare : s.hub c = {}
  streams : ∀ st ∈ s.rest.streams, st.client ≠ c
  errands : s.errands = []

variable {d : Daemon σ} {now : String} {c : ClientId} {s t u : Harbour (Quay σ)} {q : QueueId}
  {stream : StreamId} {x : Occurrence} {l : List Occurrence}

/-! ## What an occurrence changes -/

/-- The client without listeners and without a stream. -/
def clear (c : ClientId) : Harbour (Quay σ) → Harbour (Quay σ) := changeHub c fun _ => {}

/-- The stream was closed, or was to be closed, after which the daemon is in the given state. -/
def shut (c : ClientId) (stream : StreamId) (done : Bool) (x : σ) (s : Harbour (Quay σ)) :
    Harbour (Quay σ) :=
  let t := s.ran (.closed c stream done) x
  if done then t.endReading stream else t

/-- The reading of a stream is over: the client gives it up, and every listener gets the marker. -/
def closeDown (c : ClientId) (stream : StreamId) (s : Harbour (Quay σ)) : Harbour (Quay σ) :=
  offerEach none (s.hub c).listeners (giveUp c stream (s.endReading stream))

/-- What an occurrence changes. -/
inductive Change (c : ClientId) : Harbour (Quay σ) → Occurrence → Harbour (Quay σ) → Prop where
  /-- The listener is registered already. -/
  | refused {s : Harbour (Quay σ)} {q : QueueId} (hq : q ∈ (s.hub c).listeners) :
      Change c s (.added q (.error (.alreadySubscribed ""))) s
  /-- No stream could be opened. -/
  | failed {s : Harbour (Quay σ)} {q : QueueId} (hst : (s.hub c).stream? = none) (f : Fault)
      (x : σ) : Change c s (.added q (.error f)) (s.ran (.opened c none) x)
  /-- A stream was opened for the new listener. -/
  | opened {s : Harbour (Quay σ)} {q : QueueId} (hlt : q < s.mailboxes.length)
      (hq : q ∉ (s.hub c).listeners) (hst : (s.hub c).stream? = none) (x : σ) :
      Change c s (.added q (.ok ())) (enroll c q ((s.ran (.opened c none) x).beginReading c))
  /-- A stream was held already. -/
  | joined {s : Harbour (Quay σ)} {q : QueueId} (hlt : q < s.mailboxes.length)
      (hq : q ∉ (s.hub c).listeners) (hst : (s.hub c).stream? ≠ none) :
      Change c s (.added q (.ok ())) (enroll c q s)
  /-- Others listen to the stream, or none is held. -/
  | parted {s : Harbour (Quay σ)} {q : QueueId}
      (hkept : ∀ stream, (withdraw c q s).hub c ≠ ⟨[], some stream⟩) :
      Change c s (.removed q (.ok ())) (withdraw c q s)
  /-- Nobody listens any more, and the stream was closed, or was to be closed. -/
  | emptied {s : Harbour (Quay σ)} {q : QueueId} {stream : StreamId}
      (hlast : (withdraw c q s).hub c = ⟨[], some stream⟩) (r : Except Fault Unit) (x : σ) :
      Change c s (.removed q r) (shut c stream r.isOk x (release c (withdraw c q s)))
  /-- A client without a stream gave up its connection, or was to give it up. -/
  | hungUp {s : Harbour (Quay σ)} (hst : (s.hub c).stream? = none) (r : Except Fault Unit) (x : σ) :
      Change c s (.closed r) ((clear c s).ran (.hungUp c) x)
  /-- The stream was closed before. -/
  | hungUpAfter {s : Harbour (Quay σ)} {stream : StreamId} (hst : (s.hub c).stream? = some stream)
      (r : Except Fault Unit) (x y : σ) :
      Change c s (.closed r) ((shut c stream true x (clear c s)).ran (.hungUp c) y)
  /-- The stream could not be closed. -/
  | cutShort {s : Harbour (Quay σ)} {stream : StreamId} (hst : (s.hub c).stream? = some stream)
      (f : Fault) (x : σ) :
      Change c s (.closed (.error f)) (shut c stream false x (clear c s))
  /-- The listeners heard of a message. -/
  | streamed {s : Harbour (Quay σ)} {stream : StreamId} {message : Json}
      (hr : s.reader? stream = some c) :
      Change c s (.streamed stream message) (hearing message (s.hub c).listeners s)
  /-- The reading ended at a message, of which some listeners may have heard. -/
  | garbled {s : Harbour (Quay σ)} {stream : StreamId} (message : Json) (item : Option Event)
      {before : List QueueId} (hr : s.reader? stream = some c)
      (hbefore : before <+: (s.hub c).listeners) :
      Change c s (.garbled stream message) (closeDown c stream (offerEach item before s))
  /-- The reading ended with the stream. -/
  | ended {s : Harbour (Quay σ)} {stream : StreamId} (reason : Option Fault)
      (hr : s.reader? stream = some c) :
      Change c s (.ended stream reason) (closeDown c stream s)
  /-- A message is not read. -/
  | unread {s : Harbour (Quay σ)} {stream : StreamId} (message : Json)
      (hr : s.reader? stream = none) : Change c s (.unread stream message) s
  /-- Nobody notices that a stream is over. -/
  | lapsed {s : Harbour (Quay σ)} {stream : StreamId} (reason : Option Fault)
      (hc : s.opener? stream = some c) (hr : s.reader? stream = none) :
      Change c s (.lapsed stream reason) s
  /-- The oldest item of a mailbox was taken out, or nothing. -/
  | taken {s : Harbour (Quay σ)} (q : QueueId) {item : Option (Option Event)} {m : Mailbox}
      (hcapacity : m.capacity = (s.mailbox q).capacity)
      (hitems : item.toList ++ m.items = (s.mailbox q).items) :
      Change c s (.taken q item) (s.setMailbox q m)

/-! ## The client between two occurrences -/

/-- A stream that is read was opened by its reader. -/
theorem opener?_of_reader? {i : StreamId} (h : s.reader? i = some c) : s.opener? i = some c := by
  simp only [reader?] at h
  split at h
  · rename_i st hst
    split at h
    · simp [opener?, hst, Option.some.inj h]
    · cases h
  · cases h

/-- The listeners of a client and its stream fit together: a stream is held only while somebody
listens. -/
structure Fit (c : ClientId) (s : Harbour (Quay σ)) : Prop where
  there : c < s.rest.hubs.length
  distinct : (s.hub c).listeners.Nodup
  listed : ∀ q ∈ (s.hub c).listeners, q < s.mailboxes.length
  attended : (s.hub c).stream? ≠ none → (s.hub c).listeners ≠ []

/-- Of the streams that the client reads, it holds the one that it was not yet to close. -/
structure Moored (c : ClientId) (s : Harbour (Quay σ)) : Prop where
  held : ∀ i, s.reader? i = some c ∧ ¬ Jammed c i s ↔ (s.hub c).stream? = some i
  opened : ∀ i, Jammed c i s → i < s.rest.streams.length

/-- A client with which nothing was done yet fits. -/
theorem Unused.fit (h : Unused c s) : Fit c s where
  there := h.there
  distinct := by simp [h.bare]
  listed q hq := by simp [h.bare] at hq
  attended hst := by simp [h.bare] at hst

/-- It reads no stream. -/
theorem Unused.moored (h : Unused c s) : Moored c s where
  held i := by
    rw [h.bare]
    refine ⟨fun hr => ?_, fun hst => by cases hst⟩
    obtain ⟨st, hst, hc⟩ := Option.map_eq_some_iff.1 (opener?_of_reader? hr.1)
    exact absurd hc (h.streams st (List.mem_of_getElem? hst))
  opened i hi := by simp [Jammed, h.errands] at hi

/-! ## Errands and what they leave alone -/

section

variable (s : Harbour (Quay σ)) (b c : ClientId) (q : QueueId) (e : Errand) (y : σ) (i : StreamId)

@[simp] theorem hub_ran : (s.ran e y).hub b = s.hub b := rfl

@[simp] theorem reader?_ran : (s.ran e y).reader? i = s.reader? i := rfl

@[simp] theorem hubs_ran : (s.ran e y).rest.hubs = s.rest.hubs := rfl

@[simp] theorem streams_ran : (s.ran e y).rest.streams = s.rest.streams := rfl

@[simp] theorem errands_ran : (s.ran e y).errands = s.errands ++ [e] := rfl

@[simp] theorem errands_changeHub (f : Hub → Hub) : (changeHub c f s).errands = s.errands := rfl

@[simp] theorem errands_enroll : (enroll c q s).errands = s.errands := rfl

@[simp] theorem errands_withdraw : (withdraw c q s).errands = s.errands := rfl

@[simp] theorem errands_release : (release c s).errands = s.errands := rfl

@[simp] theorem errands_clear : (clear c s).errands = s.errands := rfl

@[simp] theorem errands_beginReading : (s.beginReading c).errands = s.errands := rfl

@[simp] theorem errands_endReading : (s.endReading i).errands = s.errands := rfl

@[simp] theorem errands_setMailbox (m : Mailbox) : errands (s.setMailbox q m) = s.errands := rfl

@[simp] theorem errands_offerEach (item : Option Event) (qs : List QueueId) :
    (offerEach item qs s).errands = s.errands := by
  rw [errands, rest_offerEach, errands]

@[simp] theorem errands_closeDown : (closeDown c i s).errands = s.errands := by
  rw [closeDown, errands_offerEach]
  rfl

@[simp] theorem reader?_enroll : (enroll c q s).reader? i = s.reader? i := rfl

@[simp] theorem reader?_withdraw : (withdraw c q s).reader? i = s.reader? i := rfl

@[simp] theorem reader?_clear : (clear c s).reader? i = s.reader? i := rfl

@[simp] theorem reader?_release : (release c s).reader? i = s.reader? i := rfl

/-- The client has nothing afterwards. -/
@[simp] theorem hub_clear : (clear c s).hub c = {} := by
  rcases Nat.lt_or_ge c s.rest.hubs.length with hc | hc
  · rw [clear, hub_changeHub _ _ _ _ hc, if_pos rfl]
  · simp [clear, changeHub, hub, Surroundings.mapRest, List.set_eq_of_length_le hc,
      List.getElem?_eq_none hc]

/-! Closing a stream, whether that is done or not. -/

section

variable (done : Bool)

@[simp] theorem hub_shut : (shut c i done y s).hub b = s.hub b := by
  cases done <;> rfl

@[simp] theorem length_hubs_shut :
    (shut c i done y s).rest.hubs.length = s.rest.hubs.length := by
  cases done <;> rfl

@[simp] theorem length_streams_shut :
    (shut c i done y s).rest.streams.length = s.rest.streams.length := by
  cases done
  · rfl
  · exact List.length_modify _ _ _

@[simp] theorem mailboxes_shut : (shut c i done y s).mailboxes = s.mailboxes := by
  cases done <;> rfl

@[simp] theorem errands_shut :
    (shut c i done y s).errands = s.errands ++ [.closed c i done] := by
  cases done <;> rfl

/-- A stream that was closed is not read. -/
theorem reader?_shut (j : StreamId) :
    (shut c j done y s).reader? i = if done = true ∧ i = j then none else s.reader? i := by
  cases done with
  | false => simp [shut]
  | true =>
    show ((s.ran (.closed c j true) y).endReading j).reader? i = _
    rw [reader?_endReading, reader?_ran]
    simp

end

/-- The hub of the client at the end of a stream. -/
theorem hub_closeDown : (closeDown c i s).hub c =
    ⟨(s.hub c).listeners, if (s.hub c).stream? = some i then none else (s.hub c).stream?⟩ := by
  rw [closeDown, hub_offerEach, hub_giveUp, hub_endReading]
  by_cases hst : (s.hub c).stream? = some i
  · rw [if_pos ⟨rfl, hst⟩, if_pos hst]
  · rw [if_neg fun h => hst h.2, if_neg hst]

@[simp] theorem length_streams_closeDown :
    (closeDown c i s).rest.streams.length = s.rest.streams.length := by
  simp [closeDown]

/-- A stream that is over is not read. -/
theorem reader?_closeDown (j : StreamId) :
    (closeDown c j s).reader? i = if i = j then none else s.reader? i := by
  rw [closeDown, reader?_offerEach]
  exact reader?_endReading _ _ _

/-- What is heard leaves everything beside the mailboxes. -/
@[simp] theorem rest_hearing (message : Json) (qs : List QueueId) :
    (hearing message qs s).rest = s.rest := by
  unfold hearing
  split
  · exact rest_offerEach
  · rfl

@[simp] theorem length_mailboxes_hearing (message : Json) (qs : List QueueId) :
    (hearing message qs s).mailboxes.length = s.mailboxes.length := by
  unfold hearing
  split
  · exact length_mailboxes_offerEach
  · rfl

@[simp] theorem hub_hearing (message : Json) (qs : List QueueId) :
    (hearing message qs s).hub b = s.hub b := by
  rw [hub, rest_hearing, hub]

@[simp] theorem errands_hearing (message : Json) (qs : List QueueId) :
    (hearing message qs s).errands = s.errands := by
  rw [errands, rest_hearing, errands]

end

/-! ## What is done changes no more than that -/

/-- Registering a listener. -/
theorem addListener_change (hq : q < s.mailboxes.length) {r : Except Fault Unit}
    (ho : (addListener (errandly d) c q).outcome s = (r, t)) : Change c s (.added q r) t := by
  have opened (hst : (s.hub c).stream? = none) :
      Spec (· = s) ((errandly d).openStream c) (fun _ u => ∃ x, u = s.ran (.opened c none) x)
        (fun f u => Change c s (.added q (.error f)) u) := by
    rintro u rfl
    simp only [errandly, errand, Act.outcome_ofOutcome, hst]
    match (d.openStream c).outcome u.rest.rest.rest with
    | (.ok (), x) => exact ⟨x, rfl⟩
    | (.error f, x) => exact .failed hst f x
  have spec : Spec (· = s) (addListener (errandly d) c q)
      (fun _ u => Change c s (.added q (.ok ())) u)
      (fun f u => Change c s (.added q (.error f)) u) := by
    refine addListener_spec
      (S := fun u => q ∉ (s.hub c).listeners ∧ (s.hub c).stream? = none ∧
        ∃ x, u = s.ran (.opened c none) x) ?_ ?_ ?_ ?_
    · rintro u rfl hmem
      exact .refused hmem
    · rintro u ⟨rfl, hnew, hst⟩
      exact (opened hst).post (fun _ _ hu => ⟨hnew, hst, hu⟩) (fun _ _ hu => hu) u rfl
    · rintro u ⟨hnew, hst, x, rfl⟩
      exact .opened hq hnew hst x
    · rintro u rfl hnew hst
      exact .joined hq hnew hst
  cases r with
  | ok r => exact spec.of_ok rfl ho
  | error f => exact spec.of_error rfl ho

/-- The errand to close a stream shows whether that was done. -/
theorem closeStream_errand (d : Daemon σ) (c : ClientId) (stream : StreamId)
    (s : Harbour (Quay σ)) :
    Spec (· = s) ((errandly d).closeStream c stream)
      (fun _ u => ∃ x, u = s.ran (.closed c stream true) x)
      (fun _ u => ∃ x, u = s.ran (.closed c stream false) x) := by
  rintro u rfl
  simp only [errandly, errand, Act.outcome_ofOutcome]
  match (d.closeStream c stream).outcome u.rest.rest.rest with
  | (.ok (), x) => exact ⟨x, rfl⟩
  | (.error f, x) => exact ⟨x, rfl⟩

/-- Taking off a listener. -/
theorem removeListener_change {r : Except Fault Unit}
    (ho : (removeListener (errandly d) c q).outcome s = (r, t)) : Change c s (.removed q r) t := by
  have spec : Spec (· = s) (removeListener (errandly d) c q)
      (fun _ u => Change c s (.removed q (.ok ())) u)
      (fun f u => Change c s (.removed q (.error f)) u) := by
    refine removeListener_spec
      (S := fun stream u => (withdraw c q s).hub c = ⟨[], some stream⟩ ∧
        u = release c (withdraw c q s))
      (T := fun stream u => (withdraw c q s).hub c = ⟨[], some stream⟩ ∧
        ∃ x, u = (release c (withdraw c q s)).ran (.closed c stream true) x) ?_ ?_ ?_ ?_
    · rintro u rfl hkept
      exact .parted hkept
    · rintro u stream rfl hlast
      exact ⟨hlast, rfl⟩
    · rintro stream u ⟨hlast, rfl⟩
      refine (closeStream_errand d c stream _).post (fun _ _ hu => ⟨hlast, hu⟩) ?_ _ rfl
      rintro f _ ⟨x, rfl⟩
      exact .emptied hlast (.error f) x
    · rintro stream _ ⟨hlast, x, rfl⟩
      exact .emptied hlast (.ok ()) x
  cases r with
  | ok r => exact spec.of_ok rfl ho
  | error f => exact spec.of_error rfl ho

/-- Closing the client. -/
theorem closeClient_change {r : Except Fault Unit}
    (ho : (closeClient (errandly d) c).outcome s = (r, t)) : Change c s (.closed r) t := by
  have spec : Spec (· = s) (closeClient (errandly d) c) (fun _ u => Change c s (.closed (.ok ())) u)
      (fun f u => Change c s (.closed (.error f)) u) := by
    refine closeClient_spec
      (S := fun u => (s.hub c).stream? = none ∧ u = clear c s ∨
        ∃ stream x, (s.hub c).stream? = some stream ∧ u = shut c stream true x (clear c s))
      (T := fun stream u => (s.hub c).stream? = some stream ∧
        ∃ x, u = (clear c s).ran (.closed c stream true) x) ?_ ?_ ?_ ?_
    · rintro u rfl hst
      exact .inl ⟨hst, rfl⟩
    · rintro stream _ ⟨u, rfl, hst, rfl⟩
      refine (closeStream_errand d c stream _).post (fun _ _ hu => ⟨hst, hu⟩) ?_ _ rfl
      rintro f _ ⟨x, rfl⟩
      exact .cutShort hst f x
    · rintro stream _ ⟨hst, x, rfl⟩
      exact .inr ⟨stream, x, hst, rfl⟩
    · rintro u hu
      simp only [errandly, errand, Act.outcome_ofOutcome]
      match (d.close c).outcome u.rest.rest.rest with
      | (.ok (), y) =>
        rcases hu with ⟨hst, rfl⟩ | ⟨stream, x, hst, rfl⟩
        · exact .hungUp hst _ y
        · exact .hungUpAfter hst _ x y
      | (.error f, y) =>
        rcases hu with ⟨hst, rfl⟩ | ⟨stream, x, hst, rfl⟩
        · exact .hungUp hst _ y
        · exact .hungUpAfter hst _ x y
  cases r with
  | ok r => exact spec.of_ok rfl ho
  | error f => exact spec.of_error rfl ho

/-- Looking into a mailbox. -/
theorem take_change {wait : Interval} {r : Except Fault (Option (Option Event))}
    (ho : (Surroundings.take q wait).outcome s = (r, t)) : Change c s (.taken q (itemOf r)) t := by
  have same : Change c s (.taken q none) s := by
    have change : Change c s (.taken q none) (s.setMailbox q (s.mailbox q)) := .taken q rfl rfl
    rwa [Surroundings.setMailbox_mailbox] at change
  have spec := Surroundings.take_spec (· = s) q wait
  cases r with
  | error f =>
    obtain rfl : t = s := (spec.of_error rfl ho).2
    exact same
  | ok item =>
    have taken := spec.of_ok rfl ho
    cases item with
    | none =>
      obtain rfl : t = s := taken.1
      exact same
    | some i =>
      obtain ⟨_, rest, rfl, hitems, rfl⟩ := taken
      exact .taken q rfl (by rw [hitems]; rfl)

/-- Whatever occurs, it changes no more than that. -/
theorem Occurs.change (h : Fit c s) (hx : Occurs d now c s x t) : Change c s x t := by
  cases hx with
  | added hq ho => exact addListener_change hq ho
  | removed ho => exact removeListener_change ho
  | closed ho => exact closeClient_change ho
  | streamed hr hm =>
    rw [feed_delivered (report_quiet now) hr h.distinct h.listed hm]
    exact .streamed hr
  | @garbled stream message hr hm =>
    obtain ⟨item, before, hbefore, hfeed⟩ :=
      feed_undeliverable (report_quiet now) hr h.distinct h.listed hm
    have change := Change.garbled message item hr hbefore
    rw [closeDown, hub_offerEach] at change
    rw [hfeed]
    exact change
  | ended reason hr =>
    rw [finish_quiet (report_quiet now) hr]
    exact .ended reason hr
  | @unread stream message hc hr =>
    have hfeed : feed (report now) stream message s = s := by simp only [feed, hr]
    rw [hfeed]
    exact .unread message hr
  | @lapsed stream reason hc hr =>
    have hfinish : finish (report now) stream reason s = s := by simp only [finish, hr]
    rw [hfinish]
    exact .lapsed reason hc hr
  | taken ho => exact take_change ho

/-! ## Listeners and stream stay in order -/

namespace Fit

/-- The client with one more listener. -/
theorem enrolled (h : Fit c s) (q : QueueId) :
    (enroll c q s).hub c = ⟨(s.hub c).listeners ++ [q], (s.hub c).stream?⟩ := by
  rw [hub_enroll _ _ _ h.there, if_pos rfl]

/-- The client without a listener. -/
theorem withdrawn (h : Fit c s) (q : QueueId) :
    (withdraw c q s).hub c = ⟨(s.hub c).listeners.filter (· ≠ q), (s.hub c).stream?⟩ := by
  rw [hub_withdraw _ _ _ h.there, if_pos rfl]

/-- The client holds a stream, and loses its last listener. -/
theorem emptied (h : Fit c s) (hlast : (withdraw c q s).hub c = ⟨[], some stream⟩) :
    (s.hub c).listeners.filter (· ≠ q) = [] ∧ (s.hub c).stream? = some stream :=
  Hub.mk.inj ((h.withdrawn q).symm.trans hlast)

/-- What changes neither the client nor its mailboxes leaves it in order. -/
theorem congr (h : Fit c s) (hhubs : t.rest.hubs.length = s.rest.hubs.length)
    (hhub : t.hub c = s.hub c) (hlen : t.mailboxes.length = s.mailboxes.length) : Fit c t where
  there := hhubs ▸ h.there
  distinct := hhub ▸ h.distinct
  listed q hq := hlen ▸ h.listed q (hhub ▸ hq)
  attended hst := by
    rw [hhub] at hst ⊢
    exact h.attended hst

/-- Some may stop to listen. -/
theorem fewer (h : Fit c s) {qs : List QueueId} {stream? : Option StreamId}
    (hqs : qs.Sublist (s.hub c).listeners) (hhubs : t.rest.hubs.length = s.rest.hubs.length)
    (hhub : t.hub c = ⟨qs, stream?⟩) (hlen : t.mailboxes.length = s.mailboxes.length)
    (hattended : stream? ≠ none → qs ≠ []) : Fit c t where
  there := hhubs ▸ h.there
  distinct := by
    rw [hhub]
    exact h.distinct.sublist hqs
  listed q hq := by
    rw [hhub] at hq
    rw [hlen]
    exact h.listed q (hqs.subset hq)
  attended := by
    rw [hhub]
    exact hattended

/-- Nobody listens any more, and no stream is held. -/
theorem cleared (h : Fit c s) (hhubs : t.rest.hubs.length = s.rest.hubs.length)
    (hhub : t.hub c = {}) (hlen : t.mailboxes.length = s.mailboxes.length) : Fit c t :=
  h.fewer (List.nil_sublist _) hhubs hhub hlen fun hst => absurd rfl hst

/-- The client has another listener. -/
theorem joined (h : Fit c s) (hlt : q < s.mailboxes.length) (hq : q ∉ (s.hub c).listeners)
    {stream? : Option StreamId} (hhubs : t.rest.hubs.length = s.rest.hubs.length)
    (hhub : t.hub c = ⟨(s.hub c).listeners ++ [q], stream?⟩)
    (hlen : t.mailboxes.length = s.mailboxes.length) : Fit c t where
  there := hhubs ▸ h.there
  distinct := by
    rw [hhub]
    exact List.nodup_append.2 ⟨h.distinct, by simp, fun p hp r hr => by
      rw [List.mem_singleton.1 hr]
      rintro rfl
      exact hq hp⟩
  listed p hp := by
    rw [hhub, List.mem_append, List.mem_singleton] at hp
    rw [hlen]
    rcases hp with hp | rfl
    · exact h.listed p hp
    · exact hlt
  attended _ := by simp [hhub]

/-- Offers leave a client in order. -/
theorem offered (h : Fit c s) (item : Option Event) (qs : List QueueId) :
    Fit c (offerEach item qs s) :=
  h.congr (by simp) (by simp) (by simp)

/-- The end of a stream leaves a client in order. -/
theorem closedDown (h : Fit c s) (stream : StreamId) : Fit c (closeDown c stream s) := by
  refine h.fewer (List.Sublist.refl _) ?_ (hub_closeDown s c stream) ?_ fun hst => h.attended ?_
  · simp [closeDown, giveUp]
  · simp [closeDown, giveUp, endReading, changeHub, Surroundings.mapRest]
  · intro hnone
    rw [hnone, ite_self] at hst
    exact hst rfl

/-- The client after it has lost its last listener. -/
theorem hub_emptied (h : Fit c s) (hlast : (withdraw c q s).hub c = ⟨[], some stream⟩)
    (done : Bool) (y : σ) : (shut c stream done y (release c (withdraw c q s))).hub c = {} := by
  rw [hub_shut, hub_release _ _ (by simpa [withdraw] using h.there), if_pos rfl, hlast]

end Fit

/-- The client has the new listener, and holds the stream that was opened for it. -/
theorem hub_opened (hc : c < s.rest.hubs.length) (y : σ) :
    (enroll c q ((s.ran (.opened c none) y).beginReading c)).hub c =
      ⟨(s.hub c).listeners ++ [q], some s.rest.streams.length⟩ := by
  have hlt : c < ((s.ran (.opened c none) y).beginReading c).rest.hubs.length := by simpa using hc
  rw [hub_enroll _ _ _ hlt, if_pos rfl, hub_beginReading _ _ _ (by simpa using hc), if_pos rfl,
    hub_ran, streams_ran]

/-- The listeners of a client and its stream fit together after whatever changed. -/
theorem Change.fit (h : Fit c s) (hx : Change c s x t) : Fit c t := by
  cases hx with
  | refused hq => exact h
  | failed hst f y => exact h.congr rfl rfl rfl
  | opened hlt hq hst y =>
    exact h.joined hlt hq (by simp [enroll]) (hub_opened h.there y) rfl
  | @joined q hlt hq hst => exact h.joined hlt hq (by simp [enroll]) (h.enrolled q) rfl
  | @parted q hkept =>
    refine h.fewer List.filter_sublist (by simp [withdraw]) (h.withdrawn q) rfl fun hst hnobody => ?_
    obtain ⟨stream, hst⟩ := Option.ne_none_iff_exists'.1 hst
    exact hkept stream (by rw [h.withdrawn, hnobody, hst])
  | emptied hlast r y =>
    refine h.cleared (by simp [release, withdraw]) (h.hub_emptied hlast _ y) ?_
    rw [mailboxes_shut]
    rfl
  | hungUp hst r y => exact h.cleared (by simp [clear]) (by simp) rfl
  | hungUpAfter hst r y z => exact h.cleared (by simp [clear]) (by simp) rfl
  | cutShort hst f y => exact h.cleared (by simp [clear]) (by simp) rfl
  | streamed hr => exact h.congr (by simp) (by simp) (by simp)
  | garbled message item hr hbefore => exact (h.offered item _).closedDown _
  | ended reason hr => exact h.closedDown _
  | unread message hr => exact h
  | lapsed reason hc hr => exact h
  | taken q hcapacity hitems => exact h.congr rfl rfl (by simp [Surroundings.setMailbox])

/-- They fit together after all that occurred. -/
theorem History.fit (h : Fit c s) (hl : History d now c s l t) : Fit c t := by
  induction hl with
  | nil => exact h
  | concat _ hx ih => exact (hx.change ih).fit ih

/-! ## Only streams that could not be closed are read besides -/

namespace Moored

/-- What the condition depends on. -/
theorem congr (h : Moored c s) (hst : (t.hub c).stream? = (s.hub c).stream?)
    (hread : ∀ i, t.reader? i = s.reader? i)
    (herrands : ∀ i, Errand.closed c i false ∈ t.errands ↔ Errand.closed c i false ∈ s.errands)
    (hstreams : t.rest.streams.length = s.rest.streams.length) : Moored c t where
  held i := by
    rw [hread, hst, Jammed, herrands]
    exact h.held i
  opened i hi := by
    rw [hstreams]
    exact h.opened i ((herrands i).1 hi)

/-- A stream is opened while none is held. -/
theorem beginReading (h : Moored c s) (hst : (s.hub c).stream? = none)
    (hnew : (t.hub c).stream? = some s.rest.streams.length)
    (hread : ∀ i, t.reader? i = if i = s.rest.streams.length then some c else s.reader? i)
    (herrands : ∀ i, Errand.closed c i false ∈ t.errands ↔ Errand.closed c i false ∈ s.errands)
    (hstreams : t.rest.streams.length = s.rest.streams.length + 1) : Moored c t where
  held i := by
    rw [hread, hnew, Jammed, herrands]
    by_cases hi : i = s.rest.streams.length
    · -- nobody was to close the stream before it was there
      have hnot : Errand.closed c i false ∉ s.errands := fun hmem =>
        absurd (h.opened i hmem) (by rw [hi]; exact Nat.lt_irrefl _)
      simp [hi ▸ hnot, hi]
    · have hnone := h.held i
      rw [hst] at hnone
      rw [if_neg hi]
      simpa [Ne.symm hi, Jammed] using hnone
  opened i hi := by
    rw [hstreams]
    exact Nat.lt_succ_of_lt (h.opened i ((herrands i).1 hi))

/-- The stream that is held is closed, or it could not be closed; in any case none is held then. -/
theorem shut (h : Moored c s) (hst : (s.hub c).stream? = some stream) (done : Bool) (y : σ)
    (hnone : (t.hub c).stream? = none) (hread : ∀ i, t.reader? i = s.reader? i)
    (herrands : t.errands = s.errands) (hstreams : t.rest.streams = s.rest.streams) :
    Moored c (shut c stream done y t) where
  held i := by
    rw [hub_shut, hnone, reader?_shut, hread, Jammed, errands_shut, herrands, List.mem_append,
      List.mem_singleton, Errand.closed.injEq]
    refine iff_of_false ?_ (by simp)
    rintro ⟨hr, hopen⟩
    apply hopen
    split at hr
    · cases hr
    · rename_i hkept
      by_cases hi : i = stream
      · exact .inr ⟨rfl, hi, by simpa [hi, eq_comm] using hkept⟩
      · -- any other stream that is read was to be closed before
        refine .inl (Classical.not_not.1 fun hjam => hi ?_)
        exact Option.some.inj (((h.held i).1 ⟨hr, hjam⟩).symm.trans hst)
  opened i hi := by
    rw [Jammed, errands_shut, herrands, List.mem_append, List.mem_singleton,
      Errand.closed.injEq] at hi
    rw [length_streams_shut, hstreams]
    rcases hi with hi | ⟨-, rfl, -⟩
    · exact h.opened i hi
    · exact lt_of_reader? _ _ _ ((h.held i).2 hst).1

/-- The reading of a stream ends. -/
theorem closedDown (h : Moored c s) (stream : StreamId) : Moored c (closeDown c stream s) where
  held i := by
    have hheld := h.held i
    rw [hub_closeDown, reader?_closeDown, Jammed, errands_closeDown]
    by_cases hi : i = stream
    · subst hi
      by_cases hst : (s.hub c).stream? = some i <;> simp [hst]
    · rw [if_neg hi]
      by_cases hst : (s.hub c).stream? = some stream
      · rw [hst] at hheld
        simpa [hst, Ne.symm hi, Jammed] using hheld
      · simpa [hst, Jammed] using hheld
  opened i hi := by
    rw [length_streams_closeDown]
    exact h.opened i (by simpa [Jammed] using hi)

end Moored

/-- Whatever changes, a client reads the stream that it holds, and otherwise only streams that could
not be closed. -/
theorem Change.moored (hfit : Fit c s) (h : Moored c s) (hx : Change c s x t) : Moored c t := by
  cases hx with
  | refused hq => exact h
  | failed hst f y => exact h.congr rfl (fun _ => rfl) (by simp) rfl
  | opened hlt hq hst y =>
    refine h.beginReading hst (congrArg Hub.stream? (hub_opened hfit.there y)) (fun i => ?_)
      (by simp) ?_
    · rw [reader?_enroll, reader?_beginReading, reader?_ran, streams_ran]
    · exact length_streams_beginReading _ c
  | @joined q hlt hq hst =>
    exact h.congr (by rw [hfit.enrolled]) (fun _ => rfl) (by simp) rfl
  | @parted q hkept =>
    exact h.congr (by rw [hfit.withdrawn]) (fun _ => rfl) (by simp) rfl
  | @emptied q stream hlast r y =>
    refine h.shut (hfit.emptied hlast).2 _ y ?_ (fun _ => rfl) (by simp) rfl
    rw [hub_release _ _ (by simpa [withdraw] using hfit.there), if_pos rfl]
  | hungUp hst r y => exact h.congr (by simp [hst]) (fun _ => rfl) (by simp) rfl
  | hungUpAfter hst r y z =>
    have hshut := h.shut (t := clear c s) hst true y (by simp) (fun _ => rfl) rfl rfl
    exact hshut.congr rfl (fun _ => rfl) (by simp) rfl
  | cutShort hst f y => exact h.shut hst _ y (by simp) (fun _ => rfl) (by simp) rfl
  | streamed hr => exact h.congr (by simp) (fun i => by simp [reader?]) (by simp) (by simp)
  | @garbled stream message item before hr hbefore =>
    have heard : Moored c (offerEach item before s) :=
      h.congr (by simp) (fun i => by simp) (by simp) (by simp)
    exact heard.closedDown stream
  | ended reason hr => exact h.closedDown _
  | unread message hr => exact h
  | lapsed reason hc hr => exact h
  | taken q hcapacity hitems => exact h.congr rfl (fun _ => rfl) (by simp) rfl

/-- So it is after all that occurred. -/
theorem History.moored (hfit : Fit c s) (h : Moored c s) (hl : History d now c s l t) :
    Moored c t := by
  induction hl with
  | nil => exact h
  | concat hl hx ih => exact (hx.change (hl.fit hfit)).moored (hl.fit hfit) ih

/-! ## What the mailboxes get -/

namespace Occurrence

/-- What every listener is sent; a message that cannot be delivered is another matter. -/
def sent : Occurrence → List (Option Event)
  | streamed _ message => match Event.ofMessage message with
    | .ok (some e) => [some e]
    | _ => []
  | ended _ _ => [none]
  | _ => []

/-- The reading of a stream ends. -/
def isEnding : Occurrence → Bool
  | garbled _ _ => true
  | ended _ _ => true
  | _ => false

/-- The listener is not taken off, and nobody looks into its mailbox. -/
def Spares (q : QueueId) : Occurrence → Prop
  | removed p _ => p ≠ q
  | closed _ => False
  | taken p _ => p ≠ q
  | _ => True

end Occurrence

/-- At the end of a stream the mailbox of a listener gets the marker. -/
theorem mailbox_closeDown (h : Fit c s) (stream : StreamId) (p : QueueId) :
    (closeDown c stream s).mailbox p =
      if p ∈ (s.hub c).listeners then ((s.mailbox p).offer none).mailbox else s.mailbox p :=
  mailbox_offerEach (s := giveUp c stream (s.endReading stream)) h.distinct h.listed p

/-- The mailbox of a listener is offered what is sent, and other mailboxes are offered nothing. -/
theorem Change.mailbox (h : Fit c s) (hx : Change c s x t) {p : QueueId}
    (hgarbled : ∀ stream message, x ≠ .garbled stream message)
    (htaken : ∀ item, x ≠ .taken p item) :
    t.mailbox p = if p ∈ (s.hub c).listeners then
      (s.mailbox p).offerAll x.sent else s.mailbox p := by
  cases hx with
  | streamed hr =>
    rename_i message
    simp only [hearing, Occurrence.sent]
    cases Event.ofMessage message with
    | error f => exact (ite_self _).symm
    | ok heard =>
      cases heard with
      | none => exact (ite_self _).symm
      | some e => exact mailbox_offerEach h.distinct h.listed p
  | garbled message item hr hbefore => exact absurd rfl (hgarbled _ _)
  | ended reason hr => exact mailbox_closeDown h _ p
  | taken q hcapacity hitems =>
    have hp : p ≠ q := by
      rintro rfl
      exact htaken _ rfl
    rw [Surroundings.mailbox_setMailbox_ne _ _ _ _ hp]
    exact (ite_self _).symm
  | emptied hlast r y =>
    rw [Surroundings.mailbox, mailboxes_shut]
    exact (ite_self _).symm
  | @hungUpAfter stream hst r y z =>
    show Surroundings.mailbox (shut c stream true y (clear c s)) p = _
    rw [Surroundings.mailbox, mailboxes_shut]
    exact (ite_self _).symm
  | cutShort hst f y => exact (ite_self _).symm
  | _ => exact (ite_self _).symm

/-- A marker waits until somebody looks into the mailbox. -/
theorem Change.marked (h : Fit c s) (hx : Change c s x t) {p : QueueId}
    (htaken : ∀ item, x ≠ .taken p item) (hp : none ∈ (s.mailbox p).items) :
    none ∈ (t.mailbox p).items := by
  cases x with
  | garbled stream message =>
    cases hx with
    | @garbled _ _ item before hr hbefore =>
      have heard : none ∈ ((offerEach item before s).mailbox p).items :=
        none_mem_offerEach (h.distinct.sublist hbefore.sublist)
          (fun q hq => h.listed q (hbefore.subset hq)) hp
      rw [mailbox_closeDown (h.offered item before)]
      split
      · exact Mailbox.none_mem_offer _
      · exact heard
  | _ =>
    rw [hx.mailbox h (by simp) htaken]
    split
    · exact Mailbox.none_mem_offerAll hp _
    · exact hp

/-! ## What is certain afterwards -/

/-- A stream is opened only while none is held. -/
theorem Change.opened_unheld (hx : Change c s x t)
    (h : ∀ b held, Errand.opened b held ∈ s.errands → held = none) :
    ∀ b held, Errand.opened b held ∈ t.errands → held = none := by
  intro b held hmem
  cases hx with
  | failed hst f y =>
    rw [errands_ran, List.mem_append, List.mem_singleton] at hmem
    exact hmem.elim (h b held) fun heq => (Errand.opened.inj heq).2
  | opened hlt hq hst y =>
    rw [errands_enroll, errands_beginReading, errands_ran, List.mem_append,
      List.mem_singleton] at hmem
    exact hmem.elim (h b held) fun heq => (Errand.opened.inj heq).2
  | _ => exact h b held (by simpa using hmem)

/-- Whoever listens goes on listening while it is spared, and hears of the end of the stream. -/
theorem Change.awake (h : Fit c s) (hx : Change c s x t) (hspared : x.Spares q)
    (hq : q ∈ (s.hub c).listeners) : q ∈ (t.hub c).listeners ∧
      ((s.hub c).stream? ≠ none →
        (t.hub c).stream? ≠ none ∨ x.isEnding = true ∧ none ∈ (t.mailbox q).items) := by
  have ended {s : Harbour (Quay σ)} (h : Fit c s) (hq : q ∈ (s.hub c).listeners)
      (stream : StreamId) : q ∈ ((closeDown c stream s).hub c).listeners ∧
        none ∈ ((closeDown c stream s).mailbox q).items := by
    rw [hub_closeDown, mailbox_closeDown h, if_pos hq]
    exact ⟨hq, Mailbox.none_mem_offer _⟩
  cases hx with
  | opened hlt hnew hst y =>
    rw [hub_opened h.there]
    exact ⟨by simp [hq], by simp⟩
  | joined hlt hnew hst =>
    rw [h.enrolled]
    exact ⟨by simp [hq], .inl⟩
  | @parted p hkept =>
    have hmem : q ∈ (s.hub c).listeners.filter (· ≠ p) :=
      List.mem_filter.2 ⟨hq, by simpa using Ne.symm hspared⟩
    rw [h.withdrawn]
    exact ⟨hmem, .inl⟩
  | @emptied p _ hlast r y =>
    -- somebody listens still
    have hmem : q ∈ (s.hub c).listeners.filter (· ≠ p) :=
      List.mem_filter.2 ⟨hq, by simpa using Ne.symm hspared⟩
    rw [(h.emptied hlast).1] at hmem
    cases hmem
  | hungUp hst r y => exact hspared.elim
  | hungUpAfter hst r y z => exact hspared.elim
  | cutShort hst f y => exact hspared.elim
  | streamed hr =>
    rw [hub_hearing]
    exact ⟨hq, .inl⟩
  | @garbled stream _ item before hr hbefore =>
    obtain ⟨hq, hmark⟩ := ended (h.offered item before) (by rwa [hub_offerEach]) stream
    exact ⟨hq, fun _ => .inr ⟨rfl, hmark⟩⟩
  | ended reason hr =>
    obtain ⟨hq, hmark⟩ := ended h hq _
    exact ⟨hq, fun _ => .inr ⟨rfl, hmark⟩⟩
  | _ => exact ⟨hq, .inl⟩

/-- What is certain about a client after an occurrence. -/
def Settles (d : Daemon σ) (now : String) (c : ClientId) (s : Harbour (Quay σ)) :
    Occurrence → Harbour (Quay σ) → Prop
  | .added q (.ok ()), t => q ∉ (s.hub c).listeners ∧
      (t.hub c).listeners = (s.hub c).listeners ++ [q] ∧ (t.hub c).stream? ≠ none ∧
      -- the new listener will not be left without a stream unless it is told of the end
      ∀ l u, History d now c t l u → (∀ y ∈ l, y.Spares q) →
        (u.hub c).stream? ≠ none ∨ (∃ y ∈ l, y.isEnding = true) ∧ none ∈ (u.mailbox q).items
  | .added _ (.error _), t => t.rest.hubs = s.rest.hubs ∧ t.rest.streams = s.rest.streams ∧
      t.mailboxes = s.mailboxes
  | .removed q _, t => t.hub c =
      let qs := (s.hub c).listeners.filter (· ≠ q)
      ⟨qs, if qs = [] then none else (s.hub c).stream?⟩
  | .closed _, t => t.hub c = {}
  | _, _ => True

/-- Whoever listens while a stream is held hears of its end. -/
theorem History.awake (h : Fit c s) (hl : History d now c s l t) (hspared : ∀ y ∈ l, y.Spares q)
    (hq : q ∈ (s.hub c).listeners) (hst : (s.hub c).stream? ≠ none) :
    q ∈ (t.hub c).listeners ∧ ((t.hub c).stream? ≠ none ∨
      (∃ y ∈ l, y.isEnding = true) ∧ none ∈ (t.mailbox q).items) := by
  induction hl with
  | nil => exact ⟨hq, .inl hst⟩
  | @concat l t u x hl hx ih =>
    have hfit := hl.fit h
    have hchange := hx.change hfit
    have hx : x.Spares q := hspared x (by simp)
    obtain ⟨hq, hears⟩ := ih fun y hy => hspared y (by simp [hy])
    obtain ⟨hq', hawake⟩ := hchange.awake hfit hx hq
    refine ⟨hq', ?_⟩
    rcases hears with hst | ⟨⟨y, hy, hend⟩, hmark⟩
    · exact (hawake hst).imp_right fun hmark => ⟨⟨x, by simp, hmark.1⟩, hmark.2⟩
    · refine .inr ⟨⟨y, by simp [hy], hend⟩, hchange.marked hfit (fun item => ?_) hmark⟩
      rintro rfl
      exact hx rfl

/-- What is certain after an occurrence. -/
theorem Change.settles (d : Daemon σ) (now : String) (h : Fit c s) (hx : Change c s x t) :
    Settles d now c s x t := by
  have hfit := hx.fit h
  -- a new listener is among the listeners, and somebody reads a stream for it
  have listens {q : QueueId} (hq : q ∈ (t.hub c).listeners) (hst : (t.hub c).stream? ≠ none)
      (l : List Occurrence) (u : Harbour (Quay σ)) (hl : History d now c t l u)
      (hspared : ∀ y ∈ l, y.Spares q) : (u.hub c).stream? ≠ none ∨
        (∃ y ∈ l, y.isEnding = true) ∧ none ∈ (u.mailbox q).items :=
    (hl.awake hfit hspared hq hst).2
  cases hx with
  | refused hq => exact ⟨rfl, rfl, rfl⟩
  | failed hst f y => exact ⟨rfl, rfl, rfl⟩
  | @opened q hlt hnew hst y =>
    have hhub := hub_opened (q := q) h.there y
    rw [hhub] at listens
    refine ⟨hnew, by rw [hhub], by simp [hhub], listens (by simp) (by simp)⟩
  | @joined q hlt hnew hst =>
    have hhub := h.enrolled q
    rw [hhub] at listens
    exact ⟨hnew, by rw [hhub], by rwa [hhub], listens (by simp) hst⟩
  | @parted q hkept =>
    have hhub := h.withdrawn q
    simp only [Settles, hhub]
    split
    · rename_i hnobody
      cases hst : (s.hub c).stream? with
      | none => rfl
      | some stream => exact absurd (by rw [hhub, hnobody, hst]) (hkept stream)
    · rfl
  | @emptied q stream hlast r y =>
    have hnobody := (h.emptied hlast).1
    simp only [Settles, hnobody, if_true]
    exact h.hub_emptied hlast _ y
  | hungUp hst r y => simp [Settles]
  | hungUpAfter hst r y z => simp [Settles]
  | cutShort hst f y => simp [Settles]
  | _ => trivial

/-- **A client keeps its listeners and its stream in order.** Whatever occurred with it, and however
often the daemon refused to open a stream, to close one or to give up the connection: nobody is
registered twice, a stream is held only while somebody listens, it was opened while none was held,
and, of the streams that are read, it is the only one that the daemon did not fail to close. What
occurs next is certain where it does not depend on the daemon: who was registered hears of the end, a
refused listener changed nothing, and what is taken off is gone. -/
theorem client_in_order (hs : Unused c s) (hl : History d now c s l t) :
    (t.hub c).listeners.Nodup ∧
    ((t.hub c).stream? ≠ none → (t.hub c).listeners ≠ []) ∧
    (∀ b held, Errand.opened b held ∈ t.errands → held = none) ∧
    (∀ i, t.reader? i = some c ∧ ¬ Jammed c i t ↔ (t.hub c).stream? = some i) ∧
    ∀ x u, Occurs d now c t x u → Settles d now c t x u := by
  have hfit := hl.fit hs.fit
  have unheld : ∀ b held, Errand.opened b held ∈ t.errands → held = none := by
    induction hl with
    | nil => simp [hs.errands]
    | concat hl hx ih => exact (hx.change (hl.fit hs.fit)).opened_unheld (ih (hl.fit hs.fit))
  exact ⟨hfit.distinct, hfit.attended, unheld, (hl.moored hs.fit hs.moored).held,
    fun x u hx => (hx.change hfit).settles d now hfit⟩

/-- A daemon that opens streams, and that does this when something is to be closed. -/
def answering (closing : Act Unit Unit) : Daemon Unit where
  containers _ := pure []
  inspect _ _ := Act.fail .pingRefused
  ping _ := pure (.bool true)
  openStream _ := pure ()
  closeStream _ _ := closing
  close _ := closing

/-- The failure of a daemon that does not answer. -/
def noAnswer : Fault := .reported "OSError" "no answer"

/-- A daemon that fails whenever something is to be closed. -/
def stubborn : Daemon Unit := answering (Act.fail noAnswer)

/-- A client, and two mailboxes. -/
def quayside : Harbour (Quay Unit) where
  mailboxes := [{ capacity := 0 }, { capacity := 1 }]
  rest := { hubs := [{}], rest := { rest := () } }

/-- Nothing was done with the client yet. -/
theorem quayside_unused : Unused 0 quayside where
  there := by decide
  bare := rfl
  streams := by simp [quayside]
  errands := rfl

/-- A listener came. -/
def called : Harbour (Quay Unit) := ((addListener (errandly stubborn) 0 1).outcome quayside).2

/-- It went, and the stream could not be closed. -/
def left : Harbour (Quay Unit) := ((removeListener (errandly stubborn) 0 1).outcome called).2

/-- It came again. -/
def recalled : Harbour (Quay Unit) := ((addListener (errandly stubborn) 0 1).outcome left).2

/-- All that can occur. -/
theorem recalled_history : History stubborn "" 0 quayside
    [.added 1 (.ok ()), .removed 1 (.error noAnswer), .added 1 (.ok ())] recalled :=
  .concat (l := [.added 1 (.ok ()), .removed 1 (.error noAnswer)])
    (.concat (l := [.added 1 (.ok ())]) (.concat (l := []) .nil (.added (by decide) rfl))
      (.removed rfl))
    (.added (by decide) rfl)

/-- The stream that could not be closed is read beside the one that is held now. -/
theorem client_in_order_stubborn :
    Unused 0 quayside ∧
      History stubborn "" 0 quayside
        [.added 1 (.ok ()), .removed 1 (.error noAnswer), .added 1 (.ok ())] recalled ∧
      Jammed 0 0 recalled ∧ (recalled.hub 0).stream? = some 1 ∧
      ∀ t, Occurs stubborn "" 0 recalled (.removed 1 (.error noAnswer)) t → t.hub 0 = {} := by
  obtain ⟨-, -, -, hread, hnext⟩ := client_in_order quayside_unused recalled_history
  refine ⟨quayside_unused, recalled_history, by decide, (hread 1).1 ⟨rfl, by decide⟩, fun t ht => ?_⟩
  exact hnext _ t ht

/-- Two streams are read for one client, each of which was opened while the client held none. -/
theorem stubborn_leaves_two_readers :
    Unused 0 quayside ∧
      History stubborn "" 0 quayside
        [.added 1 (.ok ()), .removed 1 (.error noAnswer), .added 1 (.ok ())] recalled ∧
      recalled.errands = [.opened 0 none, .closed 0 0 false, .opened 0 none] ∧
      recalled.reader? 0 = some 0 ∧ recalled.reader? 1 = some 0 ∧
      ¬ ∀ i j, recalled.reader? i = some 0 → recalled.reader? j = some 0 → i = j := by
  refine ⟨quayside_unused, recalled_history, rfl, rfl, rfl, fun h => ?_⟩
  cases h 0 1 rfl rfl

end Harbour

end HostRouting
