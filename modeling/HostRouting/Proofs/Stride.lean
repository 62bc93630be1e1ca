import HostRouting.Proofs.Journal
import HostRouting.Proofs.Outline

/-!
# Strides

What a transition can do, told by the deeds that matter for waiting: what is attempted, what goes
wrong, the waits, and the end of the stream. A stride leads from one state of the watcher to another,
or back to the same phase if a failure stops it, and there are no other ones.
-/

namespace HostRouting.Watcher

open Act (Spec Keeps failing never)

/-! ## Salient deeds -/

namespace Deed

/-- Something is attempted: a connection, a ping, a listing or a subscription. -/
def isAttempt : Deed → Bool
  | began .connect | began (.ping _) | began (.list _) | began (.addListener _ _) => true
  | _ => false

/-- A connection is attempted. -/
def isDial : Deed → Bool
  | began .connect => true
  | _ => false

/-- A connection, a ping or a subscription failed; a mailbox that is registered already is no
failure. -/
def isSetback : Deed → Bool
  | failed .connect _ | failed (.ping _) _ => true
  | failed (.addListener _ _) (.alreadySubscribed _) => false
  | failed (.addListener _ _) _ => true
  | _ => false

/-- A wait begins. -/
def isWait : Deed → Bool
  | began (.sleep _) => true
  | _ => false

/-- The marker for the end of the stream was taken. -/
def isEnding : Deed → Bool
  | took (some none) => true
  | _ => false

/-- The deed matters for waiting. -/
def isSalient (d : Deed) : Bool := d.isAttempt || d.isSetback || d.isWait || d.isEnding

end Deed

/-! ## What a transition can do -/

/-- The salient deeds of a transition from one state of the watcher to another, with its result. -/
inductive Stride (pause : Interval) : Watcher → List Deed → Except Fault Phase → Watcher → Prop where
  /-- No connection is made. -/
  | refused (hold : Option Hold) (f : Fault) :
      Stride pause (holding .disconnected hold)
        [.began .connect, .failed .connect f, .began (.sleep pause)]
        (.ok .disconnected) (holding .disconnected hold)
  /-- A connection is made, and a pass. -/
  | connected (hold : Option Hold) (x : Hold) (hx : x.subscribed = false) :
      Stride pause (holding .disconnected hold) [.began .connect, .began (.list x.client)]
        (.ok .idle) (holding .idle (some x))
  /-- A connection is made, but the consumer does not take the table. -/
  | unpublished (hold : Option Hold) (x : Hold) (hx : x.subscribed = false) (f : Fault) :
      Stride pause (holding .disconnected hold) [.began .connect, .began (.list x.client)]
        (.error f) (holding .disconnected (some x))
  /-- The client does not answer any more. -/
  | lost (phase : Phase) (hphase : phase ≠ .disconnected) (x : Hold) (f : Fault) :
      Stride pause (holding phase (some x))
        [.began (.ping x.client), .failed (.ping x.client) f, .began (.sleep pause)]
        (.ok .disconnected) (holding .disconnected none)
  /-- The events are subscribed to. -/
  | subscribed (x : Hold) :
      Stride pause (holding .idle (some x))
        [.began (.ping x.client), .began (.addListener x.client x.queue)]
        (.ok .watching) (holding .watching (some x.listening))
  /-- The events cannot be subscribed to. -/
  | unsubscribed (x : Hold) (f : Fault)
      (hf : Deed.isSetback (.failed (.addListener x.client x.queue) f) = true) :
      Stride pause (holding .idle (some x))
        [.began (.ping x.client), .began (.addListener x.client x.queue),
          .failed (.addListener x.client x.queue) f, .began (.sleep pause)]
        (.ok .idle) (holding .idle (some x))
  /-- Nothing comes in, or nothing that matters. -/
  | unmoved (x : Hold) :
      Stride pause (holding .watching (some x)) [.began (.ping x.client)]
        (.ok .watching) (holding .watching (some x))
  /-- What comes in stops the transition, or it cannot be waited for. -/
  | stopped (x : Hold) (f : Fault) :
      Stride pause (holding .watching (some x)) [.began (.ping x.client)]
        (.error f) (holding .watching (some x))
  /-- A container was started or stopped, and a pass is made. -/
  | refreshed (x : Hold) :
      Stride pause (holding .watching (some x))
        [.began (.ping x.client), .began (.list x.client)]
        (.ok .watching) (holding .watching (some x))
  /-- A pass is made, but the consumer does not take the table. -/
  | unheeded (x : Hold) (f : Fault) :
      Stride pause (holding .watching (some x))
        [.began (.ping x.client), .began (.list x.client)]
        (.error f) (holding .watching (some x))
  /-- The stream has ended. -/
  | closed (x : Hold) :
      Stride pause (holding .watching (some x)) [.began (.ping x.client), .took (some none)]
        (.ok .disconnected) (holding .disconnected none)

/-- A transition that fails keeps its phase. -/
theorem Stride.phase_of_error {pause : Interval} {w w' : Watcher} {l : List Deed} {f : Fault}
    (hl : Stride pause w l (.error f) w') : w'.phase = w.phase := by
  cases hl <;> rfl

/-- Beyond the first phase, every stride begins with a ping of the client. -/
theorem Stride.pings {pause : Interval} {w w' : Watcher} {l : List Deed} {r : Except Fault Phase}
    (hl : Stride pause w l r w') (hw : w.phase ≠ .disconnected) :
    ∃ client queue, w.client? = some client ∧ w.queue? = some queue ∧
      .began (.ping client) ∈ l := by
  cases hl with
  | refused | connected | unpublished => exact absurd rfl hw
  | lost _ _ x | subscribed x | unsubscribed x | unmoved x | stopped x | refreshed x | unheeded x
  | closed x => exact ⟨x.client, x.queue, rfl, rfl, by simp⟩

/-! ## Reading off the salient deeds -/

section

variable {σ α : Type} {j l : List Deed}

/-- The journal `k` goes on from `j` with the salient deeds `l`. -/
def Follows (j l k : List Deed) : Prop := ∃ new, k = j ++ new ∧ new.filter Deed.isSalient = l

/-- Since the journal said `j`, the salient deeds were `l`. -/
def Since (j l : List Deed) (s : Surroundings (Recorded σ)) : Prop := Follows j l s.rest.journal

/-- Some salient deeds after others. -/
theorem Since.trans {l' : List Deed} {s t : Surroundings (Recorded σ)} (hs : Since j l s)
    (ht : Since s.rest.journal l' t) : Since j (l ++ l') t := by
  obtain ⟨new, hnew, rfl⟩ := hs
  obtain ⟨new', hnew', rfl⟩ := ht
  exact ⟨new ++ new', by rw [hnew', hnew, List.append_assoc], List.filter_append ..⟩

/-- More deeds in such a journal. -/
theorem Follows.append {k more q : List Deed} (hk : Follows j l k)
    (hq : l ++ more.filter Deed.isSalient = q) : Follows j q (k ++ more) := by
  obtain ⟨new, rfl, rfl⟩ := hk
  exact ⟨new ++ more, List.append_assoc .., by rw [List.filter_append, hq]⟩

/-- A call adds its begin and its end, as far as they matter. -/
theorem Since.call (call : Call) (answer : α → Deed) {act : Act (Surroundings σ) α}
    (hact : Keeps (fun _ => True) act) {q : α → List Deed} {e : Fault → List Deed}
    (hq : ∀ a, l ++ [.began call, answer a].filter Deed.isSalient = q a)
    (he : ∀ f, l ++ [.began call, .failed call f].filter Deed.isSalient = e f) :
    Spec (Since j l) (act.recorded call answer) (fun a => Since j (q a))
      (failing fun f => Since j (e f)) :=
  Act.Spec.recorded_failing (P := Follows j l) (Q := fun a => Follows j (q a))
    (E := fun f => Follows j (e f)) hact (fun a _ hk => hk.append (hq a)) fun f _ hk =>
      hk.append (he f)

/-- A call that does not matter. -/
theorem Since.quiet (call : Call) (answer : α → Deed) {act : Act (Surroundings σ) α}
    (hact : Keeps (fun _ => True) act)
    (hq : ∀ a, [.began call, answer a].filter Deed.isSalient = [])
    (he : ∀ f, [.began call, .failed call f].filter Deed.isSalient = []) :
    Keeps (Since j l) (act.recorded call answer) :=
  Since.call call answer hact (fun a => by rw [hq a, List.append_nil])
    fun f => by rw [he f, List.append_nil]

/-- A call that does not fail. -/
theorem Since.safe {call : Call} {act : Act (Surroundings σ) Unit} {q : List Deed}
    (hact : Spec (fun _ => True) act (fun _ _ => True) never)
    (hq : l ++ [.began call, .done call].filter Deed.isSalient = q) :
    Spec (Since j l) (act.recorded call fun _ => .done call) (fun _ => Since j q) never :=
  Act.Spec.recorded_never (P := Follows j l) (Q := fun _ => Follows j q) hact
    fun _ _ hk => hk.append hq

end

/-! ## The parts of a transition -/

section

variable {σ : Type} {h : Host σ} (hh : h.Fallible) (c : WatchConfig) (phase : Phase) (x : Hold)
  {j l : List Deed}

include hh

theorem report_since (w : Watcher) (e : Log.Entry) :
    Spec (Stands w (Since j l)) (report h.recorded e) (fun _ => Stands w (Since j l)) never :=
  call_safe (Since.safe (hh.report e) (List.append_nil l))

theorem backOff_since (w : Watcher) :
    Spec (Stands w (Since j l)) (backOff h.recorded c)
      (fun _ => Stands w (Since j (l ++ [.began (.sleep c.reconnectInterval)]))) never :=
  call_safe (Since.safe (hh.sleep _) rfl)

/-- Giving up a connection does not matter for waiting. -/
theorem dropClient_since (hold : Option Hold) :
    Spec (Stands (holding phase hold) (Since j l)) (dropClient h.recorded)
      (fun _ => Stands (holding phase none) (Since j l)) never := by
  have closed (client : ClientId) : Keeps (Since j l) (h.recorded.close client) :=
    Since.quiet _ _ (hh.close client) (fun _ => rfl) fun _ => rfl
  have reported (e : Log.Entry) :
      Spec (Since j l) (h.recorded.report e) (fun _ => Since j l) never :=
    Since.safe (hh.report e) (List.append_nil l)
  refine dropClient_drops (R := Since j l) phase hold (fun x _ _ => ?_) (fun _ _ hs => hs)
    (fun x _ => closed x.client) (fun _ _ hs => hs) reported reported
  exact Since.quiet _ _ (hh.removeListener x.client x.queue) (fun _ => rfl) fun _ => rfl

/-- A pass matters only by its listing, whatever becomes of it. -/
theorem refresh_since :
    Spec (Stands (holding phase (some x)) (Since j l)) (refresh h.recorded c)
      (fun _ => Stands (holding phase (some x)) (Since j (l ++ [.began (.list x.client)])))
      (failing fun _ =>
        Stands (holding phase (some x)) (Since j (l ++ [.began (.list x.client)]))) := by
  refine state_bind ?_
  have surveyed : Spec (Since j l) (h.recorded.enumerate c.ports c.workers x.client)
      (fun _ => Since j (l ++ [.began (.list x.client)]))
      (failing fun _ => Since j (l ++ [.began (.list x.client)])) := by
    refine Host.enumerate_keeps ?_ (fun id => ?_) (fun e => ?_) _ _
    · exact Since.call _ _ (hh.list x.client) (fun _ => rfl) fun _ => rfl
    · exact Since.quiet _ _ (hh.inspect x.client id) (fun _ => rfl) fun _ => rfl
    · exact Since.safe (hh.report e) (List.append_nil _)
  refine Spec.bind (call_spec surveyed).attempt fun r => ?_
  cases r with
  | error f => exact Spec.bind (report_since hh _ _).safe fun _ => Spec.pure fun _ hm => hm
  | ok t =>
    refine Spec.bind (report_since hh _ _).safe fun _ => ?_
    have published := Since.quiet (j := j) (l := l ++ [.began (.list x.client)])
      (.publish t) (fun _ => .done (.publish t)) (hh.publish t)
      (fun _ => rfl) fun _ => rfl
    exact Spec.bind (call_spec published) fun _ => Spec.pure fun _ hm => hm

/-- What is known after a ping. -/
def Pinged (j l : List Deed) : Bool → Machine (Recorded σ) → Prop
  | true => Stands (holding phase (some x)) (Since j (l ++ [.began (.ping x.client)]))
  | false => fun m => ∃ f, Stands (holding phase none) (Since j (l ++ [.began (.ping x.client),
      .failed (.ping x.client) f, .began (.sleep c.reconnectInterval)])) m

/-- A ping that fails costs the connection, and a wait. -/
theorem ping_since :
    Spec (Stands (holding phase (some x)) (Since j l)) (ping h.recorded c x.client)
      (Pinged c phase x j l) never := by
  have pinged := Since.call (j := j) (l := l) (.ping x.client)
    (fun _ => .done (.ping x.client)) (hh.ping x.client) (fun _ => rfl) fun _ => rfl
  refine Spec.bind (call_spec pinged).attempt fun r => ?_
  cases r with
  | ok u => exact Spec.pure fun _ hm => hm
  | error f =>
    refine Spec.bind (report_since hh _ _) fun _ => ?_
    refine Spec.bind (dropClient_since hh phase (some x)) fun _ => ?_
    refine Spec.bind (backOff_since hh c _) fun _ => Spec.pure fun m hm => ⟨f, ?_⟩
    rw [List.append_assoc] at hm
    exact hm

/-! ## The transitions -/

/-- Since the journal said `j`, the salient deeds were those of a stride from one state of the
watcher to another. -/
def Strode (c : WatchConfig) (j : List Deed) (w : Watcher) (r : Except Fault Phase) (w' : Watcher)
    (s : Surroundings (Recorded σ)) : Prop :=
  ∃ l, Since j l s ∧ Stride c.reconnectInterval w l r w'

/-- Without a client, a connection is attempted. -/
theorem fromDisconnected_strode (hold : Option Hold) :
    Spec (Stands (holding .disconnected hold) (Since j [])) (fromDisconnected h.recorded c)
      (fun next m => Strode c j (holding .disconnected hold) (.ok next)
        { m.watcher with phase := next } m.outside)
      (failing fun f m => Strode c j (holding .disconnected hold) (.error f) m.watcher m.outside) := by
  have dialled := Since.call (j := j) (l := []) .connect .connected hh.connect (fun _ => rfl) fun _ => rfl
  refine Spec.bind (call_spec dialled).attempt fun r => ?_
  cases r with
  | error f =>
    refine Spec.bind (report_since hh _ _).safe fun _ => ?_
    refine Spec.bind (backOff_since hh c _).safe fun _ => Spec.pure ?_
    rintro ⟨w, s⟩ ⟨rfl, hs⟩
    exact ⟨_, hs, .refused hold f⟩
  | ok client =>
    refine Spec.bind (dropClient_since hh .disconnected hold).safe fun _ => ?_
    -- the mailbox is no matter of the journal
    have opened : Spec (Since (σ := σ) j [.began .connect]) (Surroundings.openMailbox c.queueSize)
        (fun _ => Since j [.began .connect]) never := fun _ hs => hs
    refine Spec.bind (call_safe opened).safe fun queue => ?_
    refine Spec.bind change_spec fun _ => ?_
    refine Spec.bind (report_since hh _ _).safe fun _ => ?_
    let x : Hold := { client, queue }
    refine Spec.bind (R := fun _ => Stands (holding .disconnected (some x))
      (Since j [.began .connect, .began (.list client)])) ?_ fun _ => ?_
    · refine (refresh_since hh c .disconnected x).post (fun _ _ hm => hm) ?_
      rintro f ⟨w, s⟩ ⟨hf, rfl, hs⟩
      exact ⟨hf, _, hs, .unpublished hold x rfl f⟩
    · refine Spec.pure ?_
      rintro ⟨w, s⟩ ⟨rfl, hs⟩
      exact ⟨_, hs, .connected hold x rfl⟩

/-- After a ping, the events are subscribed to. -/
theorem subscribe_strode :
    Spec (Stands (holding .idle (some x)) (Since j [.began (.ping x.client)]))
      (subscribe h.recorded c x.client x.queue)
      (fun next m => Strode c j (holding .idle (some x)) (.ok next)
        { m.watcher with phase := next } m.outside)
      (failing fun f m => Strode c j (holding .idle (some x)) (.error f) m.watcher m.outside) := by
  let call : Call := .addListener x.client x.queue
  have settled : Spec
      (Stands (holding .idle (some x)) (Since j [.began (.ping x.client), .began call]))
      (do
        Watcher.change fun w => { w with subscribed := true }
        Watcher.report h.recorded (.plain "INFO" "Watching docker events")
        return Phase.watching)
      (fun next m => Strode c j (holding .idle (some x)) (.ok next)
        { m.watcher with phase := next } m.outside)
      (failing fun f m => Strode c j (holding .idle (some x)) (.error f) m.watcher m.outside) := by
    refine Spec.bind change_spec fun _ => ?_
    refine Spec.bind (report_since hh _ _).safe fun _ => Spec.pure ?_
    rintro ⟨w, s⟩ ⟨rfl, hs⟩
    exact ⟨_, hs, .subscribed x⟩
  have added := Since.call (j := j) (l := [.began (.ping x.client)]) call
    (fun _ => .done call) (hh.addListener x.client x.queue)
    (q := fun _ => [.began (.ping x.client), .began call])
    (e := fun f => [.began (.ping x.client), .began call] ++ [.failed call f].filter Deed.isSalient)
    (fun _ => rfl) fun _ => rfl
  refine Spec.bind (call_spec added).attempt fun r => ?_
  match r with
  | .ok () => exact settled
  | .error f =>
    cases f with
    | alreadySubscribed _ =>
      -- this is no setback, and nothing of it is salient
      exact settled
    | _ =>
      refine Spec.bind (report_since hh _ _).safe fun _ => ?_
      refine Spec.bind (backOff_since hh c _).safe fun _ => Spec.pure ?_
      rintro ⟨w, s⟩ ⟨rfl, hs⟩
      exact ⟨_, hs, .unsubscribed x _ rfl⟩

/-- With a client that is not listened to, a ping comes first. -/
theorem fromIdle_strode :
    Spec (Stands (holding .idle (some x)) (Since j [])) (fromIdle h.recorded c)
      (fun next m => Strode c j (holding .idle (some x)) (.ok next)
        { m.watcher with phase := next } m.outside)
      (failing fun f m => Strode c j (holding .idle (some x)) (.error f) m.watcher m.outside) := by
  refine state_bind ?_
  refine Spec.bind (ping_since hh c .idle x).safe fun alive => ?_
  cases alive with
  | true => exact subscribe_strode hh c x
  | false =>
    refine Spec.pure ?_
    rintro ⟨w, s⟩ ⟨f, rfl, hs⟩
    exact ⟨_, hs, .lost .idle (by simp) x f⟩

/-- What came out of the mailbox decides whether there is a pass. -/
theorem receive_strode (item : Option (Option Event)) :
    Spec (Stands (holding .watching (some x))
        (Since j ([.began (.ping x.client)] ++ [.took item].filter Deed.isSalient)))
      (receive h.recorded c item)
      (fun next m => Strode c j (holding .watching (some x)) (.ok next)
        { m.watcher with phase := next } m.outside)
      (failing fun f m =>
        Strode c j (holding .watching (some x)) (.error f) m.watcher m.outside) := by
  match item with
  | none =>
    refine Spec.pure ?_
    rintro ⟨w, s⟩ ⟨rfl, hs⟩
    exact ⟨_, hs, .unmoved x⟩
  | some none =>
    refine Spec.bind (report_since hh _ _).safe fun _ => ?_
    refine Spec.bind (dropClient_since hh .watching (some x)).safe fun _ => Spec.pure ?_
    rintro ⟨w, s⟩ ⟨rfl, hs⟩
    exact ⟨_, hs, .closed x⟩
  | some (some e) =>
    -- an event that cannot be read stops the transition, and is lost
    have unread {f : Fault} (hf : f.isFailure = true) : ∀ m : Machine (Recorded σ),
        Stands (holding .watching (some x)) (Since j [.began (.ping x.client)]) m →
        failing (fun f m => Strode c j (holding .watching (some x)) (.error f) m.watcher m.outside)
          f m := by
      rintro ⟨w, s⟩ ⟨rfl, hs⟩
      exact ⟨hf, _, hs, .stopped x f⟩
    cases hs : e.status.isOneOf Event.lifecycle with
    | error f => exact Spec.ofExcept_fail hs (unread (Json.isOneOf_ordinary _ _ f hs))
    | ok isLifecycle =>
      refine Spec.ofExcept_bind hs ?_
      cases isLifecycle with
      | false =>
        refine Spec.pure ?_
        rintro ⟨w, s⟩ ⟨rfl, hs⟩
        exact ⟨_, hs, .unmoved x⟩
      | true =>
        cases hid : e.containerId.short with
        | error f => exact Spec.ofExcept_fail rfl (unread (Json.short_ordinary _ f hid))
        | ok short =>
          refine Spec.ofExcept_bind rfl ?_
          refine Spec.bind (report_since hh _ _).safe fun _ => ?_
          refine Spec.bind (R := fun _ => Stands (holding .watching (some x))
            (Since j [.began (.ping x.client), .began (.list x.client)])) ?_ fun _ => ?_
          · refine (refresh_since hh c .watching x).post (fun _ _ hm => hm) ?_
            rintro f ⟨w, s⟩ ⟨hf, rfl, hs⟩
            exact ⟨hf, _, hs, .unheeded x f⟩
          · refine Spec.pure ?_
            rintro ⟨w, s⟩ ⟨rfl, hs⟩
            exact ⟨_, hs, .refreshed x⟩

/-- With a client that is listened to, a ping comes first. -/
theorem fromWatching_strode :
    Spec (Stands (holding .watching (some x)) (Since j [])) (fromWatching h.recorded c)
      (fun next m => Strode c j (holding .watching (some x)) (.ok next)
        { m.watcher with phase := next } m.outside)
      (failing fun f m =>
        Strode c j (holding .watching (some x)) (.error f) m.watcher m.outside) := by
  refine state_bind ?_
  refine Spec.bind (ping_since hh c .watching x).safe fun alive => ?_
  cases alive with
  | true =>
    have taken := Since.call (j := j) (l := [.began (.ping x.client)]) (.take x.queue)
      .took (hh.take x.queue c.pingInterval)
      (q := fun item => [.began (.ping x.client)] ++ [.took item].filter Deed.isSalient)
      (fun _ => rfl) fun _ => rfl
    refine Spec.bind (R := fun item => Stands (holding .watching (some x))
      (Since j ([.began (.ping x.client)] ++ [.took item].filter Deed.isSalient))) ?_
      fun item => receive_strode hh c x item
    refine (call_spec taken).post (fun _ _ hm => hm) ?_
    rintro f ⟨w, s⟩ ⟨hf, rfl, hs⟩
    exact ⟨hf, _, hs, .stopped x f⟩
  | false =>
    refine Spec.pure ?_
    rintro ⟨w, s⟩ ⟨f, rfl, hs⟩
    exact ⟨_, hs, .lost .watching (by simp) x f⟩

/-- **Every transition of a watcher whose connection goes with its phase is a stride.** -/
theorem step_strode {hold : Option Hold} (hfit : phase.Fits hold) :
    Spec (Stands (holding phase hold) (Since j [])) (step h.recorded c)
      (fun next m => Strode c j (holding phase hold) (.ok next) m.watcher m.outside)
      (failing fun f m => Strode c j (holding phase hold) (.error f) m.watcher m.outside) := by
  have finish (next : Phase) :
      Spec (fun m : Machine (Recorded σ) => Strode c j (holding phase hold) (.ok next)
          { m.watcher with phase := next } m.outside)
        (do
          Watcher.change fun w => { w with phase := next }
          return next)
        (fun next m => Strode c j (holding phase hold) (.ok next) m.watcher m.outside)
        (failing fun f m => Strode c j (holding phase hold) (.error f) m.watcher m.outside) :=
    fun _ hm => hm
  refine state_bind ?_
  cases phase with
  | disconnected => exact Spec.bind (fromDisconnected_strode hh c hold) finish
  | idle =>
    obtain ⟨x, rfl, -⟩ := hfit
    exact Spec.bind (fromIdle_strode hh c x) finish
  | watching =>
    obtain ⟨x, rfl, -⟩ := hfit
    exact Spec.bind (fromWatching_strode hh c x) finish

end

end HostRouting.Watcher
