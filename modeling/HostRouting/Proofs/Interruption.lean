import HostRouting.Proofs.Startup

/-!
# A watcher that is interrupted

The user may interrupt the command line program during any call of the watcher. No handler of
failures recovers from that: the run is left at once, and what the watcher held then it holds still.
The run is left as after a request to stop only if there was nothing to give up.
-/

namespace HostRouting

open Act (Spec Keeps Leaves failing never recovered)

/-! ## Passes -/

namespace Host

variable {σ : Type} {h : Host σ} {client : ClientId} {P : Surroundings σ → Prop}

/-- A pass leaves what its calls leave. -/
theorem enumerate_leaves (hlist : Leaves P (h.list client))
    (hinspect : ∀ id, Leaves P (h.inspect client id)) (hreport : ∀ e, Leaves P (h.report e))
    (ports : List String) (workers : Workers) : Leaves P (h.enumerate ports workers client) := by
  have inspectOne (id : Json) : Leaves P (h.inspectOne client id) := by
    refine (hinspect id).attempt.bind fun r => ?_
    cases r with
    | ok container => exact .pure _
    | error f => exact (Leaves.ofExcept _).bind fun short => (hreport _).bind fun _ => .pure _
  have inspectAll (size : Nat) (ids : List Json) : Leaves P (h.inspectAll client size ids) := by
    fun_induction Host.inspectAll h client size ids with
    | case1 => exact .pure _
    | case2 id rest ih =>
      refine (Leaves.mapM _ fun id => (inspectOne id).result).bind fun now => ?_
      exact ih.bind fun later => .pure _
  have resolveOne (container : Container) : Leaves P (h.resolveOne ports container) := by
    refine (Leaves.ofExcept _).bind fun r => (Leaves.ofExcept _).bind fun entry? => ?_
    cases entry? with
    | none => exact .pure _
    | some e => exact (hreport e).bind fun _ => .pure _
  have assemble (containers : List Container) (seen : List String) :
      Leaves P (h.assemble ports seen containers) := by
    induction containers generalizing seen with
    | nil => exact .pure _
    | cons container containers ih =>
      rw [Host.assemble]
      refine (resolveOne container).bind fun route? => ?_
      cases route? with
      | none => exact ih seen
      | some r =>
        by_cases hr : r.host ∈ seen
        · simp only [if_pos hr]
          exact (Leaves.ofExcept _).bind fun e => (hreport e).bind fun _ => ih seen
        · simp only [if_neg hr]
          exact (ih _).bind fun rs => .pure _
  refine hlist.bind fun ids => (inspectAll _ ids).bind fun results => ?_
  refine (Leaves.mapM _ fun r => .ofExcept r).bind fun found => ?_
  exact (assemble _ _).bind fun routes => .pure _

end Host

/-- A host whose calls may fail and may be interrupted, but for a few: what is called while a client is
given up is not interrupted, the log takes every entry, and a wait does not fail. -/
structure Host.Interruptible {σ : Type} (h : Host σ) : Prop where
  sleep : ∀ t, Spec (fun _ => True) (h.sleep t) (fun _ _ => True) fun f _ => f.isFailure = false
  removeListener : ∀ c q, Keeps (fun _ => True) (h.removeListener c q)
  close : ∀ c, Keeps (fun _ => True) (h.close c)
  report : ∀ e, Spec (fun _ => True) (h.report e) (fun _ _ => True) never

namespace Watcher

/-! ## Clients and listeners in the journal -/

/-- The clients in hand are not closed, each of the others is closed once, and a listener was taken off
only if its client is closed, or is one of those in `loose`. -/
structure Tended (held loose : List ClientId) (j : List Deed) : Prop where
  neat : Neat held j
  removed : ∀ c q, .began (.removeListener c q) ∈ j → c ∈ closings j ∨ c ∈ loose

namespace Tended

variable {held loose loose' : List ClientId} {j : List Deed} {call : Call} {d : Deed} {c : ClientId}

/-- Nothing was done yet. -/
theorem nil : Tended [] [] [] where
  neat := .nil
  removed := by simp

/-- More clients may be without their listeners. -/
theorem loosen (h : Tended held [] j) (loose : List ClientId) : Tended held loose j where
  neat := h.neat
  removed c q hmem := (h.removed c q hmem).imp_right nofun

/-- A call and its end. -/
theorem append (h : Tended held loose j) {held' : List ClientId}
    (hneat : Neat held' (j ++ [.began call, d])) (hd : d.used? = none)
    (hloose : ∀ c ∈ loose, c ∈ closings [.began call, d] ∨ c ∈ loose')
    (hcall : ∀ c q, call = .removeListener c q → c ∈ loose') :
    Tended held' loose' (j ++ [.began call, d]) where
  neat := hneat
  removed c q hmem := by
    rw [closings_append, List.mem_append, or_assoc]
    rcases List.mem_append.1 hmem with hmem | hmem
    · exact (h.removed c q hmem).imp_right (hloose c)
    · simp only [List.mem_cons, Deed.began.injEq, List.not_mem_nil, or_false] at hmem
      rcases hmem with hcallis | rfl
      · exact .inr (.inr (hcall c q hcallis.symm))
      · cases hd

/-- A call that makes use of clients in hand only. -/
theorem made (h : Tended held loose j) (hw : call.Within held)
    (hcall : ∀ c q, call ≠ .removeListener c q)
    (hd : d.connected? = none ∧ d.closed? = none ∧ d.used? = none) :
    Tended held loose (j ++ [.began call, d]) :=
  h.append (hw.ended h.neat hd) hd.2.2 (fun _ hc => .inr hc) fun c q hcq => absurd hcq (hcall c q)

/-- A client is taken in hand. -/
theorem connected (h : Tended held loose j) (new : ClientId) :
    Tended (new :: held) loose (j ++ [.began .connect, .connected new]) := by
  have hw : Call.connect.Within held := ⟨by simp, by simp [Call.used?]⟩
  refine h.append ?_ rfl (fun _ hc => .inr hc) (by simp)
  have := (hw.began h.neat).concat_connected new
  rwa [List.append_assoc] at this

/-- The listener of a client in hand is taken off. -/
theorem removed_listener (h : Tended held [] j) (hc : c ∈ held) (q : QueueId)
    (hd : d.connected? = none ∧ d.closed? = none ∧ d.used? = none) :
    Tended held [c] (j ++ [.began (.removeListener c q), d]) := by
  have hw : (Call.removeListener c q).Within held := by
    refine ⟨by simp, fun b hb => ?_⟩
    cases hb
    exact hc
  refine h.append (hw.ended h.neat hd) hd.2.2 nofun ?_
  rintro b p ⟨⟩
  exact List.mem_singleton_self c

/-- A client in hand is closed. -/
theorem close (h : Tended held loose j) (hc : c ∈ held) (hloose : ∀ b ∈ loose, b = c)
    (hd : d.connected? = none ∧ d.closed? = none ∧ d.used? = none) :
    Tended (held.erase c) [] (j ++ [.began (.close c), d]) := by
  refine h.append ?_ hd.2.2 (fun b hb => .inl ?_) (by simp)
  · have := (h.neat.concat_close hc).concat hd.1 hd.2.1 fun b hb => by simp [hd.2.2] at hb
    rwa [List.append_assoc] at this
  · rw [hloose b hb]
    simp [closings, Deed.closed?]

end Tended

/-! ## Calls -/

section

variable {σ α : Type} {w : Watcher} {held loose : List ClientId} {call : Call} {answer : α → Deed}

/-- The watcher is in a state, with clients in hand. -/
def Holds (w : Watcher) (held loose : List ClientId) : Machine (Recorded σ) → Prop :=
  Stands w fun s => Tended held loose s.rest.journal

/-- The last that the journal tells is that a call failed. -/
def EndsWith (call : Call) (f : Fault) (m : Machine (Recorded σ)) : Prop :=
  m.outside.rest.journal.getLast? = some (.failed call f)

/-- A call of the watcher, whatever becomes of it. -/
theorem call_holds {act : Act (Surroundings σ) α} {F : Fault → Prop}
    (hact : Spec (fun _ => True) act (fun _ _ => True) fun f _ => F f)
    {held' : α → List ClientId} {held'' loose' : List ClientId}
    (hok : ∀ a j, Tended held loose j → Tended (held' a) loose' (j ++ [.began call, answer a]))
    (herror : ∀ f j, Tended held loose j → Tended held'' loose' (j ++ [.began call, .failed call f])) :
    Spec (Holds w held loose) (Watcher.call (act.recorded call answer))
      (fun a => Holds w (held' a) loose')
      (fun f m => F f ∧ Holds w held'' loose' m ∧ EndsWith call f m) := by
  have recorded := Act.Spec.recorded (P := Tended held loose) hact
    (Q := fun a => Tended (held' a) loose')
    (E := fun f j => F f ∧ Tended held'' loose' j ∧ j.getLast? = some (.failed call f)) hok
    fun f j hf hj => ⟨hf, herror f j hj, by simp⟩
  refine recorded.within (fun _ hm => hm.2) (fun _ _ _ hm hs => ⟨hm.1, hs⟩) ?_
  rintro f m s hm ⟨hf, hs, hlast⟩
  exact ⟨hf, ⟨hm.1, hs⟩, hlast⟩

/-- A call that makes use of clients in hand only. -/
theorem call_leaves {act : Act (Surroundings σ) α} {F : Fault → Prop} (hw : call.Within held)
    (hcall : ∀ c q, call ≠ .removeListener c q)
    (hact : Spec (fun _ => True) act (fun _ _ => True) fun f _ => F f)
    (hanswer : ∀ a, (answer a).connected? = none ∧ (answer a).closed? = none ∧
      (answer a).used? = none) :
    Spec (Holds w held loose) (Watcher.call (act.recorded call answer))
      (fun _ => Holds w held loose)
      (fun f m => F f ∧ Holds w held loose m ∧ EndsWith call f m) :=
  call_holds hact (fun a _ hj => hj.made hw hcall (hanswer a)) fun _ _ hj =>
    hj.made hw hcall ⟨rfl, rfl, rfl⟩

/-- Nothing is known of how an act may end. -/
theorem any_outcome (act : Act (Surroundings σ) α) :
    Spec (fun _ => True) act (fun _ _ => True) fun _ _ => True :=
  Spec.intro (fun _ _ _ _ _ => trivial) fun _ _ _ _ _ => trivial

/-- The journal after such a call. -/
theorem recorded_leaves (act : Act (Surroundings σ) α) (hw : call.Within held)
    (hcall : ∀ c q, call ≠ .removeListener c q)
    (hanswer : ∀ a, (answer a).connected? = none ∧ (answer a).closed? = none ∧
      (answer a).used? = none) :
    Leaves (fun s => Tended held loose s.rest.journal) (act.recorded call answer) :=
  Act.Spec.recorded (F := fun _ => True) (P := Tended held loose) (any_outcome act)
    (fun _ _ hj => hj.made hw hcall (hanswer _)) fun _ _ _ hj => hj.made hw hcall ⟨rfl, rfl, rfl⟩

/-- A call that leaves the surroundings as they are said to be. -/
theorem call_of_leaves {P : Surroundings (Recorded σ) → Prop}
    {act : Act (Surroundings (Recorded σ)) α} (hact : Leaves P act) :
    Leaves (Stands w P) (Watcher.call act) :=
  hact.within (fun _ hm => hm.2) (fun _ _ _ hm hs => ⟨hm.1, hs⟩) fun _ _ _ hm hs => ⟨hm.1, hs⟩

end

/-! ## The parts of a transition -/

section

variable {σ : Type} {h : Host σ}

/-- The watcher is in a phase with a connection, while something is going on. -/
def Keeping (phase : Phase) (hold : Option Hold) (a : Activity) : Machine (Recorded σ) → Prop :=
  Stands (holding phase hold) fun s => Tended (inHand hold a) [] s.rest.journal

/-- An interrupt that finds the watcher without a client came while it tried to connect or waited. -/
def Idling (f : Fault) (m : Machine (Recorded σ)) : Prop :=
  f.isFailure = false → m.watcher.client? = none →
    EndsWith .connect f m ∨ ∃ t, EndsWith (.sleep t) f m

/-- A fault came up in a phase. -/
def Struck (phase : Phase) (f : Fault) (m : Machine (Recorded σ)) : Prop :=
  (∃ hold, Keeping phase hold .calm m) ∧ Idling f m

/-- Some call to or beside the client in hand. -/
theorem made_leaves {α : Type} (phase : Phase) (x : Hold) (act : Act (Surroundings σ) α) {call : Call}
    {answer : α → Deed} (hw : call.Within (inHand (some x) .calm))
    (hcall : ∀ c q, call ≠ .removeListener c q)
    (hanswer : ∀ a, (answer a).connected? = none ∧ (answer a).closed? = none ∧
      (answer a).used? = none) :
    Leaves (Keeping phase (some x) .calm) (Watcher.call (act.recorded call answer)) :=
  call_of_leaves (recorded_leaves act hw hcall hanswer)

/-- With a client, there is nothing more to say about a fault. -/
theorem struck_of_client {phase : Phase} {x : Hold} {f : Fault} {m : Machine (Recorded σ)}
    (hm : Keeping phase (some x) .calm m) : Struck phase f m := by
  refine ⟨⟨some x, hm⟩, fun _ hclient => ?_⟩
  rw [hm.1] at hclient
  cases hclient

variable (hh : h.Interruptible) (c : WatchConfig) (phase : Phase) (hold : Option Hold) (x : Hold)
  {w : Watcher} {held loose : List ClientId} {a : Activity}

include hh

theorem report_tended (held loose : List ClientId) (e : Log.Entry) :
    Spec (fun s => Tended held loose s.rest.journal) (h.recorded.report e)
      (fun _ s => Tended held loose s.rest.journal) never :=
  Act.Spec.recorded_never (P := Tended held loose) (Q := fun _ => Tended held loose) (hh.report e)
    fun _ _ hj => hj.made ⟨by simp, by simp [Call.used?]⟩ (by simp) ⟨rfl, rfl, rfl⟩

theorem report_holds (e : Log.Entry) :
    Spec (Holds w held loose) (report h.recorded e) (fun _ => Holds w held loose) never :=
  call_safe (report_tended hh held loose e)

/-- A wait may be interrupted. -/
theorem backOff_keeping : Spec (Keeping phase hold .calm) (backOff h.recorded c)
    (fun _ => Keeping phase hold .calm) (fun f m => f.isFailure = false ∧ Struck phase f m) := by
  have hw : (Call.sleep c.reconnectInterval).Within (inHand hold .calm) :=
    ⟨by simp, by simp [Call.used?]⟩
  refine (call_leaves hw (by simp) (hh.sleep _) fun _ => ⟨rfl, rfl, rfl⟩).post (fun _ _ hm => hm) ?_
  rintro f m ⟨hf, hm, hlast⟩
  exact ⟨hf, ⟨hold, hm⟩, fun _ _ => .inr ⟨_, hlast⟩⟩

/-- To give up a connection is not interrupted. -/
theorem dropClient_keeping : Spec (Keeping phase hold a) (dropClient h.recorded)
    (fun _ => Keeping phase none a) never := by
  -- between the two calls the client in hand is without its listener
  refine dropClient_drops (R := fun s =>
    Tended (inHand hold a) (hold.map Hold.client).toList s.rest.journal) phase hold ?_
    (fun _ s hs => hs.loosen _) ?_ ?_ (report_tended hh _ _) (report_tended hh _ _)
  · rintro x rfl -
    exact Act.Spec.recorded_failing (P := Tended (inHand (some x) a) [])
      (Q := fun _ => Tended (inHand (some x) a) [x.client])
      (E := fun _ => Tended (inHand (some x) a) [x.client]) (hh.removeListener x.client x.queue)
      (fun _ _ hj => hj.removed_listener (mem_inHand x a) x.queue ⟨rfl, rfl, rfl⟩)
      fun _ _ hj => hj.removed_listener (mem_inHand x a) x.queue ⟨rfl, rfl, rfl⟩
  · rintro x rfl
    have closed {d : Deed} {j : List Deed}
        (hd : d.connected? = none ∧ d.closed? = none ∧ d.used? = none)
        (hj : Tended (inHand (some x) a) [x.client] j) :
        Tended (inHand none a) [] (j ++ [.began (.close x.client), d]) := by
      rw [← inHand_erase x a]
      exact hj.close (mem_inHand x a) (fun b hb => List.mem_singleton.1 hb) hd
    exact Act.Spec.recorded_failing (P := Tended (inHand (some x) a) [x.client])
      (Q := fun _ => Tended (inHand none a) []) (E := fun _ => Tended (inHand none a) [])
      (hh.close x.client) (fun _ _ hj => closed ⟨rfl, rfl, rfl⟩ hj)
      fun _ _ hj => closed ⟨rfl, rfl, rfl⟩ hj
  · rintro rfl s hs
    exact hs

/-- A pass is left with the client in hand, however it ends. -/
theorem refresh_leaves : Leaves (Keeping phase (some x) .calm) (refresh h.recorded c) := by
  have reported (e : Log.Entry) : Leaves (Keeping phase (some x) .calm) (report h.recorded e) :=
    (report_holds hh e).safe
  refine state_bind ?_
  have surveyed : Leaves (fun s => Tended [x.client] [] s.rest.journal)
      (h.recorded.enumerate c.ports c.workers x.client) := by
    refine Host.enumerate_leaves ?_ (fun id => ?_) (fun e => ?_) _ _
    · exact recorded_leaves _ ⟨by simp, by simp [Call.used?]⟩ (by simp) fun _ => ⟨rfl, rfl, rfl⟩
    · exact recorded_leaves _ ⟨by simp, by simp [Call.used?]⟩ (by simp) fun _ => ⟨rfl, rfl, rfl⟩
    · exact recorded_leaves _ ⟨by simp, by simp [Call.used?]⟩ (by simp) fun _ => ⟨rfl, rfl, rfl⟩
  refine Leaves.bind (call_of_leaves surveyed).attempt fun r => ?_
  cases r with
  | error f => exact (reported _).bind fun _ => .pure _
  | ok t =>
    refine (reported _).bind fun _ => Leaves.bind (call_of_leaves ?_) fun _ => .pure _
    exact recorded_leaves _ ⟨by simp, by simp [Call.used?]⟩ (by simp) fun _ => ⟨rfl, rfl, rfl⟩

/-- A ping that fails costs the connection, and a wait. -/
theorem ping_keeping : Spec (Keeping phase (some x) .calm) (ping h.recorded c x.client)
    (fun alive => Keeping phase (if alive then some x else none) .calm) (Struck phase) := by
  have pinged : Leaves (Keeping phase (some x) .calm) (Watcher.call (h.recorded.ping x.client)) :=
    made_leaves phase x (h.ping x.client) ⟨by simp, by simp [Call.used?, inHand]⟩ (by simp)
      fun _ => ⟨rfl, rfl, rfl⟩
  refine Spec.bind (pinged.attempt.post (fun _ _ hm => hm) fun _ _ => struck_of_client) fun r => ?_
  cases r with
  | ok u => exact Spec.pure fun _ hm => hm
  | error f =>
    refine Spec.bind (report_holds hh _).safe fun _ => ?_
    refine Spec.bind (dropClient_keeping hh phase (some x)).safe fun _ => ?_
    refine Spec.bind ((backOff_keeping hh c phase none).post (fun _ _ hm => hm) ?_) fun _ => ?_
    · exact fun f m hm => hm.2
    · exact Spec.pure fun _ hm => hm

/-! ## The transitions -/

/-- A transition is over, or it was stopped. -/
def Steps (phase : Phase) (act : Act (Machine (Recorded σ)) Phase) : Prop :=
  ∀ hold, Spec (Keeping phase hold .calm) act (fun _ m => ∃ hold, Keeping phase hold .calm m)
    (Struck phase)

theorem fromDisconnected_steps : Steps .disconnected (fromDisconnected h.recorded c) := by
  intro hold
  have dialled : Spec (Keeping .disconnected hold .calm) (Watcher.call h.recorded.connect)
      (fun new => Keeping .disconnected hold (.arrived new))
      (fun f m => True ∧ Keeping .disconnected hold .calm m ∧ EndsWith .connect f m) :=
    call_holds (any_outcome h.connect) (fun new j hj => hj.connected new) fun f j hj =>
      hj.made ⟨by simp, by simp [Call.used?]⟩ (by simp) ⟨rfl, rfl, rfl⟩
  refine Spec.bind (dialled.attempt_any.post (fun _ _ hm => hm) ?_) fun r => ?_
  · rintro f m ⟨-, hm, hlast⟩
    exact ⟨⟨hold, hm⟩, fun _ _ => .inl hlast⟩
  · cases r with
    | error f =>
      refine Spec.bind (R := fun _ => Keeping .disconnected hold .calm) ?_ fun _ => ?_
      · exact (report_holds hh _).safe.pre fun m hm => hm.2.1
      · refine Spec.bind ((backOff_keeping hh c _ hold).post (fun _ _ hm => hm) ?_) fun _ => ?_
        · exact fun f m hm => hm.2
        · exact Spec.pure fun m hm => ⟨hold, hm⟩
    | ok client =>
      refine Spec.bind (dropClient_keeping hh .disconnected hold).safe fun _ => ?_
      -- the mailbox is no matter of the journal
      have opened : Spec (fun s : Surroundings (Recorded σ) => Tended [client] [] s.rest.journal)
          (Surroundings.openMailbox c.queueSize) (fun _ s => Tended [client] [] s.rest.journal) never :=
        fun _ hs => hs
      refine Spec.bind (call_safe opened).safe fun queue => ?_
      refine Spec.bind change_spec fun _ => ?_
      let x : Hold := { client, queue }
      refine Spec.bind (R := fun _ => Keeping .disconnected (some x) .calm) ?_ fun _ => ?_
      · exact (report_holds hh _).safe
      · refine Spec.bind ((refresh_leaves hh c .disconnected x).post (fun _ _ hm => hm) ?_) fun _ => ?_
        · exact fun _ _ => struck_of_client
        · exact Spec.pure fun m hm => ⟨some x, hm⟩

theorem subscribe_steps : Spec (Keeping .idle (some x) .calm)
    (subscribe h.recorded c x.client x.queue) (fun _ m => ∃ hold, Keeping .idle hold .calm m)
    (Struck .idle) := by
  have listening : Spec (Keeping .idle (some x) .calm)
      (do
        Watcher.change fun w => { w with subscribed := true }
        Watcher.report h.recorded (.plain "INFO" "Watching docker events")
        return Phase.watching)
      (fun _ m => ∃ hold, Keeping .idle hold .calm m) (Struck .idle) := by
    refine Spec.bind (R := fun _ => Keeping .idle (some x.listening) .calm) change_spec fun _ => ?_
    refine Spec.bind (report_holds hh _).safe fun _ => ?_
    exact Spec.pure fun m hm => ⟨some x.listening, hm⟩
  have added : Leaves (Keeping .idle (some x) .calm)
      (Watcher.call (h.recorded.addListener x.client x.queue)) :=
    made_leaves .idle x (h.addListener x.client x.queue) ⟨by simp, by simp [Call.used?, inHand]⟩
      (by simp) fun _ => ⟨rfl, rfl, rfl⟩
  refine Spec.bind (added.attempt.post (fun _ _ hm => hm) fun _ _ => struck_of_client) fun r => ?_
  match r with
  | .ok () => exact listening
  | .error f =>
    cases f with
    | alreadySubscribed _ => exact listening
    | _ =>
      refine Spec.bind (report_holds hh _).safe fun _ => ?_
      refine Spec.bind ((backOff_keeping hh c _ (some x)).post (fun _ _ hm => hm) ?_) fun _ => ?_
      · exact fun f m hm => hm.2
      · exact Spec.pure fun m hm => ⟨some x, hm⟩

theorem fromIdle_steps : Steps .idle (fromIdle h.recorded c) := by
  intro hold
  refine state_bind ?_
  cases hold with
  | none => exact Spec.pure fun m hm => ⟨none, hm⟩
  | some x =>
    refine Spec.bind (ping_keeping hh c .idle x) fun alive => ?_
    cases alive with
    | true => exact subscribe_steps hh c x
    | false => exact Spec.pure fun m hm => ⟨none, hm⟩

theorem receive_steps (item : Option (Option Event)) : Spec (Keeping .watching (some x) .calm)
    (receive h.recorded c item) (fun _ m => ∃ hold, Keeping .watching hold .calm m)
    (Struck .watching) := by
  match item with
  | none => exact Spec.pure fun m hm => ⟨some x, hm⟩
  | some none =>
    refine Spec.bind (report_holds hh _).safe fun _ => ?_
    refine Spec.bind (dropClient_keeping hh .watching (some x)).safe fun _ => ?_
    exact Spec.pure fun m hm => ⟨none, hm⟩
  | some (some e) =>
    have computed {α : Type} (r : Except Fault α) : Spec (Keeping .watching (some x) .calm)
        (Act.ofExcept r : Act (Machine (Recorded σ)) α) (fun _ => Keeping .watching (some x) .calm)
        (Struck .watching) :=
      (Leaves.ofExcept r).post (fun _ _ hm => hm) fun _ _ => struck_of_client
    refine Spec.bind (computed _) fun isLifecycle => ?_
    cases isLifecycle with
    | false => exact Spec.pure fun m hm => ⟨some x, hm⟩
    | true =>
      refine Spec.bind (computed _) fun short => ?_
      refine Spec.bind (report_holds hh _).safe fun _ => ?_
      refine Spec.bind ((refresh_leaves hh c .watching x).post (fun _ _ hm => hm) ?_) fun _ => ?_
      · exact fun _ _ => struck_of_client
      · exact Spec.pure fun m hm => ⟨some x, hm⟩

theorem fromWatching_steps : Steps .watching (fromWatching h.recorded c) := by
  intro hold
  refine state_bind ?_
  cases hold with
  | none => exact Spec.pure fun m hm => ⟨none, hm⟩
  | some x =>
    refine Spec.bind (ping_keeping hh c .watching x) fun alive => ?_
    cases alive with
    | false => exact Spec.pure fun m hm => ⟨none, hm⟩
    | true =>
      have taken : Leaves (Keeping .watching (some x) .calm)
          (Watcher.call (h.recorded.take x.queue c.pingInterval)) :=
        made_leaves .watching x (h.take x.queue c.pingInterval) ⟨by simp, by simp [Call.used?]⟩
          (by simp) fun _ => ⟨rfl, rfl, rfl⟩
      refine Spec.bind (taken.post (fun _ _ hm => hm) fun _ _ => struck_of_client) fun item => ?_
      exact receive_steps hh c x item

/-! ## Runs -/

/-- Every client but the one that the watcher holds is closed, whatever the phase. -/
def Upright (m : Machine (Recorded σ)) : Prop := ∃ phase hold, Keeping phase hold .calm m

/-- An interrupt found the watcher upright. -/
def Interrupted (f : Fault) (m : Machine (Recorded σ)) : Prop :=
  f.isFailure = false ∧ Upright m ∧ Idling f m

/-- A transition leaves the watcher upright, also if it is interrupted. -/
theorem step_upright : Spec Upright (step h.recorded c) (fun _ => Upright)
    (fun f m => Upright m ∧ Idling f m) := by
  have finish (phase next : Phase) :
      Spec (fun m : Machine (Recorded σ) => ∃ hold, Keeping phase hold .calm m)
        (do
          Watcher.change fun w => { w with phase := next }
          return next)
        (fun _ => Upright) (fun f m => Upright m ∧ Idling f m) := by
    rintro m ⟨hold, hw, hs⟩
    refine ⟨next, hold, ?_, hs⟩
    show { m.watcher with phase := next } = _
    rw [hw]
    rfl
  have struck (phase : Phase) (f : Fault) (m : Machine (Recorded σ)) (hm : Struck phase f m) :
      Upright m ∧ Idling f m :=
    ⟨⟨phase, hm.1⟩, hm.2⟩
  rintro m ⟨phase, hold, hm⟩
  have hstep : Spec (Keeping phase hold .calm) (step h.recorded c) (fun _ => Upright)
      (fun f m => Upright m ∧ Idling f m) := by
    refine state_bind ?_
    cases phase with
    | disconnected =>
      exact Spec.bind ((fromDisconnected_steps hh c hold).post (fun _ _ hm => hm) (struck _)) (finish _)
    | idle => exact Spec.bind ((fromIdle_steps hh c hold).post (fun _ _ hm => hm) (struck _)) (finish _)
    | watching =>
      exact Spec.bind ((fromWatching_steps hh c hold).post (fun _ _ hm => hm) (struck _)) (finish _)
  exact hstep m hm

/-- Only an interrupt stops a transition whose failure is reported. -/
theorem round_upright : Spec Upright (round h.recorded c) (fun _ => Upright) Interrupted := by
  refine Spec.bind (step_upright hh c).attempt_sorted fun r => ?_
  cases r with
  | ok phase => exact Spec.pure fun _ hm => hm
  | error f =>
    rintro m ⟨⟨phase, hold, hm⟩, -⟩
    have amends : Spec (Keeping phase hold .calm)
        (do reportFault h.recorded "ERROR" "Event watcher step failed" f
            backOff h.recorded c) (fun _ => Upright) Interrupted := by
      refine Spec.bind (report_holds hh _).safe fun _ => ?_
      refine (backOff_keeping hh c phase hold).post (fun _ m hm => ⟨phase, hold, hm⟩) ?_
      exact fun f m hm => ⟨hm.1, ⟨phase, hm.2.1⟩, hm.2.2⟩
    exact amends m hm

/-- So does nothing else stop the transitions of a run. -/
theorem loop_upright (rounds : Nat) :
    Spec Upright (loop h.recorded c rounds) (fun _ => Upright) Interrupted := by
  induction rounds with
  | zero => exact Spec.gets fun _ hm => hm
  | succ n ih =>
    refine Spec.bind (R := fun _ => Upright) (Spec.read fun _ hm => hm) fun m => ?_
    cases m.outside.control.stopRequested with
    | true => exact Spec.pure fun _ hm => hm
    | false => exact Spec.bind (round_upright hh c) fun _ => ih

/-- What a run leaves that was not interrupted: nothing, if it came to its end. -/
def Left (stopped : Bool) (m : Machine (Recorded σ)) : Prop :=
  if stopped then Keeping .disconnected none .calm m else Upright m

/-- **A run is left by an interrupt only. It holds then what it held when the interrupt came, and that
is nothing only if it tried to connect or waited.** -/
theorem run_upright (rounds : Nat) :
    Spec Upright (run h.recorded c rounds) Left Interrupted := by
  have begun : Spec Upright (report h.recorded opening) (fun _ => Upright) Interrupted := by
    rintro m ⟨phase, hold, hm⟩
    exact ((report_holds hh opening).safe.post (fun _ m hm => ⟨phase, hold, hm⟩) fun _ _ hm => hm) m hm
  have concluded : Spec Upright (conclude h.recorded) (fun _ => Left true) Interrupted := by
    rintro m ⟨phase, hold, hm⟩
    have conclusion : Spec (Keeping phase hold .calm) (conclude h.recorded) (fun _ => Left true)
        Interrupted := by
      refine Spec.bind (dropClient_keeping hh phase hold).safe fun _ => ?_
      refine Spec.bind (R := fun _ => Keeping .disconnected none .calm) change_spec fun _ => ?_
      exact (report_holds hh _).safe
    exact conclusion m hm
  rw [run_parts]
  refine Spec.bind begun fun _ => Spec.bind (loop_upright hh c rounds) fun stopped => ?_
  cases stopped with
  | true => exact Spec.bind concluded fun _ => Spec.pure fun _ hm => hm
  | false => exact Spec.pure fun _ hm => hm

end

/-! ## What is left -/

section

variable {σ : Type} {m : Machine (Recorded σ)}

/-- All is as after a request to stop: the phase is the first one, and every client is closed. -/
def Cleared (m : Machine (Recorded σ)) : Prop :=
  m.watcher.phase = .disconnected ∧
    ∀ c ∈ connections m.outside.rest.journal, c ∈ closings m.outside.rest.journal

/-- A watcher that has not begun is upright. -/
theorem upright_afresh (s : Surroundings σ) : Upright (afresh s) := ⟨.disconnected, none, rfl, .nil⟩

/-- All clients are accounted for. -/
theorem Upright.accounted (hm : Upright m) (hfresh : (connections m.outside.rest.journal).Nodup) :
    Accounted m := by
  obtain ⟨phase, hold, hw, hs⟩ := hm
  exact accounted_of_neat hw hs.neat hfresh

/-- The listener of a client that is held was not taken off. -/
theorem Upright.listener (hm : Upright m) (hfresh : (connections m.outside.rest.journal).Nodup)
    {client : ClientId} (hclient : m.watcher.client? = some client) (queue : QueueId) :
    .began (.removeListener client queue) ∉ m.outside.rest.journal := by
  obtain ⟨phase, hold, hw, hs⟩ := hm
  intro hmem
  have hclosed : client ∈ closings m.outside.rest.journal :=
    (hs.removed client queue hmem).resolve_right nofun
  refine (hs.neat hfresh).not_mem_closings ?_ hclosed
  rw [hw] at hclient
  simpa [inHand, holding] using hclient

/-- What is left is as after a request to stop just if the watcher holds nothing. -/
theorem Upright.cleared_iff (hm : Upright m) (hfresh : (connections m.outside.rest.journal).Nodup) :
    Cleared m ↔ m.watcher = {} := by
  obtain ⟨phase, hold, hw, hs⟩ := hm
  have tidy := hs.neat hfresh
  constructor
  · rintro ⟨hphase, hclosed⟩
    rw [hw] at hphase
    obtain rfl : phase = .disconnected := hphase
    cases hold with
    | none => exact hw
    | some x =>
      have hmem : x.client ∈ inHand (some x) .calm := mem_inHand x .calm
      exact absurd (hclosed _ (tidy.known _ hmem)) (tidy.not_mem_closings hmem)
  · intro hempty
    refine ⟨by rw [hempty], fun c hc => ?_⟩
    have hnone : m.watcher.client? = none := by rw [hempty]
    have hcount := (accounted_of_neat hw hs.neat hfresh).2 c hc
    rw [hnone, if_neg nofun] at hcount
    exact List.count_pos_iff.1 (by omega)

end

end Watcher

namespace Cli

open Watcher (Accounted Cleared EndsWith Idling afresh connections run)

section

variable {σ : Type} {h : Host σ} {get : Surroundings σ → EventLog}
  {set : EventLog → Surroundings σ → Surroundings σ} {s t : Surroundings σ} {settings : Settings}
  {o : WatchOptions} {weight rounds : Nat} {c : WatchConfig}

/-- Once the event log is opened, the program is its run. -/
theorem watch_outcome (hlevel : Log.threshold o.logLevel? settings.logLevel = .ok weight)
    (hopen : (EventLog.init.within get set).outcome s = (.ok (), t))
    (hconfig : watchConfig settings o = .ok c) :
    (watch h.recorded (openLog get set) settings o rounds).outcome (afresh s) =
      match (run h.recorded c rounds).outcome (afresh t) with
      | (.ok _, m) => (.ok 0, m)
      | (.error (.interrupt _), m) =>
        (.ok 0, { m with outside := { m.outside with control := m.outside.control.stop } })
      | (.error f, m) => (.error f, m) := by
  have hopened : (Watcher.call (openLog get set)).outcome (afresh s) = (.ok (), afresh t) := by
    have hbare : (afresh s).outside.unrecorded = s := rfl
    simp only [Watcher.call, openLog, Act.outcome_within, hbare, hopen]
    rfl
  have hlevel' (m : Machine (Recorded σ)) : (Act.ofExcept (Log.threshold o.logLevel? settings.logLevel) :
      Act (Machine (Recorded σ)) Nat).outcome m = (.ok weight, m) := by
    rw [Act.outcome_ofExcept, hlevel]
  have hconfig' (m : Machine (Recorded σ)) : (Act.ofExcept (watchConfig settings o) :
      Act (Machine (Recorded σ)) WatchConfig).outcome m = (.ok c, m) := by
    rw [Act.outcome_ofExcept, hconfig]
  unfold watch
  rw [Act.outcome_bind, hlevel']
  dsimp only
  rw [Act.outcome_bind, hopened]
  dsimp only
  rw [Act.outcome_bind, hconfig']
  dsimp only
  rw [Act.outcome_bind, Act.outcome_result]
  match (run h.recorded c rounds).outcome (afresh t) with
  | (.ok _, m) => rfl
  | (.error f, m) => cases f <;> rfl

/-- **After a request to stop the program leaves nothing. If it is interrupted instead, it returns as
well and sets the request, but it gives nothing up: a client that was held then is not closed, and its
listener is not taken off. So what is left is as after a request to stop just if the watcher held
nothing in its first phase; and then it was trying to connect or waiting.** -/
theorem watch_interrupted_cleared_iff (hh : h.Interruptible)
    (hlevel : Log.threshold o.logLevel? settings.logLevel = .ok weight)
    (hopen : (EventLog.init.within get set).outcome s = (.ok (), t))
    (hconfig : watchConfig settings o = .ok c) {r : Except Fault Bool} {m : Machine (Recorded σ)}
    (hrun : (run h.recorded c rounds).outcome (afresh t) = (r, m))
    (hfresh : (connections m.outside.rest.journal).Nodup) :
    (r = .ok true → Cleared m ∧
      (watch h.recorded (openLog get set) settings o rounds).outcome (afresh s) = (.ok 0, m)) ∧
      ∀ f, r = .error f → f.isFailure = false ∧
        ∃ m', (watch h.recorded (openLog get set) settings o rounds).outcome (afresh s) = (.ok 0, m') ∧
          m'.watcher = m.watcher ∧
          m'.outside = { m.outside with control := m.outside.control.stop } ∧ Accounted m' ∧
          (∀ client queue, m.watcher.client? = some client →
            .began (.removeListener client queue) ∉ m'.outside.rest.journal) ∧
          (Cleared m' ↔ m.watcher = {}) ∧
          (Cleared m' → EndsWith .connect f m ∨ ∃ wait, EndsWith (.sleep wait) f m) := by
  have hspec := Watcher.run_upright hh c rounds
  have hwatch : (watch h.recorded (openLog get set) settings o rounds).outcome (afresh s) = _ :=
    watch_outcome hlevel hopen hconfig
  rw [hrun] at hwatch
  constructor
  · rintro rfl
    obtain ⟨hw, hs⟩ : Watcher.Left true m := hspec.of_ok (Watcher.upright_afresh t) hrun
    have hm : Watcher.Upright m := ⟨.disconnected, none, hw, hs⟩
    exact ⟨(hm.cleared_iff hfresh).2 hw, hwatch⟩
  · rintro f rfl
    obtain ⟨hf, hm, hidle⟩ := hspec.of_error (Watcher.upright_afresh t) hrun
    obtain ⟨e, rfl⟩ : ∃ e, f = .interrupt e := by
      cases f with
      | interrupt e => exact ⟨e, rfl⟩
      | _ => cases hf
    have hm' : Watcher.Upright { m with outside := { m.outside with control := m.outside.control.stop } } :=
      hm
    refine ⟨hf, _, hwatch, rfl, rfl, hm'.accounted hfresh, fun client queue hclient => ?_,
      hm'.cleared_iff hfresh, fun hcleared => hidle hf ?_⟩
    · exact hm'.listener hfresh hclient queue
    · have hempty : m.watcher = {} := (hm'.cleared_iff hfresh).1 hcleared
      rw [hempty]

end

/-! ## A user without patience -/

/-- The call gives its value, unless the user has waited through as many calls as were let pass. -/
def whilePatient {α : Type} (a : α) : Act (Surroundings Nat) α :=
  .ofOutcome fun s => match s.rest with
    | 0 => (.error (.interrupt ""), s)
    | n + 1 => (.ok a, { s with rest := n })

/-- No containers, no events, and a user who interrupts after some calls. -/
def patientHost : Host Nat where
  connect := whilePatient 0
  list _ := whilePatient []
  inspect _ _ := Act.fail .pingRefused
  ping _ := whilePatient ()
  addListener _ _ := whilePatient ()
  removeListener _ _ := pure ()
  close _ := pure ()
  take _ _ := whilePatient none
  sleep _ := pure ()
  publish _ := whilePatient ()
  report _ := pure ()

theorem patientHost_interruptible : patientHost.Interruptible where
  sleep _ := Spec.pure fun _ hs => hs
  removeListener _ _ := Keeps.pure _
  close _ := Keeps.pure _
  report _ := Spec.pure fun _ hs => hs

/-- The configuration of the program with plain options. -/
def plainConfig : WatchConfig := .ofSettings {} (some ["80"]) (some .missing) (some .missing) none

/-- The program with plain options and an event log that can be opened, while so many calls are let
pass. -/
def patientWatch (calls : Nat) : Except Fault Nat × Machine (Recorded Nat) :=
  (watch patientHost.recorded (openLog (fun _ => .untouched) fun _ s => s) {} plainOptions 5).outcome
    (afresh { rest := calls })

/-- The run of the program. -/
def patientRun (calls : Nat) : Except Fault Bool × Machine (Recorded Nat) :=
  (run patientHost.recorded plainConfig 5).outcome (afresh { rest := calls })

/-- An interrupt of the first connection leaves what a request to stop would leave; one while the first
table is printed does not. -/
theorem watch_interrupted_cleared_iff_patient :
    (∃ m, patientWatch 0 = (.ok 0, m) ∧ Cleared m) ∧
      ∃ m, patientWatch 2 = (.ok 0, m) ∧ m.watcher = ⟨.disconnected, some 0, some 0, false⟩ ∧
        ¬ Cleared m := by
  have hlevel : Log.threshold plainOptions.logLevel? ({} : Settings).logLevel = .ok 20 := rfl
  have hconfig : watchConfig {} plainOptions = .ok plainConfig := rfl
  have known (calls : Nat) (hr : (patientRun calls).1.toOption = none)
      (hfresh : (connections (patientRun calls).2.outside.rest.journal).Nodup) :
      ∃ m, patientWatch calls = (.ok 0, m) ∧ m.watcher = (patientRun calls).2.watcher ∧
        (Cleared m ↔ (patientRun calls).2.watcher = {}) := by
    have hopen : (EventLog.init.within (fun _ => .untouched) fun _ s => s).outcome
        ({ rest := calls } : Surroundings Nat) = (.ok (), { rest := calls }) := by
      rw [Act.outcome_within]
      exact Prod.ext (by rfl) rfl
    obtain ⟨f, hf⟩ : ∃ f, (patientRun calls).1 = .error f := by
      match hp : (patientRun calls).1 with
      | .ok stopped => simp [hp, Except.toOption] at hr
      | .error f => exact ⟨f, rfl⟩
    have hrun : (run patientHost.recorded plainConfig 5).outcome (afresh { rest := calls }) =
        ((patientRun calls).1, (patientRun calls).2) := (Prod.eta _).symm
    obtain ⟨-, hinterrupted⟩ :=
      watch_interrupted_cleared_iff patientHost_interruptible hlevel hopen hconfig hrun hfresh
    obtain ⟨-, m, hm, hw, -, -, -, hcleared, -⟩ := hinterrupted f hf
    exact ⟨m, hm, hw, hcleared⟩
  constructor
  · obtain ⟨m, hm, -, hcleared⟩ := known 0 (by decide +kernel) (by decide +kernel)
    exact ⟨m, hm, hcleared.2 (by decide +kernel)⟩
  · obtain ⟨m, hm, hw, hcleared⟩ := known 2 (by decide +kernel) (by decide +kernel)
    have hheld : (patientRun 2).2.watcher = ⟨.disconnected, some 0, some 0, false⟩ := by
      decide +kernel
    refine ⟨m, hm, hw.trans hheld, fun h => ?_⟩
    have hempty : (patientRun 2).2.watcher = {} := hcleared.1 h
    rw [hheld] at hempty
    cases hempty

/-- If the user interrupts a ping while events are received, the program returns all the same, but its
client is not closed, its listener not taken off, and its phase unchanged. -/
theorem interrupt_leaves_client_open :
    (patientWatch 5).1.toOption = some 0 ∧
      (patientWatch 5).2.watcher = ⟨.watching, some 0, some 0, true⟩ ∧
      connections (patientWatch 5).2.outside.rest.journal = [0] ∧
      Watcher.closings (patientWatch 5).2.outside.rest.journal = [] ∧
      ((patientWatch 5).2.outside.rest.journal.filterMap fun
        | .began (.removeListener client queue) => some (client, queue)
        | _ => none) = [] ∧ ¬ Cleared (patientWatch 5).2 := by
  have hwatcher : (patientWatch 5).2.watcher = ⟨.watching, some 0, some 0, true⟩ := by decide +kernel
  refine ⟨by decide +kernel, hwatcher, by decide +kernel, by decide +kernel, by decide +kernel, ?_⟩
  rintro ⟨hphase, -⟩
  rw [hwatcher] at hphase
  cases hphase

end Cli

end HostRouting
