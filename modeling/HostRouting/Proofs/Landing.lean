import HostRouting.Proofs.Containment

/-!
# What a connection comes to

A new client becomes the watcher's own before its first table is published, and the watcher leaves
the first phase only after that. A consumer that does not take the first table therefore leaves the
watcher in the first phase with a client in hand. Nothing else does, and the next connection that is
made closes that client.
-/

namespace HostRouting.Watcher

open Act (Spec Keeps failing never)

/-! ## Milestones -/

/-- A milestone of a connection: it is made, it is pinged, a table of it is not taken, or it begins
to be closed. -/
def Deed.isMilestone : Deed → Bool
  | connected _ | began (.ping _) | failed (.publish _) _ | began (.close _) => true
  | _ => false

/-- The milestones of all connections, in their order. -/
def milestones (j : List Deed) : List Deed := j.filter Deed.isMilestone

/-- The milestone of giving up what client there is. -/
def parting (client? : Option ClientId) : List Deed :=
  (client?.map fun client => .began (.close client)).toList

/-- The client is the one that was connected last, and the consumer did not take its first table.
Since then it was neither pinged nor closed. -/
def Stranded (client : ClientId) (j : List Deed) : Prop :=
  ∃ before old? t f, milestones j =
    before ++ [.connected client] ++ parting old? ++ [.failed (.publish t) f]

/-- The last milestone, if there is one, is that a client begins to be closed. -/
def Fallow (j : List Deed) : Prop :=
  ∀ d, (milestones j).getLast? = some d → ∃ client, d = .began (.close client)

section

variable {j k : List Deed} {x y : ClientId}

@[simp] theorem milestones_append (j k : List Deed) :
    milestones (j ++ k) = milestones j ++ milestones k :=
  List.filter_append ..

/-- The clients that were connected are seen from the milestones. -/
theorem connections_milestones (j : List Deed) : connections (milestones j) = connections j := by
  rw [connections, milestones, List.filterMap_filter]
  congr 1
  funext d
  cases d with
  | connected client => rfl
  | began call | took item | done call | failed call f => simp [Deed.connected?]

/-- A stranded client is the one that was connected last. -/
theorem Stranded.getLast_connections (h : Stranded x j) : (connections j).getLast? = some x := by
  obtain ⟨before, old?, t, f, hj⟩ := h
  rw [← connections_milestones, hj]
  cases old? <;> simp [parting, connections, List.filterMap_cons, Deed.connected?]

/-- So there is one at most. -/
theorem Stranded.unique (hx : Stranded x j) (hy : Stranded y j) : x = y :=
  Option.some.inj (hx.getLast_connections.symm.trans hy.getLast_connections)

/-- Where the last milestone was a closing, no client is stranded. -/
theorem Fallow.not_stranded (h : Fallow j) : ¬ Stranded x j := by
  rintro ⟨before, old?, t, f, hj⟩
  obtain ⟨client, hd⟩ := h (.failed (.publish t) f) (by rw [hj, List.getLast?_concat])
  cases hd

/-- What is no milestone changes nothing. -/
theorem Fallow.append (h : Fallow j) (hk : milestones k = []) : Fallow (j ++ k) := by
  rw [Fallow, milestones_append, hk, List.append_nil]
  exact h

end

/-! ## What a transition without a connection comes to -/

/-- The milestones of a transition from the first phase, with its result and the state that it leaves
behind. -/
inductive Landing (w : Watcher) : List Deed → Except Fault Phase → Watcher → Prop where
  /-- No connection is made, and everything stays as it is. -/
  | refused : Landing w [] (.ok .disconnected) w
  /-- A connection is made in place of the one before, whatever becomes of the pass. -/
  | settled (client : ClientId) (queue : QueueId) :
      Landing w ([.connected client] ++ parting w.client?) (.ok .idle)
        { phase := .idle, client? := some client, queue? := some queue }
  /-- A connection is made, but the consumer does not take the table. -/
  | stranded (client : ClientId) (queue : QueueId) (t : Table) (f : Fault) :
      Landing w ([.connected client] ++ parting w.client? ++ [.failed (.publish t) f]) (.error f)
        { phase := .disconnected, client? := some client, queue? := some queue }

section

variable {σ α : Type} {j : List Deed}

/-- These are the milestones so far. -/
def Passed (j : List Deed) (s : Surroundings (Recorded σ)) : Prop := milestones s.rest.journal = j

/-- A call passes the milestones that its begin and its end are. -/
theorem Passed.call (call : Call) (answer : α → Deed) {act : Act (Surroundings σ) α}
    (hact : Keeps (fun _ => True) act) {q : α → List Deed} {e : Fault → List Deed}
    (hq : ∀ a, j ++ milestones [.began call, answer a] = q a)
    (he : ∀ f, j ++ milestones [.began call, .failed call f] = e f) :
    Spec (Passed j) (act.recorded call answer) (fun a => Passed (q a))
      (failing fun f => Passed (e f)) := by
  refine Act.Spec.recorded_failing (P := fun k => milestones k = j)
    (Q := fun a k => milestones k = q a) (E := fun f k => milestones k = e f) hact ?_ ?_
  · intro a k hk
    rw [milestones_append, hk, hq]
  · intro f k hk
    rw [milestones_append, hk, he]

/-- A call that is no milestone. -/
theorem Passed.aside (call : Call) {act : Act (Surroundings σ) α} (answer : α → Deed)
    (hact : Keeps (fun _ => True) act) (hq : ∀ a, milestones [.began call, answer a] = [])
    (he : ∀ f, milestones [.began call, .failed call f] = []) :
    Keeps (Passed j) (act.recorded call answer) :=
  Passed.call call answer hact (fun a => by rw [hq a, List.append_nil])
    fun f => by rw [he f, List.append_nil]

/-- A call that is no milestone and does not fail. -/
theorem Passed.safe {call : Call} {act : Act (Surroundings σ) Unit}
    (hact : Spec (fun _ => True) act (fun _ _ => True) never)
    (hq : milestones [.began call, .done call] = []) :
    Spec (Passed j) (act.recorded call fun _ => .done call) (fun _ => Passed j) never := by
  refine Act.Spec.recorded_never (P := fun k => milestones k = j)
    (Q := fun _ k => milestones k = j) hact fun _ k hk => ?_
  rw [milestones_append, hk, hq, List.append_nil]

end

section

variable {σ : Type} {h : Host σ} (hh : h.Fallible) (c : WatchConfig) (phase : Phase) {j : List Deed}

include hh

theorem report_passed (w : Watcher) (e : Log.Entry) :
    Spec (Stands w (Passed j)) (report h.recorded e) (fun _ => Stands w (Passed j)) never :=
  call_safe (Passed.safe (hh.report e) rfl)

/-- Giving up a client is the milestone of its closing. -/
theorem dropClient_passed (hold : Option Hold) :
    Spec (Stands (holding phase hold) (Passed j)) (dropClient h.recorded)
      (fun _ => Stands (holding phase none) (Passed (j ++ parting (hold.map Hold.client))))
      never := by
  have reported (k : List Deed) (e : Log.Entry) :
      Spec (Passed k) (h.recorded.report e) (fun _ => Passed k) never :=
    Passed.safe (hh.report e) rfl
  refine dropClient_drops (R := Passed j) phase hold ?_ (fun _ _ hs => hs) ?_ ?_ (reported j)
    (reported _)
  · rintro x - -
    exact Passed.aside _ _ (hh.removeListener x.client x.queue) (fun _ => rfl) fun _ => rfl
  · rintro x rfl
    exact Passed.call _ _ (hh.close x.client) (fun _ => rfl) fun _ => rfl
  · rintro rfl s hs
    show milestones _ = j ++ []
    rw [List.append_nil]
    exact hs

/-- A pass is a milestone only if its table is not taken. -/
theorem refresh_passed (x : Hold) :
    Spec (Stands (holding phase (some x)) (Passed j)) (refresh h.recorded c)
      (fun _ => Stands (holding phase (some x)) (Passed j))
      (failing fun f m => ∃ t,
        Stands (holding phase (some x)) (Passed (j ++ [.failed (.publish t) f])) m) := by
  refine state_bind ?_
  have surveyed : Keeps (Passed j) (h.recorded.enumerate c.ports c.workers x.client) := by
    refine Host.enumerate_keeps ?_ (fun id => ?_) (fun e => ?_) _ _
    · exact Passed.aside _ _ (hh.list x.client) (fun _ => rfl) fun _ => rfl
    · exact Passed.aside _ _ (hh.inspect x.client id) (fun _ => rfl) fun _ => rfl
    · exact Passed.safe (hh.report e) rfl
  refine Spec.bind (call_spec surveyed).attempt fun r => ?_
  cases r with
  | error f => exact Spec.bind (report_passed hh _ _).safe fun _ => Spec.pure fun _ hm => hm
  | ok t =>
    refine Spec.bind (report_passed hh _ _).safe fun _ => ?_
    have published := Passed.call (j := j) (.publish t) (fun _ => .done (.publish t)) (hh.publish t)
      (q := fun _ => j) (fun _ => List.append_nil j) fun _ => rfl
    refine Spec.bind (R := fun _ => Stands (holding phase (some x)) (Passed j)) ?_
      fun _ => Spec.pure fun _ hm => hm
    exact (call_spec published).post (fun _ _ hm => hm) fun f m hm => ⟨hm.1, t, hm.2⟩

/-- After the milestones `j`, a landing from one state of the watcher led to another. -/
def Landed (j : List Deed) (w : Watcher) (r : Except Fault Phase) (w' : Watcher)
    (s : Surroundings (Recorded σ)) : Prop :=
  ∃ l, Passed (j ++ l) s ∧ Landing w l r w'

/-- Without a client that is known to be there, a connection is attempted. -/
theorem fromDisconnected_lands (hold : Option Hold) :
    Spec (Stands (holding .disconnected hold) (Passed j)) (fromDisconnected h.recorded c)
      (fun next m => Landed j (holding .disconnected hold) (.ok next)
        { m.watcher with phase := next } m.outside)
      (failing fun f m => Landed j (holding .disconnected hold) (.error f) m.watcher m.outside) := by
  have dialled := Passed.call (j := j) .connect .connected hh.connect
    (q := fun client => j ++ [.connected client]) (e := fun _ => j) (fun _ => rfl)
    fun _ => List.append_nil j
  refine Spec.bind (call_spec dialled).attempt fun r => ?_
  cases r with
  | error f =>
    refine Spec.bind (report_passed hh _ _).safe fun _ => ?_
    refine Spec.bind (call_safe (Passed.safe (hh.sleep _) rfl)).safe fun _ => Spec.pure ?_
    rintro ⟨w, s⟩ ⟨rfl, hs⟩
    exact ⟨[], by rwa [List.append_nil], .refused⟩
  | ok client =>
    refine Spec.bind (dropClient_passed hh .disconnected hold).safe fun _ => ?_
    let k := j ++ [.connected client] ++ parting (hold.map Hold.client)
    -- the mailbox is no matter of the journal
    have opened : Spec (Passed (σ := σ) k) (Surroundings.openMailbox c.queueSize)
        (fun _ => Passed k) never := fun _ hs => hs
    refine Spec.bind (call_safe opened).safe fun queue => ?_
    refine Spec.bind change_spec fun _ => ?_
    refine Spec.bind (report_passed hh _ _).safe fun _ => ?_
    let x : Hold := { client, queue }
    refine Spec.bind (R := fun _ => Stands (holding .disconnected (some x)) (Passed k)) ?_ fun _ => ?_
    · refine (refresh_passed hh c .disconnected x).post (fun _ _ hm => hm) ?_
      rintro f ⟨w, s⟩ ⟨hf, t, rfl, hs⟩
      refine ⟨hf, _, ?_, .stranded client queue t f⟩
      rwa [← List.append_assoc, ← List.append_assoc]
    · refine Spec.pure ?_
      rintro ⟨w, s⟩ ⟨rfl, hs⟩
      exact ⟨_, by rwa [← List.append_assoc], .settled client queue⟩

variable {m : Machine (Recorded σ)}

/-- **Every transition from the first phase is a landing.** -/
theorem step_outcome_lands (hm : m.watcher.Coherent) (hphase : m.watcher.phase = .disconnected) :
    ∃ r m', (step h.recorded c).outcome m = (r, m') ∧
      Landed (milestones m.outside.rest.journal) m.watcher r m'.watcher m'.outside := by
  obtain ⟨hold, -, hw⟩ := coherent_iff.1 hm
  rw [hphase] at hw
  have lands : Spec (Stands (holding .disconnected hold) (Passed (milestones m.outside.rest.journal)))
      (step h.recorded c)
      (fun next m' => Landed (milestones m.outside.rest.journal) (holding .disconnected hold)
        (.ok next) m'.watcher m'.outside)
      (failing fun f m' => Landed (milestones m.outside.rest.journal) (holding .disconnected hold)
        (.error f) m'.watcher m'.outside) :=
    state_bind (Spec.bind (fromDisconnected_lands hh c hold) fun _ _ hm => hm)
  rw [← hw] at lands
  match ho : (step h.recorded c).outcome m with
  | (.ok next, m') => exact ⟨.ok next, m', rfl, lands.of_ok ⟨rfl, rfl⟩ ho⟩
  | (.error f, m') => exact ⟨.error f, m', rfl, (lands.of_error ⟨rfl, rfl⟩ ho).2⟩

end

/-! ## Without a client -/

/-- While nothing is held, and no client has arrived, the last client was closed. -/
def Vacant (hold : Option Hold) (a : Activity) (j : List Deed) : Prop :=
  hold = none → (∀ client, a ≠ .arrived client) → Fallow j

section

variable {j k : List Deed} {a b : Activity} {x : Hold}

/-- While a client is held there is nothing to say. -/
theorem Vacant.of_some : Vacant (some x) a j := nofun

/-- Nor is there when a client has arrived. -/
theorem Vacant.of_arrived {hold : Option Hold} {client : ClientId} :
    Vacant hold (.arrived client) j := fun _ ha => absurd rfl (ha client)

/-- What is no milestone changes nothing, as long as no client arrives. -/
theorem Vacant.append {hold : Option Hold} (h : Vacant hold a j) (hk : milestones k = [])
    (ha : (∀ client, b ≠ .arrived client) → ∀ client, a ≠ .arrived client) :
    Vacant hold b (j ++ k) := fun hnone hb => (h hnone (ha hb)).append hk

/-- The last client is closed. -/
theorem Fallow.of_close {client : ClientId} {d : Deed} (hd : d.isMilestone = false) :
    Fallow (j ++ [.began (.close client), d]) := by
  intro e he
  have : milestones [.began (.close client), d] = [.began (.close client)] := by
    have hclose : (Deed.began (.close client)).isMilestone = true := rfl
    simp [milestones, hd, hclose]
  rw [milestones_append, this, List.getLast?_concat] at he
  exact ⟨client, (Option.some.inj he).symm⟩

variable {σ α : Type}

/-- Of a call with a client in hand there is nothing to say, however it ends. -/
theorem Vacant.called {act : Act (Surroundings (Recorded σ)) α} (hact : Keeps (fun _ => True) act)
    {P : Surroundings (Recorded σ) → Prop} {hold : α → Hold} {next : α → Activity} {y : Hold} :
    Spec P act (fun v s => Vacant (some (hold v)) (next v) s.rest.journal)
      (failing fun _ s => Vacant (some y) b s.rest.journal) :=
  hact.mono (fun _ _ => trivial) (fun _ _ _ => .of_some) fun _ _ hs => ⟨hs.1, .of_some⟩

/-- A call that is no milestone and does not fail. -/
theorem Vacant.safe {hold : Option Hold} {call : Call} {act : Act (Surroundings σ) Unit}
    (hact : Spec (fun _ => True) act (fun _ _ => True) never)
    (hcall : milestones [.began call, .done call] = [])
    (ha : (∀ client, b ≠ .arrived client) → ∀ client, a ≠ .arrived client) :
    Spec (fun s => Vacant hold a s.rest.journal) (act.recorded call fun _ => .done call)
      (fun _ s => Vacant hold b s.rest.journal) never :=
  Act.Spec.recorded_never (P := Vacant hold a) (Q := fun _ => Vacant hold b) hact
    fun _ _ hj => hj.append hcall ha

end

/-- A watcher without a client has closed the last one. -/
def vacantOutline {σ : Type} {h : Host σ} (hh : h.Fallible) (c : WatchConfig) :
    Outline h.recorded c where
  holds hold a s := Vacant hold a s.rest.journal
  report hold a e _ := Vacant.safe (hh.report e) rfl id
  alarm hold f := Vacant.safe (hh.report _) rfl fun _ => by simp
  sleep hold := Vacant.safe (hh.sleep _) rfl fun _ => by simp
  connect hold _ := Act.Spec.recorded_failing (P := Vacant hold .calm)
    (Q := fun client => Vacant hold (.arrived client)) (E := fun _ => Vacant hold .failed)
    hh.connect (fun _ _ _ => .of_arrived) fun _ _ hj => hj.append rfl fun _ => by simp
  remove x a _ _ := Vacant.called (hh.recorded.removeListener _ _)
  close x a _ _ := Act.Spec.recorded_failing (P := Vacant (some x) a)
    (Q := fun _ => Vacant none a) (E := fun _ => Vacant none a) (hh.close _)
    (fun _ _ _ _ _ => .of_close rfl) fun _ _ _ _ _ => .of_close rfl
  settle s hs := fun hnone _ => hs hnone (by simp)
  adopt client := fun _ _ => .of_some
  survey x := Vacant.called ((bareOutline hh.recorded c).survey x)
  publish x t := Vacant.called (hh.recorded.publish t)
  ping x := Vacant.called (hh.recorded.ping _)
  add x _ _ := (hh.recorded.addListener x.client x.queue).mono (fun _ _ => trivial)
    (fun _ _ _ => .of_some) fun f s hs => by
      refine ⟨hs.1, ?_⟩
      cases f <;> exact .of_some
  take x _ := Vacant.called (hh.recorded.take _ _)

/-! ## Between the transitions -/

section

variable {σ : Type} {h : Host σ} (hh : h.Fallible) (c : WatchConfig) {m : Machine (Recorded σ)}

/-- The state is coherent, and a client that is held in the first phase is stranded. -/
structure Docked (m : Machine (Recorded σ)) : Prop where
  coherent : m.watcher.Coherent
  stranded : m.watcher.phase = .disconnected →
    ∀ client, m.watcher.client? = some client → Stranded client m.outside.rest.journal

/-- What is no milestone changes nothing. -/
theorem Docked.congr {m' : Machine (Recorded σ)} (hm : Docked m) (hw : m'.watcher = m.watcher)
    (hj : milestones m'.outside.rest.journal = milestones m.outside.rest.journal) : Docked m' where
  coherent := by
    rw [hw]
    exact hm.coherent
  stranded := by
    simp only [hw, Stranded, hj]
    exact hm.stranded

include hh

/-- A transition leaves a client in the first phase only if it is stranded. -/
theorem step_docked (hm : Docked m) : Docked ((step h.recorded c).outcome m).2 := by
  have hcoherent : ((step h.recorded c).outcome m).2.watcher.Coherent :=
    ((step_coherent hh.recorded c).post (fun _ _ hm => hm) fun _ _ hm => hm.2).after hm.coherent
  refine ⟨hcoherent, ?_⟩
  by_cases hphase : m.watcher.phase = .disconnected
  · obtain ⟨r, m', ho, l, hl, hlanding⟩ := step_outcome_lands hh c hm.coherent hphase
    rw [ho]
    intro hphase' client hclient
    generalize hw' : m'.watcher = w' at hlanding hphase' hclient
    cases hlanding with
    | refused =>
      rw [Passed, List.append_nil] at hl
      obtain ⟨before, old?, t, f, hj⟩ := hm.stranded hphase client hclient
      exact ⟨before, old?, t, f, hl.trans hj⟩
    | settled => cases hphase'
    | stranded new queue t f =>
      cases hclient
      refine ⟨milestones m.outside.rest.journal, m.watcher.client?, t, f, hl.trans ?_⟩
      simp only [List.append_assoc]
  · obtain ⟨r, m', ho, -, l, -, hstride⟩ := step_outcome_strode hh c hm.coherent
    rw [ho]
    intro hphase' client hclient
    generalize hw : m.watcher = w at hphase hstride
    generalize hw' : m'.watcher = w' at hstride hphase' hclient
    -- beyond the first phase the watcher comes back to it with empty hands only
    cases hstride with
    | refused | connected | unpublished => exact absurd rfl hphase
    | lost | closed => cases hclient
    | subscribed | unsubscribed | unmoved | stopped | refreshed | unheeded => cases hphase'

/-- So does a transition whose failure is reported. -/
theorem afterRound_docked (hm : Docked m) : Docked (afterRound h.recorded c m) := by
  cases afterRound_survives hh c hm.coherent with
  | passed phase hstep =>
    have := step_docked hh c hm
    rwa [hstep] at this
  | failed f hf stuck hstep hwatcher hphase hjournal =>
    have := step_docked hh c hm
    rw [hstep] at this
    refine this.congr hwatcher ?_
    rw [hjournal, milestones_append]
    exact List.append_nil _

/-- So do those of a run. -/
theorem amid_docked (hm : Docked m) (i : Nat) : Docked (amid h.recorded c m i) := by
  induction i with
  | zero =>
    have reported : Spec (Stands m.watcher (Passed (milestones m.outside.rest.journal)))
        (report h.recorded opening)
        (fun _ => Stands m.watcher (Passed (milestones m.outside.rest.journal))) never :=
      report_passed hh _ _
    obtain ⟨hw, hj⟩ := reported.safe.after ⟨rfl, rfl⟩
    exact hm.congr hw hj
  | succ i ih =>
    rw [amid_succ]
    exact afterRound_docked hh c ih

/-- So does a run, whether it comes to its end or not. -/
theorem run_docked (hm : Docked m) (rounds : Nat) : Docked ((run h.recorded c rounds).outcome m).2 := by
  obtain ⟨k, -, -, hend⟩ := run_outcome c hh.recorded hm.coherent rounds
  rcases hend with ⟨-, -, ho⟩ | ⟨m', -, hw, -, ho⟩
  · rw [ho]
    exact amid_docked hh c hm k
  · rw [ho]
    -- at the end of a run there is no client
    refine ⟨?_, fun _ client hclient => ?_⟩
    · rw [hw]
      exact coherent_fresh
    · rw [hw] at hclient
      cases hclient

/-- The surroundings may move, as long as the journal is left alone. -/
def Unwritten (s t : Surroundings (Recorded σ)) : Prop := t.rest.journal = s.rest.journal

/-- Wherever a watcher comes to, it is docked. -/
theorem docked_of_reachable {s : Surroundings σ} (hm : Reachable h.recorded c Unwritten (afresh s) m) :
    Docked m := by
  induction hm with
  | start => exact ⟨coherent_fresh, fun _ _ hclient => by cases hclient⟩
  | step hm ih => exact step_docked hh c ih
  | ran hm rounds ih => exact run_docked hh c ih rounds
  | meanwhile hm hs ih => exact ih.congr rfl (congrArg milestones hs)

end

/-- **In the first phase the watcher holds a client just when that client is stranded: the consumer
did not take its first table, and nothing was done with it since. As long as every connection gives a
new client, all others are closed. A connection that is made next replaces and closes the stranded
client, and leads on whatever becomes of the pass, unless its table is not taken either.** -/
theorem disconnected_holds_iff_stranded {σ : Type} {h : Host σ} (hh : h.Fallible) (c : WatchConfig)
    (s : Surroundings σ) {m : Machine (Recorded σ)}
    (hm : Reachable h.recorded c Unwritten (afresh s) m) (hphase : m.watcher.phase = .disconnected) :
    (∀ client, m.watcher.client? = some client ↔ Stranded client m.outside.rest.journal) ∧
      ((connections m.outside.rest.journal).Nodup → Accounted m) ∧
      ∃ r m' l, (step h.recorded c).outcome m = (r, m') ∧
        milestones m'.outside.rest.journal = milestones m.outside.rest.journal ++ l ∧
        Landing m.watcher l r m'.watcher := by
  have hdocked : Docked m := docked_of_reachable hh c hm
  refine ⟨fun client => ⟨hdocked.stranded hphase client, fun hstranded => ?_⟩, fun hfresh => ?_, ?_⟩
  · cases hclient : m.watcher.client? with
    | some other => rw [hstranded.unique (hdocked.stranded hphase other hclient)]
    | none =>
      have start : (vacantOutline hh c).Calm (afresh s) :=
        (vacantOutline hh c).calm_of_fresh rfl fun _ _ _ hd => by cases hd
      obtain ⟨phase, hold, -, hw, hvacant⟩ := (vacantOutline hh c).calm_of_reachable start
        (fun hold s hs hnone _ => hs hnone (by simp))
        (fun hold s t (hst : t.rest.journal = s.rest.journal) hs => by
          show Vacant hold .calm t.rest.journal
          rw [hst]
          exact hs) hm
      have hnone : hold = none := by
        rw [hw] at hclient
        exact Option.map_eq_none_iff.1 hclient
      exact absurd hstranded (hvacant hnone (by simp)).not_stranded
  · have start : (closingOutline hh c).Calm (afresh s) :=
      (closingOutline hh c).calm_of_fresh rfl Neat.nil
    obtain ⟨phase, hold, -, hw, hneat⟩ := (closingOutline hh c).calm_of_reachable start
      (fun _ _ hs => hs)
      (fun hold s t (hst : t.rest.journal = s.rest.journal) hs => by
        show Neat _ t.rest.journal
        rw [hst]
        exact hs) hm
    exact accounted_of_neat hw hneat hfresh
  · obtain ⟨r, m', ho, l, hl, hlanding⟩ := step_outcome_lands hh c hdocked.coherent hphase
    exact ⟨r, m', l, ho, hl, hlanding⟩

/-- After one transition of a run on a host that does not take the first table, the client is
stranded; and the next transition settles. -/
theorem disconnected_holds_iff_stranded_fitful :
    let m := ((run moody.recorded byDefault 1).outcome (afresh fitful)).2
    moody.Fallible ∧ Reachable moody.recorded byDefault Unwritten (afresh fitful) m ∧
      m.watcher.phase = .disconnected ∧ Stranded 0 m.outside.rest.journal ∧ Accounted m ∧
      ∃ r m' l, (step moody.recorded byDefault).outcome m = (r, m') ∧ m'.watcher.phase = .idle ∧
        milestones m'.outside.rest.journal = milestones m.outside.rest.journal ++ l ∧
        Landing m.watcher l r m'.watcher := by
  intro m
  have hm : Reachable moody.recorded byDefault Unwritten (afresh fitful) m := .ran .start 1
  have hphase : m.watcher.phase = .disconnected := by decide +kernel
  obtain ⟨hheld, haccounted, r, m', l, ho, hl, hlanding⟩ :=
    disconnected_holds_iff_stranded moody_fallible byDefault fitful hm hphase
  have hclient : m.watcher.client? = some 0 := by decide +kernel
  have hfresh : (connections m.outside.rest.journal).Nodup := by decide +kernel
  have hidle : ((step moody.recorded byDefault).outcome m).2.watcher.phase = .idle := by decide +kernel
  rw [ho] at hidle
  exact ⟨moody_fallible, hm, hphase, (hheld 0).1 hclient, haccounted hfresh, r, m', l, ho, hidle, hl,
    hlanding⟩

/-- A connection was made, but the first table was not taken: the watcher is in its first phase and
holds a client, which is not closed. -/
theorem disconnected_with_client :
    let m := ((run moody.recorded byDefault 1).outcome (afresh fitful)).2
    moody.Fallible ∧ Reachable moody.recorded byDefault Unwritten (afresh fitful) m ∧
      m.watcher = ⟨.disconnected, some 0, some 0, false⟩ ∧
      connections m.outside.rest.journal = [0] ∧ closings m.outside.rest.journal = [] := by
  intro m
  exact ⟨moody_fallible, .ran .start 1, by decide +kernel, by decide +kernel, by decide +kernel⟩

end HostRouting.Watcher
