import HostRouting.Cli
import HostRouting.Proofs.Closing
import HostRouting.Proofs.Stride

/-!
# What the watcher holds between its transitions

The state of the watcher is changed bit by bit, and a failure can leave a transition half done.
Between two transitions the parts of the state fit together all the same, so no transition finds
itself without the client or the mailbox that its phase asks for.
-/

namespace HostRouting

open Act (Spec Keeps failing never)

namespace Watcher

/-! ## Coherent states -/

/-- The parts of the watcher's state fit together. -/
structure Coherent (w : Watcher) : Prop where
  /-- There is a client just when there is a mailbox. -/
  paired : w.client?.isSome = w.queue?.isSome
  /-- Beyond the first phase there are both. -/
  present : w.phase ≠ .disconnected → w.client?.isSome = true ∧ w.queue?.isSome = true
  /-- There is a subscription just while events are received. -/
  subscribed : w.subscribed = true ↔ w.phase = .watching

/-- A connection that goes with a phase makes a coherent state. -/
theorem coherent_holding {phase : Phase} {hold : Option Hold} (hfit : phase.Fits hold) :
    (holding phase hold).Coherent := by
  cases phase with
  | disconnected =>
    refine ⟨by simp [holding], fun hne => absurd rfl hne, ?_⟩
    cases hold with
    | none => simp [holding]
    | some x => simp [holding, hfit x rfl]
  | idle =>
    obtain ⟨x, rfl, hx, -⟩ := hfit
    constructor <;> simp [holding, hx]
  | watching =>
    obtain ⟨x, rfl, hx⟩ := hfit
    constructor <;> simp [holding, hx]

/-- A connection of a coherent state goes with its phase, unless it has parted with a
subscription. -/
theorem Coherent.fits {phase : Phase} {hold : Option Hold} (h : (holding phase hold).Coherent)
    (hnew : ∀ x, hold = some x → x.parted = false) : phase.Fits hold := by
  obtain ⟨-, present, subscribed⟩ := h
  have there (hne : phase ≠ .disconnected) : ∃ x, hold = some x := by
    simpa [holding, Option.isSome_iff_exists] using (present hne).1
  cases phase with
  | disconnected =>
    rintro x rfl
    simpa [holding] using subscribed
  | idle =>
    obtain ⟨x, rfl⟩ := there (by simp)
    exact ⟨x, rfl, by simpa [holding] using subscribed, hnew x rfl⟩
  | watching =>
    obtain ⟨x, rfl⟩ := there (by simp)
    exact ⟨x, rfl, by simpa [holding] using subscribed⟩

/-- The coherent states are those of a watcher with a connection that goes with its phase. -/
theorem coherent_iff {w : Watcher} :
    w.Coherent ↔ ∃ hold, w.phase.Fits hold ∧ w = holding w.phase hold := by
  constructor
  · intro hw
    obtain ⟨hold, hhold, hnew⟩ : ∃ hold, w = holding w.phase hold ∧
        ∀ x, hold = some x → x.parted = false := by
      have paired := hw.paired
      have subscribed := hw.subscribed
      have present := hw.present
      obtain ⟨phase, client?, queue?, listens⟩ := w
      match client?, queue? with
      | some client, some queue =>
        refine ⟨some { client, queue, subscribed := listens }, rfl, ?_⟩
        rintro _ ⟨⟩
        rfl
      | none, none =>
        refine ⟨none, ?_, by rintro _ ⟨⟩⟩
        -- without a client the phase is the first one, where there is no subscription
        cases phase <;> simp_all [holding]
      | some _, none | none, some _ => simp at paired
    refine ⟨hold, ?_, hhold⟩
    rw [hhold] at hw
    exact hw.fits hnew
  · rintro ⟨hold, hfit, hw⟩
    rw [hw]
    exact coherent_holding hfit

/-- A watcher that has not begun is coherent. -/
theorem coherent_fresh : Coherent {} := ⟨rfl, fun h => absurd rfl h, by simp⟩

end Watcher

open Watcher (Coherent coherent_fresh coherent_holding coherent_iff holding Stands)

/-! ## What transitions and runs keep -/

section

variable {σ : Type} {h : Host σ}

/-- A journal does not make a host fail in other ways. -/
theorem Host.Fallible.recorded (hh : h.Fallible) : h.recorded.Fallible := by
  have kept {α : Type} {call : Watcher.Call} {answer : α → Watcher.Deed}
      {act : Act (Surroundings σ) α} (hact : Keeps (fun _ => True) act) :
      Keeps (fun _ => True) (act.recorded call answer) :=
    Act.Spec.recorded_failing (P := fun _ => True) (Q := fun _ _ => True) (E := fun _ _ => True)
      hact (fun _ _ _ => trivial) fun _ _ _ => trivial
  have safe {call : Watcher.Call} {act : Act (Surroundings σ) Unit}
      (hact : Spec (fun _ => True) act (fun _ _ => True) never) :
      Spec (fun _ => True) (act.recorded call fun _ => .done call) (fun _ _ => True) never :=
    Act.Spec.recorded_never (P := fun _ => True) (Q := fun _ _ => True) hact fun _ _ _ => trivial
  exact
    { connect := kept hh.connect
      list := fun client => kept (hh.list client)
      inspect := fun client id => kept (hh.inspect client id)
      ping := fun client => kept (hh.ping client)
      addListener := fun client queue => kept (hh.addListener client queue)
      removeListener := fun client queue => kept (hh.removeListener client queue)
      close := fun client => kept (hh.close client)
      take := fun queue wait => kept (hh.take queue wait)
      publish := fun table => kept (hh.publish table)
      sleep := fun wait => safe (hh.sleep wait)
      report := fun e => safe (hh.report e) }

/-- Whatever the surroundings do, the watcher's calls come back to it. -/
def bareOutline (hh : h.Fallible) (c : WatchConfig) : Outline h c where
  holds _ _ _ := True
  report _ _ e _ := hh.report e
  alarm _ f := hh.report _
  sleep _ := hh.sleep _
  connect _ _ := hh.connect
  remove x _ _ _ := hh.removeListener _ _
  close x _ _ _ := hh.close _
  settle _ _ := trivial
  adopt _ := fun _ _ => trivial
  survey x := Host.enumerate_keeps (hh.list _) (fun id => hh.inspect _ id) (fun e => hh.report e) _ _
  publish _ t := hh.publish t
  ping x := hh.ping _
  add x _ _ := (hh.addListener _ _).post (fun _ _ _ => trivial) fun f _ hf => by
    refine ⟨hf.1, ?_⟩
    cases f <;> trivial
  take x _ := hh.take _ _

variable (hh : h.Fallible) (c : WatchConfig)

/-- The machines that the outline calls calm are the coherent ones. -/
theorem calm_bareOutline {m : Machine σ} : (bareOutline hh c).Calm m ↔ m.watcher.Coherent := by
  rw [coherent_iff]
  constructor
  · rintro ⟨phase, hold, hfit, hw, -⟩
    rw [hw]
    exact ⟨hold, hfit, rfl⟩
  · rintro ⟨hold, hfit, hw⟩
    exact ⟨_, hold, hfit, hw, trivial⟩

include hh

/-- **A transition keeps the state coherent, also if a failure stops it.** -/
theorem step_coherent : Keeps (fun m : Machine σ => m.watcher.Coherent) (Watcher.step h c) := by
  refine (bareOutline hh c).step_spec.mono (fun _ hm => (calm_bareOutline hh c).2 hm)
    (fun _ _ hm => (calm_bareOutline hh c).1 hm) ?_
  rintro f m ⟨hf, hm⟩
  exact ⟨hf, (calm_bareOutline hh c).1 hm⟩

/-- A transition whose failure is reported keeps the state coherent. -/
theorem round_coherent : Spec (fun m : Machine σ => m.watcher.Coherent) (Watcher.round h c)
    (fun _ m => m.watcher.Coherent) never :=
  (bareOutline hh c).round_spec.mono (fun _ hm => (calm_bareOutline hh c).2 hm)
    (fun _ _ hm => (calm_bareOutline hh c).1 hm) fun _ _ hm => hm

/-- So does a run. -/
theorem run_coherent (rounds : Nat) :
    Spec (fun m : Machine σ => m.watcher.Coherent) (Watcher.run h c rounds)
      (fun _ m => m.watcher.Coherent) never := by
  refine ((bareOutline hh c).run_spec rounds).mono (fun _ hm => (calm_bareOutline hh c).2 hm) ?_
    fun _ _ hm => hm
  intro stopped m hm
  cases stopped with
  | false => exact (calm_bareOutline hh c).1 hm
  | true =>
    -- nothing is held any more
    rw [hm.1]
    exact coherent_fresh

/-- So does a pass that is asked for from outside. -/
theorem refresh_coherent : Keeps (fun m : Machine σ => m.watcher.Coherent) (Watcher.refresh h c) := by
  intro m hm
  obtain ⟨hold, hfit, hw⟩ := coherent_iff.1 hm
  cases hold with
  | none =>
    have idle : Spec (Stands (holding m.watcher.phase none) fun _ => True) (Watcher.refresh h c)
        (fun _ m => m.watcher.Coherent) (failing fun _ m => m.watcher.Coherent) := by
      refine Watcher.state_bind (Spec.pure fun m hm => ?_)
      rw [hm.1]
      exact coherent_holding hfit
    exact idle m ⟨hw, trivial⟩
  | some x =>
    refine ((bareOutline hh c).refresh_spec m.watcher.phase x).post ?_ ?_ m ⟨hw, trivial⟩
    · intro _ m hm
      rw [hm.1]
      exact coherent_holding hfit
    · rintro f m ⟨hf, hw, -⟩
      refine ⟨hf, ?_⟩
      show m.watcher.Coherent
      rw [hw]
      exact coherent_holding hfit

end

/-! ## Demands -/

namespace Watcher

/-- What can be asked of a watcher between its transitions. -/
inductive Demand (σ : Type) where
  /-- A transition. -/
  | step
  /-- A pass. -/
  | refresh
  /-- To stop. -/
  | stop
  /-- A run of so many transitions at most. -/
  | run (rounds : Nat)
  /-- Nothing, while the surroundings come to be like this. -/
  | meanwhile (s : Surroundings σ)

section

variable {σ : Type} (h : Host σ) (c : WatchConfig)

/-- The machine after a demand, whether it failed or not. -/
def heed (m : Machine σ) : Demand σ → Machine σ
  | .step => ((step h c).outcome m).2
  | .refresh => ((refresh h c).outcome m).2
  | .stop => (Cli.requestStop.outcome m).2
  | .run rounds => ((run h c rounds).outcome m).2
  | .meanwhile s => { m with outside := s }

/-- The machine after some demands, one after the other. -/
def heeded (m : Machine σ) (demands : List (Demand σ)) : Machine σ := demands.foldl (heed h c) m

variable {h} (hh : h.Fallible) {m : Machine σ}

include hh

/-- Every demand keeps the state coherent. -/
theorem heed_coherent (hm : m.watcher.Coherent) (d : Demand σ) : (heed h c m d).watcher.Coherent := by
  cases d with
  | step => exact ((step_coherent hh c).post (fun _ _ hm => hm) fun _ _ hm => hm.2).after hm
  | refresh => exact ((refresh_coherent hh c).post (fun _ _ hm => hm) fun _ _ hm => hm.2).after hm
  | stop => exact hm
  | run rounds => exact (run_coherent hh c rounds).safe.after hm
  | meanwhile s => exact hm

/-- So do demands one after the other. -/
theorem heeded_coherent (hm : m.watcher.Coherent) (demands : List (Demand σ)) :
    (heeded h c m demands).watcher.Coherent := by
  induction demands generalizing m with
  | nil => exact hm
  | cons d demands ih => exact ih (heed_coherent c hh hm d)

end

section

variable {σ : Type} {h : Host σ} (hh : h.Fallible) (c : WatchConfig) {m : Machine (Recorded σ)}

include hh

/-- Every transition of a coherent watcher is a stride. -/
theorem step_outcome_strode (hm : m.watcher.Coherent) :
    ∃ r m', (step h.recorded c).outcome m = (r, m') ∧ (∀ f, r = .error f → f.isFailure = true) ∧
      Strode c m.outside.rest.journal m.watcher r m'.watcher m'.outside := by
  obtain ⟨hold, hfit, hw⟩ := coherent_iff.1 hm
  have hstand : Stands (holding m.watcher.phase hold) (Since m.outside.rest.journal []) m :=
    ⟨hw, [], by simp, rfl⟩
  have hstep := step_strode hh c m.watcher.phase hfit (j := m.outside.rest.journal)
  rw [← hw] at hstep hstand
  match ho : (step h.recorded c).outcome m with
  | (.ok next, m') => exact ⟨.ok next, m', rfl, by simp, hstep.of_ok hstand ho⟩
  | (.error f, m') =>
    obtain ⟨hf, hstrode⟩ := hstep.of_error hstand ho
    exact ⟨.error f, m', rfl, fun _ he => Except.error.inj he ▸ hf, hstrode⟩

end

/-- **Whatever is demanded of a watcher, and whatever fails, its state is coherent afterwards; and
beyond the first phase its next transition has a client, which it pings.** -/
theorem coherent_throughout {σ : Type} {h : Host σ} (hh : h.Fallible) (c : WatchConfig)
    (s : Surroundings σ) (demands : List (Demand (Recorded σ))) :
    let m := heeded h.recorded c (afresh s) demands
    m.watcher.Coherent ∧
      (m.watcher.phase ≠ .disconnected →
        ∃ client queue new, m.watcher.client? = some client ∧ m.watcher.queue? = some queue ∧
          ((step h.recorded c).outcome m).2.outside.rest.journal = m.outside.rest.journal ++ new ∧
          .began (.ping client) ∈ new) := by
  intro m
  have hm : m.watcher.Coherent := heeded_coherent c hh.recorded coherent_fresh demands
  refine ⟨hm, fun hphase => ?_⟩
  obtain ⟨r, m', hr, -, l, ⟨new, hnew, hl⟩, hstride⟩ := step_outcome_strode hh c hm
  obtain ⟨client, queue, hclient, hqueue, hping⟩ := hstride.pings hphase
  refine ⟨client, queue, new, hclient, hqueue, by rw [hr, hnew], ?_⟩
  rw [← hl] at hping
  exact (List.mem_filter.1 hping).1

/-! ## A host of many moods -/

/-- The next mood decides whether a call gives its value or fails. -/
def onAWhim {α : Type} (a : α) : Act (Surroundings (List Bool)) α :=
  .ofOutcome fun s => (if s.rest.headD true then .ok a else .error .pingRefused, s.mapRest List.tail)

/-- A call on a whim fails in an ordinary way only. -/
theorem onAWhim_keeps {α : Type} (a : α) : Keeps (fun _ => True) (onAWhim a) := by
  intro s _
  by_cases hs : s.rest.headD true = true
  · simp only [onAWhim, Act.outcome_ofOutcome, if_pos hs]
  · simp only [onAWhim, Act.outcome_ofOutcome, if_neg hs]
    exact ⟨rfl, trivial⟩

/-- A host whose calls fail by its moods, where all streams have ended, and where the watcher is
asked to stop once there are no moods left. -/
def moody : Host (List Bool) where
  connect := onAWhim 0
  list _ := pure []
  inspect _ _ := Act.fail .pingRefused
  ping _ := onAWhim ()
  addListener _ _ := onAWhim ()
  removeListener _ _ := Act.fail .pingRefused
  close _ := Act.fail .pingRefused
  take _ _ := onAWhim (some none)
  sleep _ := Act.update fun s =>
    { s with control := if s.rest.isEmpty then s.control.stop else s.control }
  publish _ := onAWhim ()
  report _ := pure ()

theorem moody_fallible : moody.Fallible where
  connect := onAWhim_keeps 0
  list _ := Keeps.pure _
  inspect _ _ := Spec.fail fun _ _ => ⟨rfl, trivial⟩
  ping _ := onAWhim_keeps ()
  addListener _ _ := onAWhim_keeps ()
  removeListener _ _ := Spec.fail fun _ _ => ⟨rfl, trivial⟩
  close _ := Spec.fail fun _ _ => ⟨rfl, trivial⟩
  take _ _ := onAWhim_keeps _
  publish _ := onAWhim_keeps ()
  sleep _ := Spec.update fun _ hs => hs
  report _ := Spec.pure fun _ hs => hs

/-- The moods of a host where a first table is not taken, and none that is asked for later. -/
def fitful : Surroundings (List Bool) where
  rest := [true, false, true, true, false, true, true]

/-- The configuration of the default settings. -/
def byDefault : WatchConfig := .ofSettings {} none none none none

/-- After two failures of the consumer, and asked to stop, a watcher still comes to listen; and it
pings then. -/
theorem coherent_throughout_moody :
    let m := heeded moody.recorded byDefault (afresh fitful) [.step, .step, .refresh, .stop, .step]
    moody.Fallible ∧ m.watcher = ⟨.watching, some 0, some 1, true⟩ ∧ m.watcher.Coherent ∧
      ∃ client queue new, m.watcher.client? = some client ∧ m.watcher.queue? = some queue ∧
        ((step moody.recorded byDefault).outcome m).2.outside.rest.journal =
          m.outside.rest.journal ++ new ∧ .began (.ping client) ∈ new := by
  intro m
  have hwatcher : m.watcher = ⟨.watching, some 0, some 1, true⟩ := by decide +kernel
  have hcoherent := coherent_throughout moody_fallible byDefault fitful
    [.step, .step, .refresh, .stop, .step]
  refine ⟨moody_fallible, hwatcher, hcoherent.1, hcoherent.2 ?_⟩
  show m.watcher.phase ≠ .disconnected
  rw [hwatcher]
  decide

end Watcher

end HostRouting
