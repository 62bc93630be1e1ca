import HostRouting.Proofs.Coherence
import Mathlib.Logic.Function.Iterate

/-!
# A run contains every failure

A run makes one transition after the other, whatever becomes of them. A transition that is stopped
by a failure is reported once and followed by one wait, and the next one begins in the same phase.
Only the request to stop ends a run, and it leaves nothing behind.
-/

namespace HostRouting.Watcher

open Act (Spec failing never)

/-! ## The course of a run -/

section

variable {σ : Type} (h : Host σ) (c : WatchConfig)

/-- The watcher is asked to stop. -/
def askedToStop (m : Machine σ) : Bool := m.outside.control.stopRequested

/-- The machine after a transition whose failure is reported. -/
def afterRound (m : Machine σ) : Machine σ := ((round h c).outcome m).2

/-- The entry with which a run begins. -/
def opening : Log.Entry := .plain "INFO" "Event watcher started"

/-- The machine in a run that began with `m`, after so many transitions. -/
def amid (m : Machine σ) (i : Nat) : Machine σ :=
  (afterRound h c)^[i] ((report h opening).outcome m).2

/-- The end of a run, where everything is given up. -/
def conclude : Act (Machine σ) Unit := do
  dropClient h
  change fun w => { w with phase := .disconnected }
  report h (.plain "INFO" "Event watcher stopped")

variable {h} (hh : h.Fallible) {m : Machine σ}

/-- The next transition of a run. -/
theorem amid_succ (m : Machine σ) (i : Nat) : amid h c m (i + 1) = afterRound h c (amid h c m i) :=
  Function.iterate_succ_apply' ..

include hh

/-- A transition whose failure is reported comes to its end. -/
theorem round_outcome (hm : m.watcher.Coherent) :
    (round h c).outcome m = (.ok (), afterRound h c m) ∧ (afterRound h c m).watcher.Coherent := by
  obtain ⟨_, m', ho, hm'⟩ := (round_coherent hh c).total hm
  have hafter : afterRound h c m = m' := congrArg Prod.snd ho
  rw [hafter]
  exact ⟨ho, hm'⟩

/-- The state is coherent throughout a run. -/
theorem amid_coherent (hm : m.watcher.Coherent) (i : Nat) : (amid h c m i).watcher.Coherent := by
  induction i with
  | zero => exact hm
  | succ i ih =>
    rw [amid_succ]
    exact (round_outcome c hh ih).2

/-- **Transitions follow each other until a stop is requested, or until there were as many as may
be.** -/
theorem loop_outcome (hm : m.watcher.Coherent) (rounds : Nat) :
    ∃ k ≤ rounds, (∀ i < k, askedToStop ((afterRound h c)^[i] m) = false) ∧
      (loop h c rounds).outcome m =
        (.ok (askedToStop ((afterRound h c)^[k] m)), (afterRound h c)^[k] m) ∧
      (askedToStop ((afterRound h c)^[k] m) = false → k = rounds) := by
  induction rounds generalizing m with
  | zero => exact ⟨0, Nat.le_refl _, by simp, rfl, fun _ => rfl⟩
  | succ n ih =>
    have hloop : (loop h c (n + 1)).outcome m =
        (if askedToStop m then pure true else do round h c; loop h c n).outcome m := rfl
    rw [hloop]
    cases hstop : askedToStop m with
    | true => exact ⟨0, Nat.zero_le _, by simp, by simp [hstop], fun hs => by simp [hstop] at hs⟩
    | false =>
      obtain ⟨hround, hnext⟩ := round_outcome c hh hm
      obtain ⟨k, hk, hbefore, hend, hall⟩ := ih hnext
      refine ⟨k + 1, by omega, ?_, ?_, fun hs => by rw [hall hs]⟩
      · intro i hi
        cases i with
        | zero => exact hstop
        | succ i => exact hbefore i (by omega)
      · simp only [Bool.false_eq_true, if_false]
        rw [Act.outcome_bind, hround]
        exact hend

omit hh in
/-- A run, part by part. -/
theorem run_parts (rounds : Nat) : run h c rounds = (do
    report h opening
    let stopped ← loop h c rounds
    if stopped then
      conclude h
      return true
    return false) := by
  simp only [run, conclude, opening, bind_assoc]

include c in
/-- The end of a run leaves nothing behind. -/
theorem conclude_outcome (hm : m.watcher.Coherent) :
    ∃ m', (conclude h).outcome m = (.ok (), m') ∧ m'.watcher = {} := by
  obtain ⟨phase, hold, -, hat⟩ := (calm_bareOutline hh c).2 hm
  have ends : Spec ((bareOutline hh c).At phase hold .calm) (conclude h) (fun _ m => m.watcher = {})
      never := by
    refine Spec.bind ((bareOutline hh c).dropClient_spec phase hold rfl) fun _ => ?_
    refine Spec.bind change_spec fun _ => ?_
    exact (call_safe (hh.report _)).post (fun _ _ hm => hm.1) fun _ _ hm => hm
  obtain ⟨_, m', ho, hm'⟩ := ends.total hat
  exact ⟨m', ho, hm'⟩

/-- **A run comes to its end, or is still under way after all its transitions.** -/
theorem run_outcome (hm : m.watcher.Coherent) (rounds : Nat) :
    ∃ k ≤ rounds, (∀ i < k, askedToStop (amid h c m i) = false) ∧
      ((askedToStop (amid h c m k) = false ∧ k = rounds ∧
          (run h c rounds).outcome m = (.ok false, amid h c m k)) ∨
        ∃ m', askedToStop (amid h c m k) = true ∧ m'.watcher = {} ∧
          (conclude h).outcome (amid h c m k) = (.ok (), m') ∧
          (run h c rounds).outcome m = (.ok true, m')) := by
  obtain ⟨k, hk, hbefore, hend, hall⟩ := loop_outcome c hh (m := amid h c m 0) hm rounds
  refine ⟨k, hk, hbefore, ?_⟩
  have hstart : (report h opening).outcome m = (.ok (), amid h c m 0) := by
    obtain ⟨_, m', ho, -⟩ := Spec.total (call_safe (w := m.watcher) (hh.report opening))
      (s := m) ⟨rfl, trivial⟩
    have hok := congrArg Prod.fst ho
    exact Prod.ext hok rfl
  have hrun : (run h c rounds).outcome m =
      (if askedToStop (amid h c m k) then (do conclude h; return true) else pure false : Act _ _).outcome
        (amid h c m k) := by
    rw [run_parts, Act.outcome_bind, hstart]
    dsimp only
    rw [Act.outcome_bind, hend]
    rfl
  rw [hrun]
  cases hstop : askedToStop (amid h c m k) with
  | false => exact .inl ⟨rfl, hall hstop, rfl⟩
  | true =>
    obtain ⟨m', ho, hm'⟩ := conclude_outcome c hh (amid_coherent c hh hm k)
    refine .inr ⟨m', rfl, hm', ho, ?_⟩
    simp only [if_true]
    rw [Act.outcome_bind, ho]
    rfl

end

/-! ## Failed transitions -/

section

variable {σ : Type} {h : Host σ} (hh : h.Fallible) (c : WatchConfig) {m m' : Machine (Recorded σ)}

/-- What is done about a transition that was stopped by a failure: one entry, and one wait. -/
def amends (c : WatchConfig) (f : Fault) : List Deed :=
  [.began (.report (stepFailed f)), .done (.report (stepFailed f)),
    .began (.sleep c.reconnectInterval), .done (.sleep c.reconnectInterval)]

/-- How a run goes on after a transition from `m`. -/
inductive Survives (h : Host σ) (c : WatchConfig) (m m' : Machine (Recorded σ)) : Prop where
  /-- The transition came to its end, and the next one begins. -/
  | passed (phase : Phase) (hstep : (step h.recorded c).outcome m = (.ok phase, m'))
  /-- The transition was stopped by a failure: amends are made, and the next one begins in the same
  phase. -/
  | failed (f : Fault) (hf : f.isFailure = true) (stuck : Machine (Recorded σ))
      (hstep : (step h.recorded c).outcome m = (.error f, stuck))
      (hwatcher : m'.watcher = stuck.watcher) (hphase : m'.watcher.phase = m.watcher.phase)
      (hjournal : m'.outside.rest.journal = stuck.outside.rest.journal ++ amends c f)

/-- A call that does not fail is written down. -/
theorem written_safe {call : Call} {act : Act (Surroundings σ) Unit} {j : List Deed}
    (hact : Spec (fun _ => True) act (fun _ _ => True) never) :
    Spec (fun s => s.rest.journal = j) (act.recorded call fun _ => .done call)
      (fun _ s => s.rest.journal = j ++ [.began call, .done call]) never :=
  Act.Spec.recorded_never (P := (· = j)) (Q := fun _ k => k = j ++ [.began call, .done call]) hact
    fun _ _ hk => by rw [hk]

include hh

/-- A transition of a run is survived. -/
theorem afterRound_survives (hm : m.watcher.Coherent) :
    Survives h c m (afterRound h.recorded c m) := by
  obtain ⟨r, stuck, ho, hfailure, l, -, hstride⟩ := step_outcome_strode hh c hm
  have hattempt : (step h.recorded c).attempt.outcome m = (.ok r, stuck) := by
    rw [Act.outcome_attempt, ho]
    cases r with
    | ok phase => rfl
    | error f => simp only [hfailure f rfl, if_true]
  cases r with
  | ok phase =>
    have hround : (round h.recorded c).outcome m = (.ok (), stuck) := by
      rw [round, Act.outcome_bind, hattempt]
      rfl
    have hafter : afterRound h.recorded c m = stuck := congrArg Prod.snd hround
    rw [hafter]
    exact .passed phase ho
  | error f =>
    have amended : Spec (Stands stuck.watcher fun s => s.rest.journal = stuck.outside.rest.journal)
        (do reportFault h.recorded "ERROR" "Event watcher step failed" f
            backOff h.recorded c)
        (fun _ => Stands stuck.watcher fun s =>
          s.rest.journal = stuck.outside.rest.journal ++ amends c f) never := by
      refine Spec.bind (call_safe (written_safe (hh.report (stepFailed f)))) fun _ => ?_
      refine (call_safe (written_safe (hh.sleep _))).post (fun _ m hm => ⟨hm.1, ?_⟩) fun _ _ hm => hm
      exact hm.2.trans (List.append_assoc ..)
    obtain ⟨_, m', ho', hwatcher, hjournal⟩ := amended.total (s := stuck) ⟨rfl, rfl⟩
    have hround : (round h.recorded c).outcome m = (.ok (), m') := by
      rw [round, Act.outcome_bind, hattempt]
      exact ho'
    have hafter : afterRound h.recorded c m = m' := congrArg Prod.snd hround
    rw [hafter]
    refine .failed f (hfailure f rfl) stuck ho hwatcher ?_ hjournal
    rw [hwatcher]
    exact hstride.phase_of_error

/-- The course of a run: every transition of it is survived. -/
theorem run_course (hm : m.watcher.Coherent) (rounds : Nat) :
    ∃ k ≤ rounds, (∀ i < k, askedToStop (amid h.recorded c m i) = false ∧
        Survives h c (amid h.recorded c m i) (amid h.recorded c m (i + 1))) ∧
      ((askedToStop (amid h.recorded c m k) = false ∧ k = rounds ∧
          (run h.recorded c rounds).outcome m = (.ok false, amid h.recorded c m k)) ∨
        ∃ m', askedToStop (amid h.recorded c m k) = true ∧ m'.watcher = {} ∧
          (conclude h.recorded).outcome (amid h.recorded c m k) = (.ok (), m') ∧
          (run h.recorded c rounds).outcome m = (.ok true, m')) := by
  obtain ⟨k, hk, hbefore, hend⟩ := run_outcome c hh.recorded hm rounds
  refine ⟨k, hk, fun i hi => ⟨hbefore i hi, ?_⟩, hend⟩
  rw [amid_succ]
  exact afterRound_survives hh c (amid_coherent c hh.recorded hm i)

end

/-! ## Containment -/

/-- A host that takes the first table, but not the second one. -/
def sated : Surroundings (List Bool) where
  rest := [true, true, true, true, true, true, true, false]

end HostRouting.Watcher
