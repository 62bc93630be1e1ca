import HostRouting.Proofs.Containment

/-!
# Patience

A watcher waits once for each failure that costs it a connection, a subscription or a transition,
before it attempts anything else. So it never dials twice without a wait in between, unless the
stream of events came to its end.
-/

namespace HostRouting.Watcher

open Act (Spec failing never)

/-! ## Turns -/

section

variable {pause : Interval} {w w' w'' : Watcher} {l l' : List Deed} {raised : Bool} {n : Nat}

/-- The salient deeds of a transition, with the wait that follows if a failure stopped it. -/
inductive Turn (pause : Interval) : Watcher → List Deed → Bool → Watcher → Prop where
  /-- The transition came to its end. -/
  | passed {w w' : Watcher} {l : List Deed} {phase : Phase}
      (hl : Stride pause w l (.ok phase) w') : Turn pause w l false w'
  /-- A failure stopped it. -/
  | failed {w w' : Watcher} {l : List Deed} {f : Fault}
      (hl : Stride pause w l (.error f) w') : Turn pause w (l ++ [.began (.sleep pause)]) true w'

/-- In a turn there are as many waits as there are failures. -/
theorem Turn.countP_isWait (hl : Turn pause w l raised w') :
    l.countP Deed.isWait = l.countP Deed.isSetback + raised.toNat := by
  cases hl with
  | passed hl =>
    cases hl with
    | unsubscribed x f hf =>
      simp only [List.countP_cons, List.countP_nil, hf]
      rfl
    | _ => simp [Deed.isWait, Deed.isSetback, List.countP_cons]
  | failed hl => cases hl <;> simp [Deed.isWait, Deed.isSetback, List.countP_cons]

/-- There is a wait, or the marker for the end of the stream was taken once. -/
def Respite (l : List Deed) : Prop :=
  (∃ d ∈ l, d.isWait = true) ∨ l.countP Deed.isEnding = 1

/-- A wait among the deeds is enough. -/
theorem Respite.of_wait {l : List Deed} (hl : ∃ d ∈ l, d.isWait = true) (l' : List Deed) :
    Respite (l ++ l') := by
  obtain ⟨d, hd, hwait⟩ := hl
  exact .inl ⟨d, List.mem_append_left _ hd, hwait⟩

/-- What comes after deeds without the marker can be enough. -/
theorem Respite.of_append (hl : l.countP Deed.isEnding = 0) (hl' : Respite l') :
    Respite (l ++ l') := by
  rcases hl' with ⟨d, hd, hwait⟩ | hone
  · exact .inl ⟨d, List.mem_append_right _ hd, hwait⟩
  · refine .inr ?_
    rw [List.countP_append, hl, hone]

/-- From the first phase, a turn begins with its only dial; a turn that leads on needs no wait. -/
theorem Turn.of_disconnected (hl : Turn pause w l raised w') (hw : w.phase = .disconnected) :
    ∃ t, l = .began .connect :: t ∧ (∀ d ∈ t, d.isDial = false) ∧
      ((∃ d ∈ t, d.isWait = true) ∨ (w'.phase ≠ .disconnected ∧ t.countP Deed.isEnding = 0)) := by
  cases hl with
  | passed hl =>
    cases hl with
    | refused hold f => exact ⟨_, rfl, by simp [Deed.isDial], .inl (by simp [Deed.isWait])⟩
    | connected hold x =>
      exact ⟨_, rfl, by simp [Deed.isDial], .inr ⟨by simp [holding], by simp [Deed.isEnding]⟩⟩
    | lost phase hphase => exact absurd hw hphase
    | _ => cases hw
  | failed hl =>
    cases hl with
    | unpublished => exact ⟨_, rfl, by simp [Deed.isDial], .inl (by simp [Deed.isWait])⟩
    | _ => cases hw

/-- From the other phases no turn dials, and it comes back to the first one only with a wait or with
the marker for the end of the stream. -/
theorem Turn.of_connected (hl : Turn pause w l raised w') (hw : w.phase ≠ .disconnected) :
    (∀ d ∈ l, d.isDial = false) ∧ ((∃ d ∈ l, d.isWait = true) ∨
      l.countP Deed.isEnding = if w'.phase = .disconnected then 1 else 0) := by
  cases hl with
  | passed hl =>
    cases hl with
    | refused | connected => exact absurd rfl hw
    | closed => exact ⟨by simp [Deed.isDial], .inr (by simp [holding, Deed.isEnding, List.countP_cons])⟩
    | lost | unsubscribed => exact ⟨by simp [Deed.isDial], .inl (by simp [Deed.isWait])⟩
    | _ => exact ⟨by simp [Deed.isDial], .inr (by simp [holding, Deed.isEnding])⟩
  | failed hl =>
    cases hl with
    | unpublished => exact absurd rfl hw
    | _ => exact ⟨by simp [Deed.isDial], .inl (by simp [Deed.isWait])⟩

/-- Every failure is followed by a wait at once. -/
def prompt : List Deed → Bool
  | [] => true
  | d :: rest => (!d.isSetback || rest.head?.any Deed.isWait) && prompt rest

/-- In a turn every failure is followed by a wait at once. -/
theorem Turn.prompt (hl : Turn pause w l raised w') : prompt l = true := by
  cases hl with
  | passed hl => cases hl <;> simp [Watcher.prompt, Deed.isSetback, Deed.isWait]
  | failed hl => cases hl <;> rfl

/-! ## Walks -/

/-- The salient deeds of turns one after the other, and how many of them were stopped by failures. -/
inductive Walk (pause : Interval) : Watcher → List Deed → Nat → Watcher → Prop where
  | nil (w : Watcher) : Walk pause w [] 0 w
  | cons {w w' w'' : Watcher} {l l' : List Deed} {raised : Bool} {n : Nat}
      (hl : Turn pause w l raised w') (hl' : Walk pause w' l' n w'') :
      Walk pause w (l ++ l') (raised.toNat + n) w''

/-- In a walk there are as many waits as there are failures. -/
theorem Walk.countP_isWait (hl : Walk pause w l n w') :
    l.countP Deed.isWait = l.countP Deed.isSetback + n := by
  induction hl with
  | nil => rfl
  | cons hl hl' ih =>
    rw [List.countP_append, List.countP_append, hl.countP_isWait, ih]
    omega

/-- Lists in which every failure is followed by a wait at once can be put together. -/
theorem prompt_append (hl : prompt l = true) (hl' : prompt l' = true) : prompt (l ++ l') = true := by
  induction l with
  | nil => exact hl'
  | cons d rest ih =>
    simp only [prompt, Bool.and_eq_true, Bool.or_eq_true] at hl
    obtain ⟨hd, hrest⟩ := hl
    simp only [List.cons_append, prompt, Bool.and_eq_true, Bool.or_eq_true]
    refine ⟨hd.imp_right fun hnext => ?_, ih hrest⟩
    cases rest with
    | nil => cases hnext
    | cons e rest => exact hnext

/-- What comes after a failure in such a list. -/
theorem eq_cons_of_prompt {before after : List Deed} {d : Deed}
    (hl : prompt (before ++ d :: after) = true) (hd : d.isSetback = true) :
    ∃ e rest, after = e :: rest ∧ e.isWait = true := by
  induction before with
  | nil =>
    simp only [List.nil_append, prompt, hd, Bool.not_true, Bool.false_or, Bool.and_eq_true] at hl
    cases after with
    | nil => cases hl.1
    | cons e rest => exact ⟨e, rest, rfl, hl.1⟩
  | cons b before ih =>
    simp only [List.cons_append, prompt, Bool.and_eq_true] at hl
    exact ih hl.2

/-- In a walk every failure is followed by a wait at once. -/
theorem Walk.prompt (hl : Walk pause w l n w') : prompt l = true := by
  induction hl with
  | nil => rfl
  | cons hl hl' ih => exact prompt_append hl.prompt ih

/-- Two lists put together are parted at an element of the one or of the other. -/
theorem append_eq_part {α : Type} {before after l l' : List α} {x : α} :
    l ++ l' = before ++ x :: after ↔
      (∃ mid, l = before ++ x :: mid ∧ after = mid ++ l') ∨
        ∃ mid, before = l ++ mid ∧ l' = mid ++ x :: after := by
  rw [List.append_eq_append_iff]
  constructor
  · rintro (⟨mid, hbefore, hl'⟩ | ⟨mid, hl, hafter⟩)
    · exact .inr ⟨mid, hbefore, hl'⟩
    · rcases List.cons_eq_append_iff.1 hafter with ⟨rfl, rfl⟩ | ⟨rest, rfl, hrest⟩
      · exact .inr ⟨[], by simpa using hl.symm, rfl⟩
      · exact .inl ⟨rest, hl, hrest⟩
  · rintro (⟨mid, rfl, rfl⟩ | ⟨mid, rfl, rfl⟩)
    · exact .inr ⟨x :: mid, rfl, rfl⟩
    · exact .inl ⟨mid, rfl, rfl⟩

variable {before mid after : List Deed} {d e : Deed}

/-- From the first phase, nothing comes before the first dial. -/
theorem Walk.eq_nil_of_dial (hl : Walk pause w (before ++ d :: after) n w')
    (hw : w.phase = .disconnected) (hbefore : ∀ b ∈ before, b.isDial = false) : before = [] := by
  generalize hpart : before ++ d :: after = l at hl
  cases hl with
  | nil => simp at hpart
  | cons hl hl' =>
    obtain ⟨t, rfl, -, -⟩ := hl.of_disconnected hw
    cases before with
    | nil => rfl
    | cons b before =>
      -- the first deed of all is a dial
      have hb : b = .began .connect := (List.cons.inj hpart).1
      have := hbefore b (by simp)
      rw [hb] at this
      cases this

/-- From the other phases there is respite before the first dial. -/
theorem Walk.respite_of_dial (hl : Walk pause w l n w') (hpart : l = before ++ d :: after)
    (hw : w.phase ≠ .disconnected) (hd : d.isDial = true)
    (hbefore : ∀ b ∈ before, b.isDial = false) : Respite before := by
  induction hl generalizing before with
  | nil => simp at hpart
  | @cons w w₁ w' l l' raised n hl hl' ih =>
    obtain ⟨hquiet, hl⟩ := hl.of_connected hw
    rcases append_eq_part.1 hpart with ⟨mid, rfl, -⟩ | ⟨mid, rfl, rfl⟩
    · -- there is no dial in the turn
      have := hquiet d (by simp)
      rw [hd] at this
      cases this
    · have hmid : ∀ b ∈ mid, b.isDial = false := fun b hb => hbefore b (by simp [hb])
      rcases hl with hwait | hends
      · exact .of_wait hwait mid
      · by_cases hw₁ : w₁.phase = .disconnected
        · -- the next turn begins with the dial
          obtain rfl := hl'.eq_nil_of_dial hw₁ hmid
          refine .inr ?_
          rw [List.append_nil, hends, if_pos hw₁]
        · rw [if_neg hw₁] at hends
          exact .of_append hends (ih rfl hw₁ hmid)

/-- **Between two dials there is respite.** -/
theorem Walk.respite (hl : Walk pause w l n w')
    (hpart : l = before ++ d :: (mid ++ e :: after)) (hd : d.isDial = true) (he : e.isDial = true)
    (hmid : ∀ b ∈ mid, b.isDial = false) : Respite mid := by
  induction hl generalizing before with
  | nil => simp at hpart
  | @cons w w₁ w' l l' raised n hl hl' ih =>
    rcases append_eq_part.1 hpart with ⟨rest, rfl, hrest⟩ | ⟨rest, rfl, rfl⟩
    · by_cases hw : w.phase = .disconnected
      · obtain ⟨t, ht, hquiet, hl⟩ := hl.of_disconnected hw
        -- the first dial opens the turn, and the other one is not of the same turn
        obtain ⟨rfl, hdt⟩ : before = [] ∧ rest = t := by
          cases before with
          | nil => exact ⟨rfl, (List.cons.inj ht).2⟩
          | cons b before =>
            have := hquiet d (by rw [← (List.cons.inj ht).2]; simp)
            rw [hd] at this
            cases this
        subst hdt
        rcases append_eq_part.1 hrest.symm with ⟨_, rfl, -⟩ | ⟨mid', rfl, rfl⟩
        · have := hquiet e (by simp)
          rw [he] at this
          cases this
        · rcases hl with hwait | ⟨hw₁, hends⟩
          · exact .of_wait hwait mid'
          · refine .of_append hends (hl'.respite_of_dial rfl hw₁ he fun b hb => ?_)
            exact hmid b (by simp [hb])
      · have := (hl.of_connected hw).1 d (by simp)
        rw [hd] at this
        cases this
    · exact ih rfl

/-! ## Patient journals -/

/-- What a journal of transitions says about waiting, if so many of them were stopped by failures. -/
structure Patient (j : List Deed) (raised : Nat) : Prop where
  /-- There is one wait for each failure. -/
  waits : j.countP Deed.isWait = j.countP Deed.isSetback + raised
  /-- After a failure the wait comes before anything is attempted, and before another failure. -/
  heeds : ∀ before d after, j = before ++ d :: after → d.isSetback = true →
    ∃ calm e rest, after = calm ++ e :: rest ∧ e.isWait = true ∧ ∀ b ∈ calm, b.isSalient = false
  /-- Between two connection attempts there is a wait, or the marker for the end of the stream is
  taken once. -/
  paces : ∀ before d mid e after, j = before ++ d :: (mid ++ e :: after) → d.isDial = true →
    e.isDial = true → (∀ b ∈ mid, b.isDial = false) → Respite mid

/-- What passes a test for salient deeds is counted in the salient deeds. -/
theorem countP_filter_isSalient {p : Deed → Bool} (hp : ∀ d, p d = true → d.isSalient = true)
    (j : List Deed) : (j.filter Deed.isSalient).countP p = j.countP p := by
  rw [List.countP_filter]
  refine List.countP_congr fun d _ => ?_
  have := hp d
  simp only [Bool.and_eq_true]
  exact ⟨fun h => h.1, fun h => ⟨h, this h⟩⟩

theorem isSalient_of_isSetback (hd : d.isSetback = true) : d.isSalient = true := by
  simp [Deed.isSalient, hd]

theorem isSalient_of_isWait (hd : d.isWait = true) : d.isSalient = true := by
  simp [Deed.isSalient, hd]

theorem isSalient_of_isEnding (hd : d.isEnding = true) : d.isSalient = true := by
  simp [Deed.isSalient, hd]

/-- To dial is to attempt something. -/
theorem isSalient_of_isDial (hd : d.isDial = true) : d.isSalient = true := by
  unfold Deed.isDial at hd
  split at hd
  · rfl
  · cases hd

/-- **A journal whose salient deeds are a walk is patient.** -/
theorem Walk.patient {j : List Deed} (hl : Walk pause w (j.filter Deed.isSalient) n w') :
    Patient j n where
  waits := by
    have := hl.countP_isWait
    rwa [countP_filter_isSalient fun _ => isSalient_of_isWait,
      countP_filter_isSalient fun _ => isSalient_of_isSetback] at this
  heeds before d after hpart hd := by
    have hprompt := hl.prompt
    rw [hpart, List.filter_append, List.filter_cons_of_pos (isSalient_of_isSetback hd)] at hprompt
    obtain ⟨e, rest, hafter, he⟩ := eq_cons_of_prompt hprompt hd
    obtain ⟨calm, rest', hcalm, hquiet, -, -⟩ := List.filter_eq_cons_iff.1 hafter
    exact ⟨calm, e, rest', hcalm, he, fun b hb => by simpa using hquiet b hb⟩
  paces before d mid e after hpart hd he hmid := by
    have hsalient : j.filter Deed.isSalient = before.filter Deed.isSalient ++
        d :: (mid.filter Deed.isSalient ++ e :: after.filter Deed.isSalient) := by
      rw [hpart, List.filter_append, List.filter_cons_of_pos (isSalient_of_isDial hd),
        List.filter_append, List.filter_cons_of_pos (isSalient_of_isDial he)]
    have hrespite := hl.respite hsalient hd he fun b hb => hmid b (List.mem_filter.1 hb).1
    rcases hrespite with ⟨b, hb, hwait⟩ | hone
    · exact .inl ⟨b, (List.mem_filter.1 hb).1, hwait⟩
    · refine .inr ?_
      rwa [countP_filter_isSalient fun _ => isSalient_of_isEnding] at hone

end

/-! ## Runs -/

section

variable {σ : Type} {h : Host σ} (hh : h.Fallible) (c : WatchConfig) {m : Machine (Recorded σ)}

/-- The next transition is stopped by a failure. -/
def breaksOff {σ : Type} (h : Host σ) (c : WatchConfig) (m : Machine σ) : Bool :=
  !((step h c).outcome m).1.toBool

include hh

/-- A transition of a run is a turn. -/
theorem afterRound_turn (hm : m.watcher.Coherent) :
    ∃ l, Since m.outside.rest.journal l (afterRound h.recorded c m).outside ∧
      Turn c.reconnectInterval m.watcher l (breaksOff h.recorded c m)
        (afterRound h.recorded c m).watcher := by
  obtain ⟨r, stuck, ho, -, l, hl, hstride⟩ := step_outcome_strode hh c hm
  cases afterRound_survives hh c hm with
  | passed phase hstep =>
    obtain ⟨rfl, rfl⟩ := Prod.mk.inj (hstep.symm.trans ho)
    have hraised : breaksOff h.recorded c m = false := by rw [breaksOff, hstep]; rfl
    rw [hraised]
    exact ⟨l, hl, .passed hstride⟩
  | failed f hf stuck' hstep hwatcher hphase hjournal =>
    obtain ⟨rfl, rfl⟩ := Prod.mk.inj (hstep.symm.trans ho)
    have hraised : breaksOff h.recorded c m = true := by rw [breaksOff, hstep]; rfl
    rw [hraised, hwatcher]
    exact ⟨_, hl.trans ⟨amends c f, hjournal, rfl⟩, .failed hstride⟩

/-- Transitions of a run one after the other are a walk. -/
theorem afterRounds_walk (hm : m.watcher.Coherent) (k : Nat) :
    ∃ l, Since m.outside.rest.journal l ((afterRound h.recorded c)^[k] m).outside ∧
      Walk c.reconnectInterval m.watcher l
        ((List.range k).countP fun i => breaksOff h.recorded c ((afterRound h.recorded c)^[i] m))
        ((afterRound h.recorded c)^[k] m).watcher := by
  induction k generalizing m with
  | zero => exact ⟨[], ⟨[], by simp, rfl⟩, .nil _⟩
  | succ k ih =>
    obtain ⟨l, hl, hturn⟩ := afterRound_turn hh c hm
    obtain ⟨l', hl', hwalk⟩ := ih (round_outcome c hh.recorded hm).2
    refine ⟨l ++ l', hl.trans hl', ?_⟩
    have hcount : ((List.range (k + 1)).countP fun i =>
          breaksOff h.recorded c ((afterRound h.recorded c)^[i] m)) =
        (breaksOff h.recorded c m).toNat + (List.range k).countP fun i =>
          breaksOff h.recorded c ((afterRound h.recorded c)^[i] (afterRound h.recorded c m)) := by
      rw [List.range_succ_eq_map, List.countP_cons, List.countP_map, Nat.add_comm,
        Function.iterate_zero_apply]
      cases breaksOff h.recorded c m <;> rfl
    rw [hcount]
    exact .cons hturn hwalk

/-- A run begins with its entry. -/
theorem amid_zero_journal (m : Machine (Recorded σ)) :
    (amid h.recorded c m 0).outside.rest.journal =
        m.outside.rest.journal ++ [.began (.report opening), .done (.report opening)] ∧
      (amid h.recorded c m 0).watcher = m.watcher := by
  obtain ⟨_, m', ho, hw, hs⟩ := Spec.total (call_safe (w := m.watcher)
    (written_safe (j := m.outside.rest.journal) (hh.report opening))) (s := m) ⟨rfl, rfl⟩
  have hbegun : amid h.recorded c m 0 = m' := congrArg Prod.snd ho
  rw [hbegun]
  exact ⟨hs, hw⟩

/-- The end of a run is no matter of waiting. -/
theorem conclude_since (hm : m.watcher.Coherent) {m' : Machine (Recorded σ)}
    (ho : (conclude h.recorded).outcome m = (.ok (), m')) :
    Since m.outside.rest.journal [] m'.outside := by
  obtain ⟨hold, -, hw⟩ := coherent_iff.1 hm
  have quiet : Spec (Stands (holding m.watcher.phase hold) (Since m.outside.rest.journal []))
      (conclude h.recorded) (fun _ m' => Since m.outside.rest.journal [] m'.outside) never := by
    refine Spec.bind (dropClient_since hh m.watcher.phase hold) fun _ => ?_
    refine Spec.bind change_spec fun _ => ?_
    exact (report_since hh _ _).post (fun _ _ hm => hm.2) fun _ _ hm => hm
  exact quiet.of_ok ⟨hw, [], by simp, rfl⟩ ho

/-- Whatever becomes of a run, its first entry is in the journal. -/
theorem run_announced (hm : m.watcher.Coherent) (rounds : Nat) :
    ∃ stopped m' new, (run h.recorded c rounds).outcome m = (.ok stopped, m') ∧
      m'.outside.rest.journal = m.outside.rest.journal ++ .began (.report opening) :: new := by
  obtain ⟨k, -, -, hend⟩ := run_course hh c hm rounds
  obtain ⟨l, ⟨new, hnew, -⟩, -⟩ := afterRounds_walk hh c (amid_coherent c hh.recorded hm 0) k
  rw [(amid_zero_journal hh c m).1, List.append_assoc] at hnew
  rcases hend with ⟨-, -, hrun⟩ | ⟨m', -, -, hconclude, hrun⟩
  · exact ⟨false, _, _, hrun, hnew⟩
  · obtain ⟨new', hnew', -⟩ := conclude_since hh (amid_coherent c hh.recorded hm k) hconclude
    refine ⟨true, m', .done (.report opening) :: (new ++ new'), hrun, ?_⟩
    rw [hnew']
    have : (amid h.recorded c m k).outside.rest.journal = _ := hnew
    rw [this]
    simp

end

/-- **Every run is patient.** After so many transitions as it makes, it has waited once for each
failed connection, ping and subscription and once for each transition that was stopped; no attempt
comes between a failure and its wait; and between two connection attempts there is a wait, or the
marker for the end of the stream was taken once. -/
theorem run_patient {σ : Type} {h : Host σ} (hh : h.Fallible) (c : WatchConfig)
    (s : Surroundings σ) (demands : List (Demand (Recorded σ))) (rounds : Nat) :
    let m := heeded h.recorded c (afresh s) demands
    ∃ k ≤ rounds, ∃ stopped m' new, (run h.recorded c rounds).outcome m = (.ok stopped, m') ∧
      (∀ i < k, askedToStop (amid h.recorded c m i) = false ∧
        Survives h c (amid h.recorded c m i) (amid h.recorded c m (i + 1))) ∧
      askedToStop (amid h.recorded c m k) = stopped ∧ (stopped = false → k = rounds) ∧
      m'.outside.rest.journal = m.outside.rest.journal ++ new ∧
      Patient new ((List.range k).countP fun i => breaksOff h.recorded c (amid h.recorded c m i)) := by
  intro m
  have hm : m.watcher.Coherent := heeded_coherent c hh.recorded coherent_fresh demands
  obtain ⟨k, hk, hsurvives, hend⟩ := run_course hh c hm rounds
  obtain ⟨l, hl, hwalk⟩ := afterRounds_walk hh c (amid_coherent c hh.recorded hm 0) k
  have hbegun : Since m.outside.rest.journal [] (amid h.recorded c m 0).outside :=
    ⟨_, (amid_zero_journal hh c m).1, rfl⟩
  have hcourse : Since m.outside.rest.journal l (amid h.recorded c m k).outside := hbegun.trans hl
  rcases hend with ⟨hstop, rfl, hrun⟩ | ⟨m', hstop, -, hconclude, hrun⟩
  · obtain ⟨new, hnew, rfl⟩ := hcourse
    exact ⟨k, hk, false, _, new, hrun, hsurvives, hstop, fun _ => rfl, hnew, hwalk.patient⟩
  · have hconcluded := conclude_since hh (amid_coherent c hh.recorded hm k) hconclude
    obtain ⟨new, hnew, hsalient⟩ := hcourse.trans hconcluded
    rw [List.append_nil] at hsalient
    rw [← hsalient] at hwalk
    exact ⟨k, hk, true, m', new, hrun, hsurvives, hstop, by simp, hnew, hwalk.patient⟩

/-- A host that lets a connection, a ping, a subscription and a table fail, one after the other, and
where the stream ends before the table. -/
def trying : Surroundings (List Bool) where
  rest := [false, true, true, false, true, true, true, false, true, true, true, true, true, false]

/-- A run of eight transitions with four waits: three for failed calls, one for the table. -/
theorem run_patient_moody :
    let m : Machine (Recorded (List Bool)) := afresh trying
    let j := ((run moody.recorded byDefault 10).outcome m).2.outside.rest.journal
    moody.Fallible ∧ j.countP Deed.isWait = 4 ∧ j.countP Deed.isSetback = 3 ∧
      j.countP Deed.isDial = 4 ∧ j.countP Deed.isEnding = 1 ∧
      ∃ k ≤ 10, ∃ stopped m' new, (run moody.recorded byDefault 10).outcome m = (.ok stopped, m') ∧
        (∀ i < k, askedToStop (amid moody.recorded byDefault m i) = false ∧
          Survives moody byDefault (amid moody.recorded byDefault m i)
            (amid moody.recorded byDefault m (i + 1))) ∧
        askedToStop (amid moody.recorded byDefault m k) = stopped ∧ (stopped = false → k = 10) ∧
        m'.outside.rest.journal = m.outside.rest.journal ++ new ∧
        Patient new ((List.range k).countP fun i =>
          breaksOff moody.recorded byDefault (amid moody.recorded byDefault m i)) := by
  intro m j
  refine ⟨moody_fallible, ?_, ?_, ?_, ?_, run_patient moody_fallible byDefault trying [] 10⟩
  all_goals decide +kernel

end HostRouting.Watcher
