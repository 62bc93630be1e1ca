import HostRouting.Watcher

/-!
# Acts that go alike

Two acts go alike if, wherever their states are alike, they come to the same result and leave states
that are alike. If the calls of two hosts go alike, so do the watchers that make them, for as long as
they run.
-/

namespace HostRouting

/-! ## Acts -/

/-- From states that are alike, both acts come to the same result and to states that are alike. -/
def Act.Likewise {σ τ α : Type} (R : σ → τ → Prop) (act : Act σ α) (act' : Act τ α) : Prop :=
  ∀ s t, R s t →
    (act.outcome s).1 = (act'.outcome t).1 ∧ R (act.outcome s).2 (act'.outcome t).2

namespace Act.Likewise

variable {σ τ α β : Type} {R : σ → τ → Prop} {act : Act σ α} {act' : Act τ α}

/-- The same value. -/
theorem pure (a : α) : Likewise R (Pure.pure a) (Pure.pure a) := fun _ _ hR => ⟨rfl, hR⟩

/-- The same fault. -/
theorem fail (f : Fault) : Likewise R (Act.fail f : Act σ α) (Act.fail f) := fun _ _ hR => ⟨rfl, hR⟩

/-- The result of the same computation. -/
theorem ofExcept (r : Except Fault α) : Likewise R (Act.ofExcept r) (Act.ofExcept r) := by
  cases r with
  | ok a => exact pure a
  | error f => exact fail f

/-- The acts end in the same way. -/
theorem outcomes (h : Likewise R act act') {s : σ} {t : τ} (hR : R s t) :
    ∃ r s' t', act.outcome s = (r, s') ∧ act'.outcome t = (r, t') ∧ R s' t' := by
  obtain ⟨hresult, hafter⟩ := h s t hR
  exact ⟨_, _, _, rfl, Prod.ext hresult.symm rfl, hafter⟩

/-- One act after the other. -/
theorem bind {first : Act σ β} {first' : Act τ β} {next : β → Act σ α} {next' : β → Act τ α}
    (h : Likewise R first first') (hnext : ∀ b, Likewise R (next b) (next' b)) :
    Likewise R (first >>= next) (first' >>= next') := by
  intro s t hR
  obtain ⟨r, s', t', hs, ht, hR'⟩ := h.outcomes hR
  rw [outcome_bind, outcome_bind, hs, ht]
  cases r with
  | ok b => exact hnext b s' t' hR'
  | error f => exact ⟨rfl, hR'⟩

/-- A part of the state that is the same in both. -/
theorem gets {f : σ → α} {g : τ → α} (h : ∀ s t, R s t → f s = g t) :
    Likewise R (Act.gets f) (Act.gets g) :=
  fun s t hR => ⟨congrArg Except.ok (h s t hR), hR⟩

/-- The state is read before something is done. -/
theorem read_bind {next : σ → Act σ α} {next' : τ → Act τ α}
    (h : ∀ s t, R s t → Likewise R (next s) (next' t)) :
    Likewise R (Act.read >>= next) (Act.read >>= next') :=
  fun s t hR => h s t hR s t hR

/-- Changes of the state. -/
theorem update {f : σ → σ} {g : τ → τ} (h : ∀ s t, R s t → R (f s) (g t)) :
    Likewise R (Act.update f) (Act.update g) :=
  fun s t hR => ⟨rfl, h s t hR⟩

/-- Taking down how the acts end. -/
theorem result (h : Likewise R act act') : Likewise R act.result act'.result := by
  intro s t hR
  obtain ⟨hresult, hafter⟩ := h s t hR
  exact ⟨congrArg Except.ok hresult, hafter⟩

/-- Recovering from failures. -/
theorem attempt (h : Likewise R act act') : Likewise R act.attempt act'.attempt := by
  intro s t hR
  obtain ⟨r, s', t', hs, ht, hR'⟩ := h.outcomes hR
  rw [outcome_attempt, outcome_attempt, hs, ht]
  cases r with
  | ok a => exact ⟨rfl, hR'⟩
  | error f =>
    dsimp only
    split <;> exact ⟨rfl, hR'⟩

/-- Acts on parts of the states. -/
theorem within {υ ω : Type} {get : υ → σ} {set : σ → υ → υ} {get' : ω → τ} {set' : τ → ω → ω}
    {S : υ → ω → Prop} (h : Likewise R act act') (hget : ∀ u v, S u v → R (get u) (get' v))
    (hset : ∀ u v s t, S u v → R s t → S (set s u) (set' t v)) :
    Likewise S (act.within get set) (act'.within get' set') := by
  intro u v hS
  obtain ⟨hresult, hafter⟩ := h _ _ (hget u v hS)
  exact ⟨hresult, hset u v _ _ hS hafter⟩

/-- Going through a list. -/
theorem mapM {γ : Type} {f : γ → Act σ α} {g : γ → Act τ α} (xs : List γ)
    (h : ∀ x ∈ xs, Likewise R (f x) (g x)) : Likewise R (xs.mapM f) (xs.mapM g) := by
  induction xs with
  | nil => exact pure _
  | cons x xs ih =>
    rw [List.mapM_cons, List.mapM_cons]
    refine bind (h x (by simp)) fun a => ?_
    exact bind (ih fun y hy => h y (by simp [hy])) fun _ => pure _

/-- Going through a list without a value. -/
theorem forM {γ : Type} {f : γ → Act σ PUnit} {g : γ → Act τ PUnit} (xs : List γ)
    (h : ∀ x ∈ xs, Likewise R (f x) (g x)) : Likewise R (xs.forM f) (xs.forM g) := by
  induction xs with
  | nil => exact pure _
  | cons x xs ih => exact bind (h x (by simp)) fun _ => ih fun y hy => h y (by simp [hy])

end Act.Likewise

open Act (Likewise)

/-! ## Hosts -/

/-- The calls that make up a pass go alike. -/
structure Host.Surveying {σ τ : Type} (R : Surroundings σ → Surroundings τ → Prop) (h : Host σ)
    (h' : Host τ) : Prop where
  list : ∀ c, Act.Likewise R (h.list c) (h'.list c)
  inspect : ∀ c id, Act.Likewise R (h.inspect c id) (h'.inspect c id)
  report : ∀ e, Act.Likewise R (h.report e) (h'.report e)

/-- All calls of the hosts go alike, and stops are requested alike. -/
structure Host.Likewise {σ τ : Type} (R : Surroundings σ → Surroundings τ → Prop) (h : Host σ)
    (h' : Host τ) : Prop extends Host.Surveying R h h' where
  connect : Act.Likewise R h.connect h'.connect
  ping : ∀ c, Act.Likewise R (h.ping c) (h'.ping c)
  addListener : ∀ c q, Act.Likewise R (h.addListener c q) (h'.addListener c q)
  removeListener : ∀ c q, Act.Likewise R (h.removeListener c q) (h'.removeListener c q)
  close : ∀ c, Act.Likewise R (h.close c) (h'.close c)
  take : ∀ q t, Act.Likewise R (h.take q t) (h'.take q t)
  sleep : ∀ t, Act.Likewise R (h.sleep t) (h'.sleep t)
  publish : ∀ t, Act.Likewise R (h.publish t) (h'.publish t)
  openMailbox : ∀ n, Act.Likewise R (Surroundings.openMailbox n) (Surroundings.openMailbox n)
  stopRequested : ∀ s t, R s t → s.control.stopRequested = t.control.stopRequested

namespace Host.Surveying

variable {σ τ : Type} {R : Surroundings σ → Surroundings τ → Prop} {h : Host σ} {h' : Host τ}

theorem inspectOne (w : Host.Surveying R h h') (client : ClientId) (id : Json) :
    Act.Likewise R (h.inspectOne client id) (h'.inspectOne client id) := by
  refine .bind (w.inspect client id).attempt fun r => ?_
  cases r with
  | ok c => exact .pure _
  | error f => exact .bind (.ofExcept _) fun short => .bind (w.report _) fun _ => .pure _

theorem inspectAll (w : Host.Surveying R h h') (client : ClientId) (size : Nat) (ids : List Json) :
    Act.Likewise R (h.inspectAll client size ids) (h'.inspectAll client size ids) := by
  fun_induction Host.inspectAll h client size ids with
  | case1 =>
    rw [Host.inspectAll]
    exact .pure _
  | case2 id rest ih =>
    rw [Host.inspectAll]
    refine .bind (.mapM _ fun id _ => (w.inspectOne client id).result) fun now => ?_
    exact .bind ih fun later => .pure _

theorem resolveOne (w : Host.Surveying R h h') (ports : List String) (c : Container) :
    Act.Likewise R (h.resolveOne ports c) (h'.resolveOne ports c) := by
  refine .bind (.ofExcept _) fun r => .bind (.ofExcept _) fun e => ?_
  cases e with
  | none => exact .pure _
  | some e => exact .bind (w.report e) fun _ => .pure _

theorem assemble (w : Host.Surveying R h h') (ports seen : List String) (cs : List Container) :
    Act.Likewise R (h.assemble ports seen cs) (h'.assemble ports seen cs) := by
  induction cs generalizing seen with
  | nil => exact .pure _
  | cons c cs ih =>
    rw [Host.assemble, Host.assemble]
    refine .bind (w.resolveOne ports c) fun o => ?_
    cases o with
    | none => exact ih seen
    | some r =>
      dsimp only
      split
      · exact .bind (.ofExcept _) fun e => .bind (w.report e) fun _ => ih seen
      · exact .bind (ih _) fun rs => .pure _

/-- A pass goes alike. -/
theorem enumerate (w : Host.Surveying R h h') (ports : List String) (workers : Workers)
    (client : ClientId) :
    Act.Likewise R (h.enumerate ports workers client) (h'.enumerate ports workers client) := by
  refine .bind (w.list client) fun ids => .bind (w.inspectAll client _ ids) fun rs => ?_
  exact .bind (.mapM rs fun r _ => .ofExcept r) fun found => .bind (w.assemble ports [] _) fun _ => .pure _

end Host.Surveying

/-! ## Watchers -/

/-- The watchers are in the same state, and their surroundings are alike. -/
def Machine.Beside {σ τ : Type} (R : Surroundings σ → Surroundings τ → Prop) (m : Machine σ)
    (n : Machine τ) : Prop :=
  m.watcher = n.watcher ∧ R m.outside n.outside

namespace Host.Likewise

open Machine (Beside)

variable {σ τ α : Type} {R : Surroundings σ → Surroundings τ → Prop} {h : Host σ} {h' : Host τ}

/-! ### Parts of the transitions -/

theorem call {act : Act (Surroundings σ) α} {act' : Act (Surroundings τ) α}
    (w : Act.Likewise R act act') : Act.Likewise (Beside R) (Watcher.call act) (Watcher.call act') :=
  w.within (fun _ _ hm => hm.2) fun _ _ _ _ hm hs => ⟨hm.1, hs⟩

theorem state : Act.Likewise (Beside R) Watcher.state Watcher.state := .gets fun _ _ hm => hm.1

theorem change (f : Watcher → Watcher) :
    Act.Likewise (Beside R) (Watcher.change f) (Watcher.change f) :=
  .update fun _ _ hm => ⟨congrArg f hm.1, hm.2⟩

theorem reportFault (w : Host.Likewise R h h') (level what : String) (f : Fault) :
    Act.Likewise (Beside R) (Watcher.reportFault h level what f) (Watcher.reportFault h' level what f) :=
  call (w.report _)

variable (c : WatchConfig)

theorem refresh (w : Host.Likewise R h h') :
    Act.Likewise (Beside R) (Watcher.refresh h c) (Watcher.refresh h' c) := by
  refine .bind state fun v => ?_
  split
  · exact .pure _
  · refine .bind (call (w.toSurveying.enumerate _ _ _)).attempt fun r => ?_
    cases r with
    | error f => exact .bind (w.reportFault _ _ f) fun _ => .pure _
    | ok t => exact .bind (call (w.report _)) fun _ => .bind (call (w.publish t)) fun _ => .pure _

theorem unsubscribe (w : Host.Likewise R h h') :
    Act.Likewise (Beside R) (Watcher.unsubscribe h) (Watcher.unsubscribe h') := by
  refine .bind state fun v => ?_
  split
  · refine .bind (call (w.removeListener _ _)).attempt fun r => ?_
    cases r with
    | ok u => exact .pure _
    | error f => exact w.reportFault _ _ f
  · exact .pure _

theorem closeClient (w : Host.Likewise R h h') :
    Act.Likewise (Beside R) (Watcher.closeClient h) (Watcher.closeClient h') := by
  refine .bind state fun v => ?_
  split
  · exact .pure _
  · refine .bind (call (w.close _)).attempt fun r => ?_
    cases r with
    | ok u => exact .pure _
    | error f => exact w.reportFault _ _ f

theorem dropClient (w : Host.Likewise R h h') :
    Act.Likewise (Beside R) (Watcher.dropClient h) (Watcher.dropClient h') :=
  .bind w.unsubscribe fun _ => .bind w.closeClient fun _ => change _

theorem pingClient (w : Host.Likewise R h h') (client : ClientId) :
    Act.Likewise (Beside R) (Watcher.ping h c client) (Watcher.ping h' c client) := by
  refine .bind (call (w.ping client)).attempt fun r => ?_
  cases r with
  | ok u => exact .pure _
  | error f =>
    refine .bind (w.reportFault _ _ f) fun _ => .bind w.dropClient fun _ => ?_
    exact .bind (call (w.sleep _)) fun _ => .pure _

/-! ### The transitions -/

theorem fromDisconnected (w : Host.Likewise R h h') :
    Act.Likewise (Beside R) (Watcher.fromDisconnected h c) (Watcher.fromDisconnected h' c) := by
  refine .bind (call w.connect).attempt fun r => ?_
  cases r with
  | error f =>
    exact .bind (w.reportFault _ _ f) fun _ => .bind (call (w.sleep _)) fun _ => .pure _
  | ok client =>
    refine .bind w.dropClient fun _ => .bind (call (w.openMailbox _)) fun queue => ?_
    refine .bind (change _) fun _ => .bind (call (w.report _)) fun _ => ?_
    exact .bind (w.refresh c) fun _ => .pure _

theorem subscribe (w : Host.Likewise R h h') (client : ClientId) (queue : QueueId) :
    Act.Likewise (Beside R) (Watcher.subscribe h c client queue)
      (Watcher.subscribe h' c client queue) := by
  refine .bind (call (w.addListener _ _)).attempt fun r => ?_
  split
  · exact .bind (change _) fun _ => .bind (call (w.report _)) fun _ => .pure _
  · exact .bind (change _) fun _ => .bind (call (w.report _)) fun _ => .pure _
  · exact .bind (w.reportFault _ _ _) fun _ => .bind (call (w.sleep _)) fun _ => .pure _

theorem fromIdle (w : Host.Likewise R h h') :
    Act.Likewise (Beside R) (Watcher.fromIdle h c) (Watcher.fromIdle h' c) := by
  refine .bind state fun v => ?_
  split
  · refine .bind (w.pingClient c _) fun alive => ?_
    split
    · exact w.subscribe c _ _
    · exact .pure _
  · exact .pure _

theorem receive (w : Host.Likewise R h h') (item : Option (Option Event)) :
    Act.Likewise (Beside R) (Watcher.receive h c item) (Watcher.receive h' c item) := by
  match item with
  | none => exact .pure _
  | some none => exact .bind (call (w.report _)) fun _ => .bind w.dropClient fun _ => .pure _
  | some (some e) =>
    refine .bind (.ofExcept _) fun heard => ?_
    split
    · refine .bind (.ofExcept _) fun short => .bind (call (w.report _)) fun _ => ?_
      exact .bind (w.refresh c) fun _ => .pure _
    · exact .pure _

theorem fromWatching (w : Host.Likewise R h h') :
    Act.Likewise (Beside R) (Watcher.fromWatching h c) (Watcher.fromWatching h' c) := by
  refine .bind state fun v => ?_
  split
  · refine .bind (w.pingClient c _) fun alive => ?_
    split
    · exact .bind (call (w.take _ _)) fun item => w.receive c item
    · exact .pure _
  · exact .pure _

/-- A transition goes alike. -/
theorem step (w : Host.Likewise R h h') :
    Act.Likewise (Beside R) (Watcher.step h c) (Watcher.step h' c) := by
  refine .bind state fun v => ?_
  split
  · exact .bind (w.fromDisconnected c) fun _ => .bind (change _) fun _ => .pure _
  · exact .bind (w.fromIdle c) fun _ => .bind (change _) fun _ => .pure _
  · exact .bind (w.fromWatching c) fun _ => .bind (change _) fun _ => .pure _

/-! ### Running -/

theorem round (w : Host.Likewise R h h') :
    Act.Likewise (Beside R) (Watcher.round h c) (Watcher.round h' c) := by
  refine .bind (w.step c).attempt fun r => ?_
  cases r with
  | ok phase => exact .pure _
  | error f => exact .bind (w.reportFault _ _ f) fun _ => call (w.sleep _)

theorem loop (w : Host.Likewise R h h') (rounds : Nat) :
    Act.Likewise (Beside R) (Watcher.loop h c rounds) (Watcher.loop h' c rounds) := by
  induction rounds with
  | zero => exact .gets fun _ _ hm => w.stopRequested _ _ hm.2
  | succ n ih =>
    refine .read_bind fun m m' hm => ?_
    rw [w.stopRequested _ _ hm.2]
    split
    · exact .pure _
    · exact .bind (w.round c) fun _ => ih

/-- **A run goes alike for any number of transitions.** -/
theorem run (w : Host.Likewise R h h') (rounds : Nat) :
    Act.Likewise (Beside R) (Watcher.run h c rounds) (Watcher.run h' c rounds) := by
  refine .bind (call (w.report _)) fun _ => .bind (w.loop c rounds) fun stopped => ?_
  split
  · refine .bind w.dropClient fun _ => .bind (change _) fun _ => ?_
    exact .bind (call (w.report _)) fun _ => .pure _
  · exact .pure _

end Host.Likewise

end HostRouting
