import HostRouting.Proofs.Ordinary

/-!
# What an enumeration gives

The table of a pass is a function of the listing and of the answers to the inspections. This holds
also of a pass during which something changes, as long as the change is noticed: then nothing is
said about the table.
-/

namespace HostRouting

open Act (Spec Keeps failing never)

/-- Results that are taken down one by one and then read in order. -/
theorem Act.mapM_ofExcept {σ α β : Type} (f : α → Except Fault β) (xs : List α) :
    (xs.mapM fun x => (Act.ofExcept (f x) : Act σ β)) = Act.ofExcept (xs.mapM f) := by
  induction xs with
  | nil => rfl
  | cons x xs ih =>
    rw [List.mapM_cons, List.mapM_cons, ih]
    cases f x with
    | error e => rfl
    | ok b => cases xs.mapM f <;> rfl

namespace Host

/-! ## The table of a listing and of answers -/

/-- What an inspection comes to: a container, or none after a failure that can be reported. -/
def inspected (answer : Json → Except Fault Container) (id : Json) :
    Except Fault (Option Container) :=
  match answer id with
  | .ok c => .ok (some c)
  | .error _ => do
    let _ ← id.short
    return none

/-- The route of a container whose resolution can be reported. -/
def resolved (ports : List String) (c : Container) : Except Fault (Option Route) := do
  let r ← c.resolve ports
  let _ ← r.entry? c
  return r.route?

/-- The routes of the containers, but for hosts that were seen before. -/
def assembled (ports : List String) (seen : List String) :
    List Container → Except Fault (List Route)
  | [] => .ok []
  | c :: cs => do
    match ← resolved ports c with
    | none => assembled ports seen cs
    | some r =>
      if r.host ∈ seen then
        let _ ← rivalEntry r.host c
        assembled ports seen cs
      else return r :: (← assembled ports (r.host :: seen) cs)

section

variable {ports seen : List String} {c : Container} {cs : List Container} {r : Route}

/-- A container without a route is skipped. -/
theorem assembled_of_none (hc : resolved ports c = .ok none) :
    assembled ports seen (c :: cs) = assembled ports seen cs := by
  rw [assembled, hc]
  rfl

/-- A rival is skipped once that can be reported. -/
theorem assembled_of_mem (hc : resolved ports c = .ok (some r)) (hr : r.host ∈ seen) :
    assembled ports seen (c :: cs) = (do
      let _ ← rivalEntry r.host c
      assembled ports seen cs) := by
  rw [assembled, hc]
  exact if_pos hr

/-- The route of a new host is taken. -/
theorem assembled_of_not_mem (hc : resolved ports c = .ok (some r)) (hr : r.host ∉ seen) :
    assembled ports seen (c :: cs) = (do
      return r :: (← assembled ports (r.host :: seen) cs)) := by
  rw [assembled, hc]
  exact if_neg hr

end

/-- The table of a listing and of the answers to the inspections. -/
def survey (ports : List String) (ids : Except Fault (List Json))
    (answer : Json → Except Fault Container) : Except Fault Table := do
  let found ← (← ids).mapM (inspected answer)
  return .ofRoutes (← assembled ports [] (found.filterMap id))

/-! ## What is known during a pass -/

/-- What is known while a client makes a pass: `K₀ X` before the listing and `K X` after it, where
`X` is what the answers so far have shown. The listing shows `ids`, and the inspections show
`answer`. -/
structure Shows {σ : Type} (h : Host σ) (client : ClientId) (K₀ K : Prop → Surroundings σ → Prop)
    (ids : Except Fault (List Json)) (answer : Json → Except Fault Container) : Prop where
  mono : ∀ {X Y : Prop} {s}, (X → Y) → K X s → K Y s
  list : ∀ X, Spec (K₀ X) (h.list client) (fun l => K (X ∧ ids = .ok l))
    (failing fun f => K (X ∧ ids = .error f))
  inspect : ∀ X id, Spec (K X) (h.inspect client id) (fun c => K (X ∧ answer id = .ok c))
    (failing fun f => K (X ∧ answer id = .error f))
  report : ∀ X e, Spec (K X) (h.report e) (fun _ => K X) never

namespace Shows

variable {σ : Type} {h : Host σ} {client : ClientId} {K₀ K : Prop → Surroundings σ → Prop}
  {ids : Except Fault (List Json)} {answer : Json → Except Fault Container}

/-- A pure computation, whose result is known afterwards. -/
theorem compute (w : Shows h client K₀ K ids answer) {α : Type} {r : Except Fault α}
    (hr : Ordinary r) (X : Prop) :
    Spec (K X) (Act.ofExcept r) (fun a => K (X ∧ r = .ok a)) (failing fun f => K (X ∧ r = .error f)) :=
  Spec.ofExcept (fun _ ha _ hs => w.mono (fun hX => ⟨hX, ha⟩) hs)
    fun f hf _ hs => ⟨hr f hf, w.mono (fun hX => ⟨hX, hf⟩) hs⟩

/-! ## Inspecting -/

/-- One inspection. -/
theorem inspectOne (w : Shows h client K₀ K ids answer) (X : Prop) (id : Json) :
    Spec (K X) (h.inspectOne client id) (fun o => K (X ∧ inspected answer id = .ok o))
      (failing fun f => K (X ∧ inspected answer id = .error f)) := by
  unfold Host.inspectOne
  refine Spec.bind (w.inspect X id).attempt fun r => ?_
  cases r with
  | ok c => exact Spec.pure fun s hs => w.mono (fun ⟨hX, hc⟩ => ⟨hX, by rw [inspected, hc]⟩) hs
  | error f =>
    refine Spec.bind (R := fun _ => K (X ∧ inspected answer id = .ok none)) ?_ fun short => ?_
    · refine (w.compute (Json.short_ordinary id) _).post (fun a s hs => ?_) fun g s hs => ?_
      · exact w.mono (fun ⟨⟨hX, hf⟩, ha⟩ => ⟨hX, by rw [inspected, hf, ha]; rfl⟩) hs
      · exact ⟨hs.1, w.mono (fun ⟨⟨hX, hf⟩, hg⟩ => ⟨hX, by rw [inspected, hf, hg]; rfl⟩) hs.2⟩
    · exact Spec.bind (w.report _ _).safe fun _ => Spec.pure fun _ hs => hs

/-- The results of inspections that are made one after the other. -/
theorem mapM_result (w : Shows h client K₀ K ids answer) (xs : List Json) (X : Prop) :
    Spec (K X) (xs.mapM fun id => (h.inspectOne client id).result)
      (fun rs s => (∀ r ∈ rs, Ordinary r) ∧ K (X ∧ xs.map (inspected answer) = rs) s) never := by
  -- what is known grows with every inspection, hence the general `X`
  induction xs generalizing X with
  | nil => exact Spec.pure fun s hs => ⟨by simp, w.mono (fun hX => ⟨hX, rfl⟩) hs⟩
  | cons x xs ih =>
    rw [List.mapM_cons]
    refine Spec.bind (R := fun r s => Ordinary r ∧ K (X ∧ inspected answer x = r) s) ?_ fun r => ?_
    · refine (w.inspectOne X x).result.post (fun r s hs => ?_) fun _ _ he => he
      cases r with
      | ok o => exact ⟨.ok o, hs⟩
      | error f => exact ⟨.error hs.1, hs.2⟩
    · refine Spec.of_fact fun hr => Spec.bind (ih _) fun rs => Spec.pure fun s hs => ?_
      refine ⟨by simpa using ⟨hr, hs.1⟩, w.mono (fun ⟨⟨hX, hx⟩, hxs⟩ => ⟨hX, ?_⟩) hs.2⟩
      rw [List.map_cons, hx, hxs]

/-- All inspections, whatever the number that is made at a time. -/
theorem inspectAll (w : Shows h client K₀ K ids answer) (size : Nat) (xs : List Json) (X : Prop) :
    Spec (K X) (h.inspectAll client size xs)
      (fun rs s => (∀ r ∈ rs, Ordinary r) ∧ K (X ∧ xs.map (inspected answer) = rs) s) never := by
  fun_induction Host.inspectAll h client size xs generalizing X with
  | case1 => exact Spec.pure fun s hs => ⟨by simp, w.mono (fun hX => ⟨hX, rfl⟩) hs⟩
  | case2 x xs ih =>
    refine Spec.bind (w.mapM_result (x :: xs.take (size - 1)) X) fun now => ?_
    refine Spec.of_fact fun hnow => Spec.bind (ih _) fun later => Spec.pure fun s hs => ?_
    refine ⟨fun r hr => ?_, w.mono (fun ⟨⟨hX, hn⟩, hl⟩ => ⟨hX, ?_⟩) hs.2⟩
    · rcases List.mem_append.1 hr with hr | hr
      · exact hnow r hr
      · exact hs.1 r hr
    · rw [← hn, ← hl, ← List.map_append, List.cons_append, List.take_append_drop]

/-! ## Assembling -/

/-- One resolution. -/
theorem resolveOne (w : Shows h client K₀ K ids answer) (ports : List String) (c : Container)
    (X : Prop) :
    Spec (K X) (h.resolveOne ports c) (fun o => K (X ∧ resolved ports c = .ok o))
      (failing fun f => K (X ∧ resolved ports c = .error f)) := by
  unfold Host.resolveOne
  refine Spec.bind (R := fun r => K (X ∧ c.resolve ports = .ok r)) ?_ fun r => ?_
  · refine (w.compute (Container.resolve_ordinary ports c) X).post (fun _ _ hs => hs) fun f s hs => ?_
    exact ⟨hs.1, w.mono (fun ⟨hX, hf⟩ => ⟨hX, by rw [resolved, hf]; rfl⟩) hs.2⟩
  · refine Spec.bind (R := fun _ => K (X ∧ resolved ports c = .ok r.route?)) ?_ fun e => ?_
    · refine (w.compute (Resolution.entry_ordinary r c) _).post (fun e s hs => ?_) fun f s hs => ?_
      · refine w.mono (fun ⟨⟨hX, hr⟩, he⟩ => ⟨hX, ?_⟩) hs
        rw [resolved, hr]
        simp only [he, bind, Except.bind]
        rfl
      · refine ⟨hs.1, w.mono (fun ⟨⟨hX, hr⟩, hf⟩ => ⟨hX, ?_⟩) hs.2⟩
        rw [resolved, hr]
        simp only [hf, bind, Except.bind]
    · cases e with
      | none => exact Spec.pure fun _ hs => hs
      | some e => exact Spec.bind (w.report _ e).safe fun _ => Spec.pure fun _ hs => hs

/-- All resolutions. -/
theorem assemble (w : Shows h client K₀ K ids answer) (ports seen : List String)
    (cs : List Container) (X : Prop) :
    Spec (K X) (h.assemble ports seen cs) (fun rs => K (X ∧ assembled ports seen cs = .ok rs))
      (failing fun f => K (X ∧ assembled ports seen cs = .error f)) := by
  induction cs generalizing seen X with
  | nil => exact Spec.pure fun _ hs => w.mono (fun hX => ⟨hX, rfl⟩) hs
  | cons c cs ih =>
    rw [Host.assemble]
    refine Spec.bind (R := fun o => K (X ∧ resolved ports c = .ok o)) ?_ fun o => ?_
    · refine (w.resolveOne ports c X).post (fun _ _ hs => hs) fun f s hs => ?_
      exact ⟨hs.1, w.mono (fun ⟨hX, hf⟩ => ⟨hX, by rw [assembled, hf]; rfl⟩) hs.2⟩
    · match o with
      | none =>
        refine (ih seen _).post (fun rs s hs => ?_) fun f s hs => ⟨hs.1, ?_⟩
        · exact w.mono (fun ⟨⟨hX, hc⟩, hrs⟩ => ⟨hX, by rw [assembled_of_none hc, hrs]⟩) hs
        · exact w.mono (fun ⟨⟨hX, hc⟩, hf⟩ => ⟨hX, by rw [assembled_of_none hc, hf]⟩) hs.2
      | some r =>
        -- the first container with a host gets it, and its rivals are reported
        by_cases hr : r.host ∈ seen
        · simp only [if_pos hr]
          have rival : Spec (K (X ∧ resolved ports c = .ok (some r)))
              (Act.ofExcept (rivalEntry r.host c)) (fun e => K ((X ∧ resolved ports c = .ok (some r)) ∧
                rivalEntry r.host c = .ok e))
              (failing fun f => K (X ∧ assembled ports seen (c :: cs) = .error f)) := by
            refine (w.compute (rivalEntry_ordinary _ _) _).post (fun _ _ hs => hs) fun f s hs => ?_
            refine ⟨hs.1, w.mono (fun ⟨⟨hX, hc⟩, hf⟩ => ⟨hX, ?_⟩) hs.2⟩
            rw [assembled_of_mem hc hr, hf]
            rfl
          refine Spec.bind rival fun e => Spec.bind (w.report _ e).safe fun _ => ?_
          refine (ih seen _).post (fun rs s hs => ?_) fun f s hs => ⟨hs.1, ?_⟩
          · refine w.mono (fun ⟨⟨⟨hX, hc⟩, he⟩, hrs⟩ => ⟨hX, ?_⟩) hs
            rw [assembled_of_mem hc hr, he]
            exact hrs
          · refine w.mono (fun ⟨⟨⟨hX, hc⟩, he⟩, hf⟩ => ⟨hX, ?_⟩) hs.2
            rw [assembled_of_mem hc hr, he]
            exact hf
        · simp only [if_neg hr]
          refine Spec.bind (R := fun rs => K ((X ∧ resolved ports c = .ok (some r)) ∧
            assembled ports (r.host :: seen) cs = .ok rs)) ?_ fun rs => Spec.pure fun s hs => ?_
          · refine (ih (r.host :: seen) _).post (fun _ _ hs => hs) fun f s hs => ⟨hs.1, ?_⟩
            refine w.mono (fun ⟨⟨hX, hc⟩, hf⟩ => ⟨hX, ?_⟩) hs.2
            rw [assembled_of_not_mem hc hr, hf]
            rfl
          · refine w.mono (fun ⟨⟨hX, hc⟩, hrs⟩ => ⟨hX, ?_⟩) hs
            rw [assembled_of_not_mem hc hr, hrs]
            rfl

/-! ## The whole pass -/

/-- **The table of a pass is that of the listing and of the answers.** -/
theorem enumerate (w : Shows h client K₀ K ids answer) (ports : List String) (workers : Workers)
    (X : Prop) :
    Spec (K₀ X) (h.enumerate ports workers client) (fun t => K (X ∧ survey ports ids answer = .ok t))
      (failing fun f => K (X ∧ survey ports ids answer = .error f)) := by
  unfold Host.enumerate
  refine Spec.bind (R := fun l => K (X ∧ ids = .ok l)) ?_ fun l => ?_
  · refine (w.list X).post (fun _ _ hs => hs) fun f s hs => ?_
    exact ⟨hs.1, w.mono (fun ⟨hX, hf⟩ => ⟨hX, by rw [survey, hf]; rfl⟩) hs.2⟩
  · refine Spec.bind (w.inspectAll _ l _).safe fun rs => Spec.of_fact fun hrs => ?_
    -- all answers are there; now they are read in order, and the first failure counts
    rw [Act.mapM_ofExcept (fun r => r) rs]
    have reading : Ordinary (rs.mapM fun r => r) := .mapM rs hrs
    refine Spec.bind (R := fun found => K (X ∧ ids = .ok l ∧
      l.mapM (inspected answer) = .ok found)) ?_ fun found => ?_
    · refine (w.compute reading _).post (fun found s hs => ?_) fun f s hs => ⟨hs.1, ?_⟩
      · refine w.mono (fun ⟨⟨⟨hX, hl⟩, hrs⟩, hm⟩ => ⟨hX, hl, ?_⟩) hs
        rw [← hrs, List.mapM_map] at hm
        exact hm
      · refine w.mono (fun ⟨⟨⟨hX, hl⟩, hrs⟩, hm⟩ => ⟨hX, ?_⟩) hs.2
        rw [← hrs, List.mapM_map] at hm
        have hm : l.mapM (inspected answer) = .error f := hm
        simp only [survey, hl, hm, bind, Except.bind]
    · refine Spec.bind (R := fun routes => K ((X ∧ ids = .ok l ∧ l.mapM (inspected answer) = .ok found) ∧
        assembled ports [] (found.filterMap id) = .ok routes)) ?_ fun routes => Spec.pure fun s hs => ?_
      · refine (w.assemble ports [] _ _).post (fun _ _ hs => hs) fun f s hs => ⟨hs.1, ?_⟩
        refine w.mono (fun ⟨⟨hX, hl, hm⟩, hf⟩ => ⟨hX, ?_⟩) hs.2
        simp only [survey, hl, hm, hf, bind, Except.bind]
      · refine w.mono (fun ⟨⟨hX, hl, hm⟩, hr⟩ => ⟨hX, ?_⟩) hs
        simp only [survey, hl, hm, hr, bind, Except.bind]
        rfl

end Shows

/-- A pass keeps what the listing leaves, if the inspections and the reports keep it. -/
theorem enumerate_keeps {σ : Type} {h : Host σ} {client : ClientId} {P Q : Surroundings σ → Prop}
    (hlist : Spec P (h.list client) (fun _ => Q) (failing fun _ => Q))
    (hinspect : ∀ id, Keeps Q (h.inspect client id))
    (hreport : ∀ e, Spec Q (h.report e) (fun _ => Q) never) (ports : List String)
    (workers : Workers) :
    Spec P (h.enumerate ports workers client) (fun _ => Q) (failing fun _ => Q) := by
  have w : Shows h client (fun _ => P) (fun _ => Q) (.ok []) (fun _ => .error .pingRefused) :=
    { mono := fun _ hs => hs
      list := fun _ => hlist
      inspect := fun _ id => hinspect id
      report := fun _ e => hreport e }
  exact w.enumerate ports workers True

/-! ## Where nothing changes -/

/-- A host that answers listings and inspections in one way for ever, and whose other calls do
nothing. -/
def still (ids : Except Fault (List Json)) (answer : Json → Except Fault Container) : Host Unit where
  connect := pure 0
  list _ := Act.ofExcept ids
  inspect _ id := Act.ofExcept (answer id)
  ping _ := pure ()
  addListener _ _ := pure ()
  removeListener _ _ := pure ()
  close _ := pure ()
  sleep _ := pure ()
  publish _ := pure ()
  report _ := pure ()

/-- The outcome of a pass while nothing changes. -/
def passOver (ports : List String) (workers : Workers) (ids : Except Fault (List Json))
    (answer : Json → Except Fault Container) : Except Fault Table :=
  (((still ids answer).enumerate ports workers 0).outcome { rest := () }).1

/-- **A pass while nothing changes gives the table of the listing and of the answers.** -/
theorem passOver_eq_survey (ports : List String) (workers : Workers)
    {ids : Except Fault (List Json)} {answer : Json → Except Fault Container} (hids : Ordinary ids)
    (hanswer : ∀ id, Ordinary (answer id)) :
    passOver ports workers ids answer = survey ports ids answer := by
  have w : Shows (still ids answer) 0 (fun X _ => X) (fun X _ => X) ids answer :=
    { mono := fun hXY hX => hXY hX
      list := fun X => Spec.ofExcept (fun l hl _ hX => ⟨hX, hl⟩)
        fun f hf _ hX => ⟨hids f hf, hX, hf⟩
      inspect := fun X id => Spec.ofExcept (fun c hc _ hX => ⟨hX, hc⟩)
        fun f hf _ hX => ⟨hanswer id f hf, hX, hf⟩
      report := fun X e => Spec.pure fun _ hX => hX }
  have h := w.enumerate ports workers True { rest := () } trivial
  unfold passOver
  match ho : ((still ids answer).enumerate ports workers 0).outcome { rest := () } with
  | (.ok t, s) =>
    rw [ho] at h
    exact h.2.symm
  | (.error f, s) =>
    rw [ho] at h
    exact h.2.2.symm

end Host

end HostRouting
