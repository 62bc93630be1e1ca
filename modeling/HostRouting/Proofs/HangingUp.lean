import HostRouting.Proofs.Registry

/-!
# Whether a closed client has hung up

Whoever closes a client wants the connection given up. The client first closes the stream that it
holds, and if the daemon fails at that, the connection is not given up any more: the client has
forgotten the stream and its listeners by then, and only another call to close it would help.
-/

namespace HostRouting.Harbour

variable {σ : Type} {d : Daemon σ} {now : String} {c : ClientId} {s t u : Harbour (Quay σ)}
  {x : Occurrence} {l : List Occurrence}

/-! ## The calls that closing makes -/

/-- How often the connection was given up, or was to be given up. -/
def hangUps (c : ClientId) (s : Harbour (Quay σ)) : Nat := s.errands.count (.hungUp c)

/-- The client holds a stream, and closing it would fail with `f`. -/
def Jams (d : Daemon σ) (c : ClientId) (f : Fault) (s : Harbour (Quay σ)) : Prop :=
  ∃ stream, (s.hub c).stream? = some stream ∧
    ((d.closeStream c stream).outcome s.rest.rest.rest).1 = .error f

/-- The closing of the stream that the client holds, if it holds one. -/
def closingOf (c : ClientId) (done : Bool) (s : Harbour (Quay σ)) : List Errand :=
  (s.hub c).stream?.toList.map fun stream => .closed c stream done

theorem outcome_hangUp (d : Daemon σ) (c : ClientId) (s : Harbour (Quay σ)) :
    ((errandly d).close c).outcome s =
      (((d.close c).outcome s.rest.rest.rest).1,
        s.ran (.hungUp c) ((d.close c).outcome s.rest.rest.rest).2) := rfl

/-- A client that holds no stream closes none. -/
theorem not_jams_of_none (hst : (s.hub c).stream? = none) (f : Fault) : ¬ Jams d c f s := by
  rintro ⟨stream, hsome, -⟩
  rw [hst] at hsome
  cases hsome

/-- A client without a stream only hangs up. -/
theorem outcome_closeClient_of_none (hst : (s.hub c).stream? = none) :
    (closeClient (errandly d) c).outcome s = ((errandly d).close c).outcome (clear c s) := by
  simp only [closeClient, Act.outcome_bind, Act.outcome_read, Act.outcome_update, hst]
  rfl

/-- A client with a stream closes it, and hangs up if that succeeds. -/
theorem outcome_closeClient_of_some {stream : StreamId} (hst : (s.hub c).stream? = some stream)
    {r : Except Fault Unit} {x : σ}
    (hclose : (d.closeStream c stream).outcome s.rest.rest.rest = (r, x)) :
    (closeClient (errandly d) c).outcome s =
      match r with
      | .ok _ => ((errandly d).close c).outcome (shut c stream true x (clear c s))
      | .error f => (.error f, shut c stream false x (clear c s)) := by
  have hstream : ((errandly d).closeStream c stream).outcome (clear c s) =
      (r, (clear c s).ran (.closed c stream r.isOk) x) := by
    show (((d.closeStream c stream).outcome s.rest.rest.rest).1,
      (clear c s).ran (.closed c stream ((d.closeStream c stream).outcome s.rest.rest.rest).1.isOk)
        ((d.closeStream c stream).outcome s.rest.rest.rest).2) = _
    rw [hclose]
  rw [clear] at hstream
  simp only [closeClient, closeStream, Act.outcome_bind, Act.outcome_read, Act.outcome_update, hst,
    hstream]
  cases r <;> rfl

/-- Closing a client makes these calls in this order. -/
theorem closeClient_errands {r : Except Fault Unit}
    (ho : (closeClient (errandly d) c).outcome s = (r, t)) :
    ((∀ f, ¬ Jams d c f s) → t.errands = s.errands ++ (closingOf c true s ++ [.hungUp c])) ∧
      ∀ f, Jams d c f s → r = .error f ∧ t.errands = s.errands ++ closingOf c false s := by
  cases hst : (s.hub c).stream? with
  | none =>
    rw [outcome_closeClient_of_none hst, outcome_hangUp] at ho
    obtain ⟨-, rfl⟩ := Prod.mk.inj ho
    refine ⟨fun _ => ?_, fun f hf => absurd hf (not_jams_of_none hst f)⟩
    rw [errands_ran, errands_clear, closingOf, hst]
    rfl
  | some stream =>
    have hclosing (done : Bool) : closingOf c done s = [.closed c stream done] := by
      rw [closingOf, hst]
      rfl
    rcases hclose : (d.closeStream c stream).outcome s.rest.rest.rest with ⟨result, y⟩
    have hjams (f : Fault) : Jams d c f s ↔ result = .error f := by
      simp [Jams, hst, hclose]
    rw [outcome_closeClient_of_some hst hclose] at ho
    simp only [hjams, hclosing]
    cases result with
    | error g =>
      obtain ⟨rfl, rfl⟩ := Prod.mk.inj ho
      refine ⟨fun hnone => absurd rfl (hnone g), ?_⟩
      rintro f hf
      obtain rfl := Except.error.inj hf
      exact ⟨rfl, rfl⟩
    | ok a =>
      rw [outcome_hangUp] at ho
      obtain ⟨-, rfl⟩ := Prod.mk.inj ho
      refine ⟨fun _ => ?_, fun f hf => by cases hf⟩
      rw [errands_ran, errands_shut, errands_clear, List.append_assoc]

theorem Occurs.outcome_eq {r : Except Fault Unit} (hx : Occurs d now c s (.closed r) t) :
    (closeClient (errandly d) c).outcome s = (r, t) := by
  cases hx with
  | closed ho => exact ho

theorem count_hungUp_closingOf (c : ClientId) (done : Bool) (s : Harbour (Quay σ)) :
    (closingOf c done s).count (.hungUp c) = 0 := by
  unfold closingOf
  cases (s.hub c).stream? <;> simp

theorem hangUps_of_hungUp (h : t.errands = s.errands ++ (closingOf c true s ++ [.hungUp c])) :
    hangUps c t = hangUps c s + 1 := by
  rw [hangUps, h, List.count_append, List.count_append, count_hungUp_closingOf, hangUps]
  simp

theorem hangUps_of_jammed (h : t.errands = s.errands ++ closingOf c false s) :
    hangUps c t = hangUps c s := by
  rw [hangUps, h, List.count_append, count_hungUp_closingOf, hangUps, Nat.add_zero]

/-! ## Nothing else hangs up -/

/-- The client is to be closed. -/
def Occurrence.isClosing : Occurrence → Bool
  | .closed _ => true
  | _ => false

/-- Whatever else occurs, the client does not hang up. -/
theorem Change.hangUps_eq (hx : Change c s x t) (hclosing : x.isClosing = false) :
    hangUps c t = hangUps c s := by
  cases hx with
  | hungUp hst r y => cases hclosing
  | hungUpAfter hst r y z => cases hclosing
  | cutShort hst f y => cases hclosing
  | _ => simp [hangUps]

/-- As long as nobody closes the client, it does not hang up. -/
theorem History.hangUps_eq (h : Fit c s) (hl : History d now c s l t)
    (hclosing : ∀ x ∈ l, x.isClosing = false) : hangUps c t = hangUps c s := by
  induction hl with
  | nil => rfl
  | concat hl hx ih =>
    have hrest := ih fun y hy => hclosing y (List.mem_append_left _ hy)
    have hchange := hx.change (hl.fit h)
    rw [hchange.hangUps_eq (hclosing _ (by simp)), hrest]

/-- **A client that is closed hangs up once, unless its stream cannot be closed.** In whatever state
the client is closed, it has no listeners and holds no stream afterwards, and it reads none but
streams that could not be closed. It closes the stream that it held and then hangs up. If closing the
stream fails, that failure is what comes of it, and the client does not hang up, whatever is done with
it later, until it is closed once more; and then it does. -/
theorem hangs_up_unless_jammed (hs : Unused c s) (hl : History d now c s l t)
    {r : Except Fault Unit} (hx : Occurs d now c t (.closed r) u) :
    u.hub c = {} ∧ (∀ i, u.reader? i = some c → Jammed c i u) ∧
      ((∀ f, ¬ Jams d c f t) → u.errands = t.errands ++ (closingOf c true t ++ [.hungUp c])) ∧
      (∀ f, Jams d c f t → r = .error f ∧ u.errands = t.errands ++ closingOf c false t ∧
        (∀ later v, History d now c u later v → (∀ y ∈ later, y.isClosing = false) →
          hangUps c v = hangUps c t) ∧
        ∀ r' v, Occurs d now c u (.closed r') v → hangUps c v = hangUps c t + 1) ∧
      (hangUps c u = hangUps c t + 1 ↔ ∀ f, ¬ Jams d c f t) := by
  have hfit : Fit c t := hl.fit hs.fit
  have hfit' : Fit c u := (hx.change hfit).fit hfit
  have hmoored : Moored c u := (hx.change hfit).moored hfit (hl.moored hs.fit hs.moored)
  have hbare : u.hub c = {} := (hx.change hfit).settles d now hfit
  have hheld : (u.hub c).stream? = none := by
    rw [hbare]
  obtain ⟨hcloses, hjams⟩ := closeClient_errands hx.outcome_eq
  refine ⟨hbare, ?_, hcloses, fun f hf => ⟨(hjams f hf).1, (hjams f hf).2, ?_, ?_⟩, ?_⟩
  · intro i hi
    refine Classical.not_not.1 fun hjam => ?_
    have hst := (hmoored.held i).1 ⟨hi, hjam⟩
    rw [hheld] at hst
    cases hst
  · intro later v hlater hnone
    rw [hlater.hangUps_eq hfit' hnone, hangUps_of_jammed (hjams f hf).2]
  · intro r' v hv
    have hagain := (closeClient_errands hv.outcome_eq).1 (not_jams_of_none hheld)
    rw [hangUps_of_hungUp hagain, hangUps_of_jammed (hjams f hf).2]
  · constructor
    · intro hone f hf
      rw [hangUps_of_jammed (hjams f hf).2] at hone
      omega
    · intro hnone
      exact hangUps_of_hungUp (hcloses hnone)

/-- A listener came, and the client was closed: it closed its stream and hung up. -/
theorem hangs_up_unless_jammed_answering :
    let d := answering (pure ())
    let came := ((addListener (errandly d) 0 0).outcome quayside).2
    let left := ((closeClient (errandly d) 0).outcome came).2
    Unused 0 quayside ∧ History d "" 0 quayside [.added 0 (.ok ())] came ∧
      Occurs d "" 0 came (.closed (.ok ())) left ∧ left.hub 0 = {} ∧
      left.errands = [.opened 0 none, .closed 0 0 true, .hungUp 0] := by
  intro d came left
  have hl : History d "" 0 quayside [.added 0 (.ok ())] came :=
    .concat (l := []) .nil (.added (by decide) rfl)
  have hx : Occurs d "" 0 came (.closed (.ok ())) left := .closed rfl
  obtain ⟨hbare, -, hcloses, -, -⟩ := hangs_up_unless_jammed quayside_unused hl hx
  refine ⟨quayside_unused, hl, hx, hbare, ?_⟩
  apply hcloses
  rintro f ⟨stream, -, hf⟩
  cases hf

/-- A daemon that fails whenever a stream is to be closed, and would let every client hang up. -/
def clinging : Daemon Unit :=
  { answering (pure ()) with
    closeStream := fun _ _ => Act.fail noAnswer }

/-- A listener came, and the client was closed: it has forgotten everything, and it has not hung
up. -/
theorem clinging_keeps_connection :
    let came := ((addListener (errandly clinging) 0 0).outcome quayside).2
    let left := ((closeClient (errandly clinging) 0).outcome came).2
    Unused 0 quayside ∧ History clinging "" 0 quayside [.added 0 (.ok ())] came ∧
      Occurs clinging "" 0 came (.closed (.error noAnswer)) left ∧
      left.hub 0 = {} ∧ left.errands = [.opened 0 none, .closed 0 0 false] ∧
      hangUps 0 left = 0 := by
  intro came left
  have hl : History clinging "" 0 quayside [.added 0 (.ok ())] came :=
    .concat (l := []) .nil (.added (by decide) rfl)
  exact ⟨quayside_unused, hl, .closed rfl, rfl, rfl, rfl⟩

end HostRouting.Harbour
