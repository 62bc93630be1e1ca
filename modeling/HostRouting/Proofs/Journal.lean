import HostRouting.Proofs.Enumeration
import HostRouting.Proofs.Mailbox
import HostRouting.Proofs.Parting

/-!
# A journal of the watcher's calls

A host can be made to keep a journal: each call is written down when it begins and when it ends.
What the calls do is left as it is.
-/

namespace HostRouting

open Act (Spec Keeps failing never)

namespace Watcher

/-! ## Calls and deeds -/

/-- A call of the watcher to its host. -/
inductive Call where
  | connect
  | list (client : ClientId)
  | inspect (client : ClientId) (id : Json)
  | ping (client : ClientId)
  | addListener (client : ClientId) (queue : QueueId)
  | removeListener (client : ClientId) (queue : QueueId)
  | close (client : ClientId)
  | take (queue : QueueId)
  | sleep (time : Interval)
  | publish (table : Table)
  | report (entry : Log.Entry)

/-- The client that a call makes use of; closing a client is no use of it. -/
def Call.used? : Call → Option ClientId
  | list c | inspect c _ | ping c | addListener c _ | removeListener c _ => some c
  | connect | close _ | take _ | sleep _ | publish _ | report _ => none

/-- What the journal says about a call. -/
inductive Deed where
  /-- The call begins. -/
  | began (call : Call)
  /-- A connection was made. -/
  | connected (client : ClientId)
  /-- This came out of the mailbox, or nothing. -/
  | took (item : Option (Option Event))
  /-- Another call has ended well. -/
  | done (call : Call)
  /-- The call has failed. -/
  | failed (call : Call) (fault : Fault)

/-- The client that was connected. -/
def Deed.connected? : Deed → Option ClientId
  | connected c => some c
  | _ => none

/-- The client whose closing begins. -/
def Deed.closed? : Deed → Option ClientId
  | began (.close c) => some c
  | _ => none

/-- The client that a call begins to make use of. -/
def Deed.used? : Deed → Option ClientId
  | began call => call.used?
  | _ => none

end Watcher

open Watcher (Call Deed)

/-! ## Writing down -/

/-- The act with its begin and its end written down. -/
def Act.noted {σ α : Type} (write : Deed → σ → σ) (call : Call) (answer : α → Deed)
    (act : Act σ α) : Act σ α := do
  Act.update (write (.began call))
  match ← act.result with
  | .ok a =>
    Act.update (write (answer a))
    return a
  | .error f =>
    Act.update (write (.failed call f))
    Act.fail f

/-- An act whose begin and end are written down. -/
theorem Act.Spec.noted {σ α : Type} {P P' : σ → Prop} {Q Q' : α → σ → Prop}
    {E E' : Fault → σ → Prop} {write : Deed → σ → σ} {call : Call} {answer : α → Deed}
    {act : Act σ α} (h : Spec P' act Q' E') (hP : ∀ s, P s → P' (write (.began call) s))
    (hQ : ∀ a s, Q' a s → Q a (write (answer a) s))
    (hE : ∀ f s, E' f s → E f (write (.failed call f) s)) :
    Spec P (act.noted write call answer) Q E := by
  refine Spec.bind (R := fun _ => P') (Spec.update hP) fun _ => ?_
  refine Spec.bind h.result fun r => ?_
  cases r with
  | ok a => exact Spec.bind (R := fun _ => Q a) (Spec.update (hQ a)) fun _ => Spec.pure fun _ hs => hs
  | error f => exact Spec.bind (R := fun _ => E f) (Spec.update (hE f)) fun _ => Spec.fail fun _ hs => hs

/-- The host with each call changed by `change`, which is told what the call is and how its value is
written down. -/
def Host.told {σ τ : Type} (h : Host σ)
    (change : {α : Type} → Call → (α → Deed) → Act (Surroundings σ) α → Act (Surroundings τ) α) :
    Host τ where
  connect := change .connect .connected h.connect
  list c := change (.list c) (fun _ => .done (.list c)) (h.list c)
  inspect c id := change (.inspect c id) (fun _ => .done (.inspect c id)) (h.inspect c id)
  ping c := change (.ping c) (fun _ => .done (.ping c)) (h.ping c)
  addListener c q := change (.addListener c q) (fun _ => .done (.addListener c q)) (h.addListener c q)
  removeListener c q :=
    change (.removeListener c q) (fun _ => .done (.removeListener c q)) (h.removeListener c q)
  close c := change (.close c) (fun _ => .done (.close c)) (h.close c)
  take q t := change (.take q) .took (h.take q t)
  sleep t := change (.sleep t) (fun _ => .done (.sleep t)) (h.sleep t)
  publish t := change (.publish t) (fun _ => .done (.publish t)) (h.publish t)
  report e := change (.report e) (fun _ => .done (.report e)) (h.report e)

/-- The host with each call written down by `write`. -/
def Host.noted {σ : Type} (h : Host σ) (write : Deed → Surroundings σ → Surroundings σ) : Host σ :=
  h.told fun call answer act => act.noted write call answer

/-! ## A journal beside the surroundings -/

/-- A state with a journal beside it. -/
structure Recorded (σ : Type) where
  journal : List Deed := []
  rest : σ

namespace Surroundings

variable {σ : Type}

/-- The surroundings without the journal. -/
def unrecorded (s : Surroundings (Recorded σ)) : Surroundings σ := { s with rest := s.rest.rest }

/-- Other surroundings beside the same journal. -/
def recordedBeside (t : Surroundings σ) (s : Surroundings (Recorded σ)) :
    Surroundings (Recorded σ) :=
  { t with rest := { s.rest with rest := t.rest } }

/-- One more deed in the journal. -/
def write (d : Deed) (s : Surroundings (Recorded σ)) : Surroundings (Recorded σ) :=
  s.mapRest fun r => { r with journal := r.journal ++ [d] }

end Surroundings

/-- The act with its begin and its end in the journal, of which it knows nothing. -/
def Act.recorded {σ α : Type} (call : Call) (answer : α → Deed) (act : Act (Surroundings σ) α) :
    Act (Surroundings (Recorded σ)) α :=
  (act.within Surroundings.unrecorded Surroundings.recordedBeside).noted Surroundings.write call answer

/-- The host with a journal, of which its calls know nothing. -/
def Host.recorded {σ : Type} (h : Host σ) : Host (Recorded σ) := h.told Act.recorded

/-- What a recorded act adds to the journal. -/
theorem Act.Spec.recorded {σ α : Type} {call : Call} {answer : α → Deed}
    {act : Act (Surroundings σ) α} {F : Fault → Prop}
    (h : Spec (fun _ => True) act (fun _ _ => True) fun f _ => F f) {P : List Deed → Prop}
    {Q : α → List Deed → Prop} {E : Fault → List Deed → Prop}
    (hQ : ∀ a j, P j → Q a (j ++ [.began call, answer a]))
    (hE : ∀ f j, F f → P j → E f (j ++ [.began call, .failed call f])) :
    Spec (fun s => P s.rest.journal) (act.recorded call answer) (fun a s => Q a s.rest.journal)
      fun f s => E f s.rest.journal := by
  have inner : Spec (fun s => ∃ j, P j ∧ s.rest.journal = j ++ [.began call])
      (act.within Surroundings.unrecorded Surroundings.recordedBeside)
      (fun _ s => ∃ j, P j ∧ s.rest.journal = j ++ [.began call])
      fun f s => F f ∧ ∃ j, P j ∧ s.rest.journal = j ++ [.began call] :=
    h.within (fun _ _ => trivial) (fun _ _ _ ht _ => ht) fun _ _ _ ht hs => ⟨hs, ht⟩
  -- the act cannot touch the journal, so only its begin and its end are new there
  refine inner.noted (fun s hs => ⟨_, hs, rfl⟩) ?_ ?_
  · rintro a s ⟨j, hj, hs⟩
    have := hQ a j hj
    simpa [Surroundings.write, Surroundings.mapRest, hs] using this
  · rintro f s ⟨hf, j, hj, hs⟩
    have := hE f j hf hj
    simpa [Surroundings.write, Surroundings.mapRest, hs] using this

/-- What a recorded act that fails in ordinary ways only adds to the journal. -/
theorem Act.Spec.recorded_failing {σ α : Type} {call : Call} {answer : α → Deed}
    {act : Act (Surroundings σ) α} (h : Keeps (fun _ => True) act) {P : List Deed → Prop}
    {Q : α → List Deed → Prop} {E : Fault → List Deed → Prop}
    (hQ : ∀ a j, P j → Q a (j ++ [.began call, answer a]))
    (hE : ∀ f j, P j → E f (j ++ [.began call, .failed call f])) :
    Spec (fun s => P s.rest.journal) (act.recorded call answer) (fun a s => Q a s.rest.journal)
      (failing fun f s => E f s.rest.journal) := by
  have hfail : Spec (fun _ => True) act (fun _ _ => True) fun f _ => f.isFailure = true :=
    h.post (fun _ _ _ => trivial) fun _ _ hf => hf.1
  exact Act.Spec.recorded (E := fun f j => f.isFailure = true ∧ E f j) hfail hQ
    fun f j hf hj => ⟨hf, hE f j hj⟩

/-- What a recorded act that does not fail adds to the journal. -/
theorem Act.Spec.recorded_never {σ α : Type} {call : Call} {answer : α → Deed}
    {act : Act (Surroundings σ) α} (h : Spec (fun _ => True) act (fun _ _ => True) never)
    {P : List Deed → Prop} {Q : α → List Deed → Prop}
    (hQ : ∀ a j, P j → Q a (j ++ [.began call, answer a])) :
    Spec (fun s => P s.rest.journal) (act.recorded call answer) (fun a s => Q a s.rest.journal)
      never :=
  Act.Spec.recorded (E := fun _ _ => False) h hQ fun _ _ hf _ => hf

/-- A host whose calls fail in ordinary ways only, and which always takes entries and waits. -/
structure Host.Fallible {σ : Type} (h : Host σ) : Prop where
  connect : Keeps (fun _ => True) h.connect
  list : ∀ c, Keeps (fun _ => True) (h.list c)
  inspect : ∀ c id, Keeps (fun _ => True) (h.inspect c id)
  ping : ∀ c, Keeps (fun _ => True) (h.ping c)
  addListener : ∀ c q, Keeps (fun _ => True) (h.addListener c q)
  removeListener : ∀ c q, Keeps (fun _ => True) (h.removeListener c q)
  close : ∀ c, Keeps (fun _ => True) (h.close c)
  take : ∀ q t, Keeps (fun _ => True) (h.take q t)
  publish : ∀ t, Keeps (fun _ => True) (h.publish t)
  sleep : ∀ t, Spec (fun _ => True) (h.sleep t) (fun _ _ => True) never
  report : ∀ e, Spec (fun _ => True) (h.report e) (fun _ _ => True) never

/-- A host where nothing changes is such a host. -/
theorem Host.still_fallible {ids : Except Fault (List Json)}
    {answer : Json → Except Fault Container} (hids : Ordinary ids)
    (hanswer : ∀ id, Ordinary (answer id)) : (Host.still ids answer).Fallible where
  connect := Keeps.pure _
  list _ := Keeps.ofExcept hids
  inspect _ id := Keeps.ofExcept (hanswer id)
  ping _ := Keeps.pure _
  addListener _ _ := Keeps.pure _
  removeListener _ _ := Keeps.pure _
  close _ := Keeps.pure _
  take _ _ := (Surroundings.take_spec _ _ _).post (fun _ _ _ => trivial) fun _ _ hs => hs
  publish _ := Keeps.pure _
  sleep _ := Spec.pure fun _ hs => hs
  report _ := Spec.pure fun _ hs => hs

end HostRouting
