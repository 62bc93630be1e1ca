import HostRouting.Fault

/-!
# Acts

An act changes a state and either gives a value or stops with a fault; the changes made before the
fault stay. `attempt` recovers from failures and lets an interrupt pass.
-/

namespace HostRouting

/-- A computation on a state that may stop with a fault. -/
abbrev Act (σ : Type) : Type → Type := ExceptT Fault (StateM σ)

namespace Act

variable {σ τ α β : Type}

/-- The outcome of an act and the state after it. -/
def outcome (act : Act σ α) (s : σ) : Except Fault α × σ := act s

/-- The act with the given outcomes. -/
def ofOutcome (f : σ → Except Fault α × σ) : Act σ α := f

/-- Stops with a fault. -/
def fail (f : Fault) : Act σ α := throw f

/-- The value of a result, or its fault. -/
def ofExcept : Except Fault α → Act σ α
  | .ok a => pure a
  | .error f => throw f

/-- Reads the state. -/
def read : Act σ σ := get

/-- Reads a part of the state. -/
def gets (f : σ → α) : Act σ α := do return f (← get)

/-- Changes the state. -/
def update (f : σ → σ) : Act σ Unit := modify f

/-- The result of an act, a fault included. -/
def result (act : Act σ α) : Act σ (Except Fault α) :=
  fun s => let (r, s) := act s; (.ok r, s)

/-- The result of an act, ordinary failures included; an interrupt passes through. -/
def attempt (act : Act σ α) : Act σ (Except Fault α) :=
  fun s => match act s with
    | (.ok a, s) => (.ok (.ok a), s)
    | (.error f, s) => if f.isFailure then (.ok (.error f), s) else (.error f, s)

/-- An act on a part of a state. -/
def within (get : τ → σ) (set : σ → τ → τ) (act : Act σ α) : Act τ α :=
  fun t => let (r, s) := act (get t); (r, set s t)

/-! ## Outcomes of the combinations -/

@[simp] theorem outcome_pure (a : α) (s : σ) : outcome (pure a) s = (.ok a, s) := rfl

@[simp] theorem outcome_ofOutcome (f : σ → Except Fault α × σ) (s : σ) :
    outcome (ofOutcome f) s = f s := rfl

@[simp] theorem outcome_fail (f : Fault) (s : σ) :
    outcome (fail f : Act σ α) s = (.error f, s) := rfl

@[simp] theorem outcome_read (s : σ) : outcome (read : Act σ σ) s = (.ok s, s) := rfl

@[simp] theorem outcome_update (f : σ → σ) (s : σ) : outcome (update f) s = (.ok (), f s) := rfl

@[simp] theorem outcome_result (act : Act σ α) (s : σ) :
    outcome (result act) s = (.ok (outcome act s).1, (outcome act s).2) := rfl

theorem outcome_attempt (act : Act σ α) (s : σ) :
    outcome (attempt act) s = match outcome act s with
      | (.ok a, t) => (.ok (.ok a), t)
      | (.error f, t) => if f.isFailure then (.ok (.error f), t) else (.error f, t) := rfl

@[simp] theorem outcome_within (get : τ → σ) (set : σ → τ → τ) (act : Act σ α) (t : τ) :
    outcome (within get set act) t =
      ((outcome act (get t)).1, set (outcome act (get t)).2 t) := rfl

@[simp] theorem outcome_gets (f : σ → α) (s : σ) : outcome (gets f) s = (.ok (f s), s) := rfl

@[simp] theorem outcome_ofExcept (r : Except Fault α) (s : σ) :
    outcome (ofExcept r) s = (r, s) := by
  cases r <;> rfl

theorem outcome_bind (act : Act σ β) (next : β → Act σ α) (s : σ) :
    outcome (act >>= next) s = match outcome act s with
      | (.ok b, t) => outcome (next b) t
      | (.error f, t) => (.error f, t) := by
  change ExceptT.bind act next s = _
  simp only [ExceptT.bind, ExceptT.bindCont, outcome, ExceptT.mk, Bind.bind, StateT.bind]
  rcases act s with ⟨_ | _, _⟩ <;> rfl

end Act

end HostRouting
