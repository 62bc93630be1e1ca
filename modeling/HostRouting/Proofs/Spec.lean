import HostRouting.Act

/-!
# What acts do

An act is specified by what holds where it starts, what holds after it when it gives a value, and
what holds after it when it stops with a fault. There is one rule for each way of combining acts.
-/

namespace HostRouting.Act

variable {σ τ α β : Type}

/-- Where two acts one after the other give a value, each of them does. -/
theorem of_outcome_bind_ok {act : Act σ β} {next : β → Act σ α} {s t : σ} {a : α}
    (h : (act >>= next).outcome s = (.ok a, t)) :
    ∃ b u, act.outcome s = (.ok b, u) ∧ (next b).outcome u = (.ok a, t) := by
  rw [outcome_bind] at h
  match hb : act.outcome s with
  | (.ok b, u) =>
    rw [hb] at h
    exact ⟨b, u, rfl, h⟩
  | (.error f, u) =>
    rw [hb] at h
    cases h

/-! ## Specifications -/

/-- Started where `P` holds, the act leaves `Q` with the value that it gives, or `E` with the fault
that it stops with. -/
def Spec (P : σ → Prop) (act : Act σ α) (Q : α → σ → Prop) (E : Fault → σ → Prop) : Prop :=
  ∀ s, P s → match act.outcome s with
    | (.ok a, t) => Q a t
    | (.error f, t) => E f t

/-- The act does not stop with a fault. -/
def never : Fault → σ → Prop := fun _ _ => False

/-- The fault is an ordinary failure, and `X` holds after it. -/
def failing (X : Fault → σ → Prop) : Fault → σ → Prop := fun f s => f.isFailure = true ∧ X f s

/-- What is known after a recovery: `Q` with a value, and `X` with a failure. -/
def recovered (Q : α → σ → Prop) (X : Fault → σ → Prop) : Except Fault α → σ → Prop
  | .ok a, s => Q a s
  | .error f, s => X f s

/-- Whatever becomes of the act, `P` is kept, and only ordinary failures stop it. -/
def Keeps (P : σ → Prop) (act : Act σ α) : Prop :=
  Spec P act (fun _ => P) (failing fun _ => P)

namespace Spec

variable {P P' : σ → Prop} {Q Q' : α → σ → Prop} {E E' : Fault → σ → Prop} {act : Act σ α}

/-- What holds after an act that gave a value. -/
theorem of_ok (h : Spec P act Q E) {s t : σ} {a : α} (hs : P s)
    (ho : act.outcome s = (.ok a, t)) : Q a t := by
  have := h s hs
  rw [ho] at this
  exact this

/-- What holds after an act that stopped. -/
theorem of_error (h : Spec P act Q E) {s t : σ} {f : Fault} (hs : P s)
    (ho : act.outcome s = (.error f, t)) : E f t := by
  have := h s hs
  rw [ho] at this
  exact this

/-- What holds after an act, whatever became of it. -/
theorem after {S : σ → Prop} (h : Spec P act (fun _ => S) fun _ => S) {s : σ} (hs : P s) :
    S (act.outcome s).2 := by
  match ho : act.outcome s with
  | (.ok a, t) => exact h.of_ok hs ho
  | (.error f, t) => exact h.of_error hs ho

/-- An act that does not stop gives a value. -/
theorem total (h : Spec P act Q never) {s : σ} (hs : P s) :
    ∃ a t, act.outcome s = (.ok a, t) ∧ Q a t := by
  match ho : act.outcome s with
  | (.ok a, t) => exact ⟨a, t, rfl, h.of_ok hs ho⟩
  | (.error f, t) => exact (h.of_error hs ho).elim

/-- A specification by the two kinds of outcome. -/
theorem intro (hok : ∀ s a t, P s → act.outcome s = (.ok a, t) → Q a t)
    (herror : ∀ s f t, P s → act.outcome s = (.error f, t) → E f t) : Spec P act Q E := by
  intro s hs
  match ho : act.outcome s with
  | (.ok a, t) => exact hok s a t hs ho
  | (.error f, t) => exact herror s f t hs ho

/-- More may be assumed and less be asked for. -/
theorem mono (h : Spec P' act Q' E') (hP : ∀ s, P s → P' s) (hQ : ∀ a s, Q' a s → Q a s)
    (hE : ∀ f s, E' f s → E f s) : Spec P act Q E := by
  refine intro (fun s a t hs ho => ?_) (fun s f t hs ho => ?_)
  · exact hQ a t (h.of_ok (hP s hs) ho)
  · exact hE f t (h.of_error (hP s hs) ho)

/-- More may be assumed. -/
theorem pre (h : Spec P' act Q E) (hP : ∀ s, P s → P' s) : Spec P act Q E :=
  h.mono hP (fun _ _ hq => hq) (fun _ _ he => he)

/-- Less may be asked for. -/
theorem post (h : Spec P act Q' E') (hQ : ∀ a s, Q' a s → Q a s)
    (hE : ∀ f s, E' f s → E f s) : Spec P act Q E :=
  h.mono (fun _ hs => hs) hQ hE

/-- Two specifications hold together. -/
theorem and (h : Spec P act Q E) (h' : Spec P' act Q' E') :
    Spec (fun s => P s ∧ P' s) act (fun a s => Q a s ∧ Q' a s) fun f s => E f s ∧ E' f s :=
  intro (fun _ _ _ hs ho => ⟨h.of_ok hs.1 ho, h'.of_ok hs.2 ho⟩)
    fun _ _ _ hs ho => ⟨h.of_error hs.1 ho, h'.of_error hs.2 ho⟩

/-- Of an act that does not stop, anything may be said about its faults. -/
theorem safe (h : Spec P act Q never) : Spec P act Q E :=
  h.post (fun _ _ hq => hq) (fun _ _ he => he.elim)

/-- An act can be looked at in one state after the other. -/
theorem each (h : ∀ s, P s → Spec (· = s) act Q E) : Spec P act Q E := fun s hs => h s hs s rfl

/-- A fact that does not depend on the state can be taken out. -/
theorem of_fact {p : Prop} (h : p → Spec P act Q E) : Spec (fun s => p ∧ P s) act Q E :=
  fun s hs => h hs.1 s hs.2

/-! ## The combinations -/

/-- A value. -/
theorem pure {a : α} (h : ∀ s, P s → Q a s) : Spec P (Pure.pure a) Q E := h

/-- A fault. -/
theorem fail {f : Fault} (h : ∀ s, P s → E f s) : Spec P (Act.fail f) Q E := h

/-- What would come after a fault does not matter. -/
theorem fail_bind {f : Fault} {next : β → Act σ α} (h : ∀ s, P s → E f s) :
    Spec P (Act.fail f >>= next) Q E := h

/-- One act after the other. -/
theorem bind {first : Act σ β} {next : β → Act σ α} {R : β → σ → Prop} (h : Spec P first R E)
    (hnext : ∀ b, Spec (R b) (next b) Q E) : Spec P (first >>= next) Q E := by
  intro s hs
  rw [outcome_bind]
  match hb : first.outcome s with
  | (.ok b, t) => exact hnext b t (h.of_ok hs hb)
  | (.error f, t) => exact h.of_error hs hb

/-- The result of a pure computation. -/
theorem ofExcept {r : Except Fault α} (hok : ∀ a, r = .ok a → ∀ s, P s → Q a s)
    (herror : ∀ f, r = .error f → ∀ s, P s → E f s) : Spec P (Act.ofExcept r) Q E := by
  cases r with
  | ok a => exact hok a rfl
  | error f => exact herror f rfl

/-- A pure computation that gave a value before something is done. -/
theorem ofExcept_bind {r : Except Fault β} {b : β} {next : β → Act σ α} (hr : r = .ok b)
    (h : Spec P (next b) Q E) : Spec P (Act.ofExcept r >>= next) Q E := by
  subst hr
  exact h

/-- A pure computation that failed before something is done. -/
theorem ofExcept_fail {r : Except Fault β} {f : Fault} {next : β → Act σ α} (hr : r = .error f)
    (h : ∀ s, P s → E f s) : Spec P (Act.ofExcept r >>= next) Q E := by
  subst hr
  exact h

/-- Reading a part of the state. -/
theorem gets {f : σ → α} (h : ∀ s, P s → Q (f s) s) : Spec P (Act.gets f) Q E := h

/-- Reading the state. -/
theorem read {Q : σ → σ → Prop} (h : ∀ s, P s → Q s s) : Spec P Act.read Q E := h

/-- Reading a state that is known before something is done. -/
theorem read_bind {s : σ} {next : σ → Act σ α} (h : Spec (· = s) (next s) Q E) :
    Spec (· = s) (Act.read >>= next) Q E := by
  rintro t rfl
  exact h t rfl

/-- Changing the state. -/
theorem update {f : σ → σ} {Q : Unit → σ → Prop} (h : ∀ s, P s → Q () (f s)) :
    Spec P (Act.update f) Q E := h

/-- Recovering from failures. -/
theorem attempt {X : Fault → σ → Prop} (h : Spec P act Q (failing X)) :
    Spec P act.attempt (recovered Q X) E := by
  intro s hs
  rw [outcome_attempt]
  match ho : act.outcome s with
  | (.ok a, t) => exact h.of_ok hs ho
  | (.error f, t) =>
    have := h.of_error hs ho
    simp only [this.1, if_true]
    exact this.2

/-- Recovering from failures, while an interrupt passes. -/
theorem attempt_sorted (h : Spec P act Q E) :
    Spec P act.attempt (recovered Q E) fun f s => f.isFailure = false ∧ E f s := by
  intro s hs
  rw [outcome_attempt]
  match ho : act.outcome s with
  | (.ok a, t) => exact h.of_ok hs ho
  | (.error f, t) =>
    have he := h.of_error hs ho
    by_cases hf : f.isFailure = true
    · simp only [if_pos hf]
      exact he
    · simp only [if_neg hf]
      exact ⟨by simpa using hf, he⟩

/-- Recovering from an act that may stop with any fault. -/
theorem attempt_any (h : Spec P act Q E) : Spec P act.attempt (recovered Q E) E :=
  h.attempt_sorted.post (fun _ _ hs => hs) fun _ _ hs => hs.2

/-- Taking down how an act ends. -/
theorem result (h : Spec P act Q E) : Spec P act.result (recovered Q E) E' := by
  intro s hs
  rw [outcome_result]
  match ho : act.outcome s with
  | (.ok a, t) => exact h.of_ok hs ho
  | (.error f, t) => exact h.of_error hs ho

/-- An act on a part of the state. -/
theorem within {get : τ → σ} {set : σ → τ → τ} {R : τ → Prop} {S : α → τ → Prop}
    {F : Fault → τ → Prop} (h : Spec P act Q E) (hR : ∀ t, R t → P (get t))
    (hQ : ∀ a t s, R t → Q a s → S a (set s t)) (hE : ∀ f t s, R t → E f s → F f (set s t)) :
    Spec R (act.within get set) S F := by
  intro t ht
  rw [outcome_within]
  match ho : act.outcome (get t) with
  | (.ok a, s) => exact hQ a t s ht (h.of_ok (hR t ht) ho)
  | (.error f, s) => exact hE f t s ht (h.of_error (hR t ht) ho)

end Spec

/-! ## Keeping -/

namespace Keeps

variable {P : σ → Prop}

/-- A value keeps everything. -/
theorem pure (a : α) : Keeps P (Pure.pure a) := Spec.pure fun _ hs => hs

/-- One act after the other. -/
theorem bind {first : Act σ β} {next : β → Act σ α} (h : Keeps P first)
    (hnext : ∀ b, Keeps P (next b)) : Keeps P (first >>= next) :=
  Spec.bind h hnext

/-- The result of a pure computation that fails in ordinary ways only. -/
theorem ofExcept {r : Except Fault α} (h : ∀ f, r = .error f → f.isFailure = true) :
    Keeps P (Act.ofExcept r) :=
  Spec.ofExcept (fun _ _ _ hs => hs) fun f hf _ hs => ⟨h f hf, hs⟩

/-- Going through a list. -/
theorem mapM {γ : Type} {f : γ → Act σ α} (xs : List γ) (h : ∀ x ∈ xs, Keeps P (f x)) :
    Keeps P (xs.mapM f) := by
  induction xs with
  | nil => exact Keeps.pure _
  | cons x xs ih =>
    rw [List.mapM_cons]
    refine Keeps.bind (h x (by simp)) fun a => ?_
    refine Keeps.bind (ih fun y hy => h y (by simp [hy])) fun as => ?_
    exact Keeps.pure _

end Keeps

/-! ## Leaving -/

/-- Whatever becomes of the act, also if it is interrupted, `P` is kept. -/
def Leaves (P : σ → Prop) (act : Act σ α) : Prop := Spec P act (fun _ => P) fun _ => P

namespace Leaves

variable {P : σ → Prop}

/-- A value leaves everything. -/
theorem pure (a : α) : Leaves P (Pure.pure a : Act σ α) := Spec.pure fun _ hs => hs

/-- One act after the other. -/
theorem bind {first : Act σ β} {next : β → Act σ α} (h : Leaves P first)
    (hnext : ∀ b, Leaves P (next b)) : Leaves P (first >>= next) :=
  Spec.bind h hnext

/-- The result of a pure computation. -/
theorem ofExcept (r : Except Fault α) : Leaves P (Act.ofExcept r : Act σ α) :=
  Spec.ofExcept (fun _ _ _ hs => hs) fun _ _ _ hs => hs

/-- Recovering from failures. -/
theorem attempt {act : Act σ α} (h : Leaves P act) : Leaves P act.attempt :=
  (Spec.attempt_any h).post (fun r _ hs => by cases r <;> exact hs) fun _ _ hs => hs

/-- Taking down how an act ends. -/
theorem result {act : Act σ α} (h : Leaves P act) : Leaves P act.result :=
  (Spec.result h).post (fun r _ hs => by cases r <;> exact hs) fun _ _ hs => hs

/-- Going through a list. -/
theorem mapM {γ : Type} {f : γ → Act σ α} (xs : List γ) (h : ∀ x, Leaves P (f x)) :
    Leaves P (xs.mapM f) := by
  induction xs with
  | nil => exact pure _
  | cons x xs ih =>
    rw [List.mapM_cons]
    exact (h x).bind fun a => ih.bind fun as => pure _

end Leaves

end HostRouting.Act
