import HostRouting.Daemon
import HostRouting.Enumeration
import HostRouting.Proofs.Spec

/-!
# Ordinary failures

What is computed from reports of the daemon may fail, but never as an interrupt does: whoever
recovers from failures recovers from all of these.
-/

namespace HostRouting

variable {α β : Type}

/-- The fault of a result, if there is one, is an ordinary failure. -/
def Ordinary (r : Except Fault α) : Prop := ∀ f, r = .error f → f.isFailure = true

/-- Going through a list without a fault. -/
theorem mapM_eq_map {f : α → Except Fault β} {g : α → β} {xs : List α}
    (h : ∀ x ∈ xs, f x = .ok (g x)) : xs.mapM f = .ok (xs.map g) := by
  induction xs with
  | nil => rfl
  | cons x xs ih =>
    rw [List.mapM_cons, h x (by simp), ih fun y hy => h y (by simp [hy])]
    rfl

namespace Ordinary

/-! ## Combinations -/

/-- A value is no fault. -/
theorem ok (a : α) : Ordinary (.ok a) := by
  intro f hf
  cases hf

/-- A fault that is an ordinary failure. -/
theorem error {f : Fault} (h : f.isFailure = true) : Ordinary (.error f : Except Fault α) := by
  intro g hg
  cases hg
  exact h

/-- One computation after the other. -/
theorem bind {r : Except Fault α} {next : α → Except Fault β} (h : Ordinary r)
    (hnext : ∀ a, Ordinary (next a)) : Ordinary (r >>= next) := by
  cases r with
  | ok a => exact hnext a
  | error f => exact error (h f rfl)

/-- Going through a list. -/
theorem mapM {f : α → Except Fault β} (xs : List α) (h : ∀ x ∈ xs, Ordinary (f x)) :
    Ordinary (xs.mapM f) := by
  induction xs with
  | nil => exact ok _
  | cons x xs ih =>
    rw [List.mapM_cons]
    refine bind (h x (by simp)) fun b => ?_
    exact bind (ih fun y hy => h y (by simp [hy])) fun bs => ok _

end Ordinary

/-! ## Values -/

namespace Json

theorem field_ordinary (v : Json) (key : String) : Ordinary (v.field key) := by
  cases v <;> first | exact .ok _ | exact .error rfl

theorem fields_ordinary (v : Json) : Ordinary v.fields := by
  cases v <;> first | exact .ok _ | exact .error rfl

theorem items_ordinary (v : Json) : Ordinary v.items := by
  cases v <;> first | exact .ok _ | exact .error rfl

theorem withoutSlashes_ordinary (v : Json) : Ordinary v.withoutSlashes := by
  cases v <;> first | exact .ok _ | exact .error rfl

theorem short_ordinary (v : Json) : Ordinary v.short := by
  cases v <;> first | exact .ok _ | exact .error rfl

theorem isOneOf_ordinary (v : Json) (texts : List String) : Ordinary (v.isOneOf texts) := by
  cases v <;> first | exact .ok _ | exact .error rfl

theorem required_ordinary (v : Json) (key : String) : Ordinary (v.required key) := by
  cases v with
  | obj fields =>
    simp only [required]
    split
    · exact .ok _
    · exact .error rfl
  | _ => exact .error rfl

end Json

/-! ## Events and containers -/

namespace Container

theorem textField_ordinary (v : Json) (key : String) : Ordinary (textField v key) :=
  .bind (Json.field_ordinary _ _) fun _ => .ok _

theorem objectField_ordinary (v : Json) (key : String) : Ordinary (objectField v key) :=
  .bind (Json.field_ordinary _ _) fun _ => .ok _

theorem bindingsOf_ordinary (report : Json) : Ordinary (bindingsOf report) := by
  refine .bind (Json.items_ordinary _) fun entries => .mapM _ fun entry _ => ?_
  refine .bind (textField_ordinary _ _) fun ip => ?_
  exact .bind (textField_ordinary _ _) fun port => .ok _

theorem portsOf_ordinary (net : Json) : Ordinary (portsOf net) := by
  refine .bind (objectField_ordinary _ _) fun ports => ?_
  refine .bind (Json.fields_ordinary _) fun fields => .mapM _ fun p _ => ?_
  exact .bind (bindingsOf_ordinary _) fun _ => .ok _

theorem networksOf_ordinary (net : Json) : Ordinary (networksOf net) := by
  refine .bind (objectField_ordinary _ _) fun networks => ?_
  refine .bind (Json.fields_ordinary _) fun fields => .mapM _ fun n _ => ?_
  exact .bind (textField_ordinary _ _) fun _ => .ok _

/-- Reading an inspection report fails in ordinary ways only. -/
theorem ofInspection_ordinary (report : Json) : Ordinary (ofInspection report) := by
  refine .bind (objectField_ordinary _ _) fun config => ?_
  refine .bind (objectField_ordinary _ _) fun net => ?_
  refine .bind (portsOf_ordinary _) fun ports => ?_
  refine .bind (networksOf_ordinary _) fun networks => ?_
  refine .bind (textField_ordinary _ _) fun id => ?_
  refine .bind (textField_ordinary _ _) fun slashed => ?_
  refine .bind (Json.withoutSlashes_ordinary _) fun name => ?_
  refine .bind (Json.field_ordinary _ _) fun listed => ?_
  refine .bind (Json.items_ordinary _) fun env => ?_
  refine .bind (textField_ordinary _ _) fun ip => ?_
  exact .bind (Json.field_ordinary _ _) fun node => .ok _

/-! ## Routes -/

theorem ofValues_ordinary (d : Declaration) (vs : List Json) : Ordinary (d.ofValues vs) := by
  induction vs generalizing d with
  | nil => exact .ok _
  | cons v vs ih =>
    cases v with
    | str s => exact ih _
    | _ => exact .error rfl

theorem specificBinding_ordinary (bs : List Binding) : Ordinary (specificBinding? bs) := by
  induction bs with
  | nil => exact .ok _
  | cons b bs ih =>
    refine .bind (Json.isOneOf_ordinary _ _) fun isWildcard => ?_
    split
    · exact ih
    · exact .ok _

theorem endpoint_ordinary (c : Container) (port : String) : Ordinary (c.endpoint port) := by
  refine .bind (specificBinding_ordinary _) fun binding => ?_
  cases binding with
  | none => exact .ok _
  | some b => exact .ok _

/-- Resolving a container fails in ordinary ways only. -/
theorem resolve_ordinary (fallback : List String) (c : Container) :
    Ordinary (c.resolve fallback) := by
  refine .bind (ofValues_ordinary _ _) fun declared => ?_
  split
  · exact .ok _
  · refine .bind (endpoint_ordinary _ _) fun (ip, port) => ?_
    dsimp only
    split <;> exact .ok _

end Container

/-- The entry about a resolution fails in ordinary ways only. -/
theorem Resolution.entry_ordinary (r : Resolution) (c : Container) : Ordinary (r.entry? c) := by
  unfold Resolution.entry?
  split
  · exact .ok _
  · exact .bind (Json.short_ordinary _) fun _ => .ok _

/-- The entry about a rival fails in ordinary ways only. -/
theorem Host.rivalEntry_ordinary (host : String) (c : Container) :
    Ordinary (Host.rivalEntry host c) :=
  .bind (Json.short_ordinary _) fun _ => .ok _

end HostRouting
