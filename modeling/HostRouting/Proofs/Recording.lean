import HostRouting.EventLog
import HostRouting.Proofs.Spec

/-!
# Recording an entry

Whatever the storage is like, recording an entry never fails, as long as the configured place is one
that a storage can have. What is shown then is the line of the entry, and at most one more.
-/

namespace HostRouting

open Act (Spec never)

/-! ## Light entries -/

/-- An entry for those who look for faults only is as light as can be. -/
theorem Log.Entry.weight_debug (message : String) (name : Option String) (id : Json) :
    Log.Entry.weight ⟨"DEBUG", message, name, id⟩ = debugWeight := by
  have hname : Text.upper "DEBUG" = "DEBUG" := by decide +kernel
  have hweight : weight? "DEBUG" = some debugWeight := rfl
  rw [weight, levelName, hname, hweight, Option.getD_some]

/-- It is not kept. -/
theorem Log.Entry.isKept_debug (message : String) (name : Option String) (id : Json) :
    Log.Entry.isKept ⟨"DEBUG", message, name, id⟩ = false := by
  rw [isKept, weight_debug]
  rfl

/-- It is shown. -/
theorem Log.Entry.line?_debug (message : String) (name : Option String) (id : Json) :
    Log.Entry.line? ⟨"DEBUG", message, name, id⟩ =
      some ⟨"DEBUG", Log.Entry.text ⟨"DEBUG", message, name, id⟩⟩ := by
  rw [line?, weight_debug, if_pos (Nat.le_refl _)]
  rfl

/-! ## Faults of the storage -/

/-- The fault is one of the storage. -/
def Fault.IsStorage (f : Fault) : Prop := ∃ g, f = .storage g

/-- The fault is one that hinders the way to a place of the storage. -/
inductive Fault.Hinders : Fault → Prop where
  | nameTooLong (path : String) : Hinders (.storage (.nameTooLong path))
  | notDirectory (path : String) : Hinders (.storage (.notDirectory path))
  | absent (path : String) : Hinders (.storage (.absent path))

theorem Fault.Hinders.isStorage {f : Fault} (h : f.Hinders) : f.IsStorage := by
  cases h <;> exact ⟨_, rfl⟩

/-- That something is there already does not hinder the way. -/
theorem Fault.Hinders.ne_present {f : Fault} (h : f.Hinders) (path : String) :
    f ≠ .storage (.present path) := by
  cases h <;> simp

/-- `P` is kept, and only faults of the storage stop the act. -/
def Act.Stored {σ α : Type} (P : σ → Prop) (act : Act σ α) : Prop :=
  Spec P act (fun _ => P) fun f s => f.IsStorage ∧ P s

namespace Act.Stored

variable {σ α β : Type} {P : σ → Prop}

theorem pure (a : α) : Stored P (Pure.pure a) := Spec.pure fun _ hs => hs

theorem fail (g : StorageFault) : Stored P (Act.fail (.storage g) : Act σ α) :=
  Spec.fail fun _ hs => ⟨⟨g, rfl⟩, hs⟩

/-- What would come after a fault of the storage does not matter. -/
theorem fail_bind (g : StorageFault) (next : β → Act σ α) :
    Stored P (Act.fail (.storage g) >>= next) :=
  Spec.bind (R := fun _ _ => False) (Spec.fail fun _ hs => ⟨⟨g, rfl⟩, hs⟩) fun _ _ hs => hs.elim

theorem bind {first : Act σ β} {next : β → Act σ α} (h : Stored P first)
    (hnext : ∀ b, Stored P (next b)) : Stored P (first >>= next) :=
  Spec.bind h hnext

theorem ofExcept {r : Except Fault α} (h : ∀ f, r = .error f → f.IsStorage) :
    Stored P (Act.ofExcept r) :=
  Spec.ofExcept (fun _ _ _ hs => hs) fun f hf _ hs => ⟨h f hf, hs⟩

theorem read : Stored P (Act.read : Act σ σ) := Spec.read fun _ hs => hs

theorem update {f : σ → σ} (h : ∀ s, P s → P (f s)) : Stored P (Act.update f) := Spec.update h

/-- Recovering from whatever stops the act. -/
theorem attempt {act : Act σ α} (h : Stored P act) :
    Spec P act.attempt (Act.recovered (fun _ => P) fun f s => f.IsStorage ∧ P s) never := by
  refine Spec.attempt (h.post (fun _ _ hs => hs) ?_)
  rintro _ s ⟨⟨g, rfl⟩, hs⟩
  exact ⟨rfl, ⟨g, rfl⟩, hs⟩

end Act.Stored

open Act (Stored)

namespace EventLog

/-! ## Places -/

namespace Path

/-- Parts of a path without null characters. -/
theorem hasNull_cons {name : String} {p : Path} :
    Path.hasNull (name :: p) = false ↔ Path.hasNull [name] = false ∧ p.hasNull = false := by
  simp [hasNull]

theorem hasNull_append {p q : Path} :
    Path.hasNull (p ++ q) = false ↔ p.hasNull = false ∧ q.hasNull = false := by
  simp [hasNull]

theorem hasNull_reverse (p : Path) : Path.hasNull p.reverse = p.hasNull := List.any_reverse

theorem hasNull_dropLast {p : Path} (h : p.hasNull = false) : Path.hasNull p.dropLast = false := by
  unfold hasNull at *
  rw [List.any_eq_false] at *
  exact fun name hname => h name (List.dropLast_subset p hname)

end Path

namespace Storage

variable {P : Storage → Prop} {r : Reference} {p : Path}

theorem placeOf_hinders {name : String} {f : Fault} (h : placeOf r p name = .error f) :
    f.Hinders := by
  unfold placeOf at h
  split at h
  · cases h
  · split at h
    · cases h
    · split at h
      · cases h
      · cases h
        exact .nameTooLong _

theorem walk_hinders {s : Storage} {names : List String} {f : Fault}
    (h : s.walk r p names = .error f) : f.Hinders := by
  induction names generalizing p with
  | nil => cases h
  | cons name rest ih =>
    cases rest with
    | nil => exact placeOf_hinders h
    | cons next rest =>
      unfold walk at h
      cases hp : placeOf r p name with
      | error g =>
        rw [hp] at h
        cases h
        exact placeOf_hinders hp
      | ok place =>
        simp only [hp, Bind.bind, Except.bind] at h
        split at h
        · exact ih h
        · cases h
          exact .notDirectory _
        · cases h
          exact .absent _

/-- A place without null characters is not found for what hinders the way only. -/
theorem locate_hinders {s : Storage} {f : Fault} (hr : Path.hasNull r.names = false)
    (h : s.locate r = .error f) : f.Hinders := by
  unfold locate at h
  rw [hr, if_neg (by decide)] at h
  split at h
  · cases h
    exact .absent _
  · exact walk_hinders h

/-! ## Directories -/

theorem makeDirectory_stored (hr : Path.hasNull r.names = false) :
    Stored (fun _ => True) (makeDirectory r) := by
  have hfind : Stored (fun _ => True) (find r) :=
    .bind .read fun s =>
      .bind (.ofExcept fun _ hf => (locate_hinders hr hf).isStorage) fun place => .pure _
  refine .bind hfind fun found => ?_
  split
  · exact .update fun _ _ => trivial
  · exact .fail _

theorem makeAll_stored {start : Path} {names : List String} (h : Path.hasNull names = false) :
    Stored (fun _ => True) (makeAll start names) := by
  induction names with
  | nil => exact .fail _
  | cons name rest ih =>
    cases rest with
    | nil => exact makeDirectory_stored h
    | cons next rest =>
      have hrest := (Path.hasNull_cons.1 h).2
      have hall : Path.hasNull (name :: next :: rest).reverse = false := by
        rw [Path.hasNull_reverse]
        exact h
      unfold makeAll
      refine .bind .read fun s => ?_
      dsimp only
      -- what is on the way is made first
      split
      · split
        · exact .pure _
        · exact makeDirectory_stored hall
      · refine Spec.bind (ih hrest).attempt.safe fun result => ?_
        split
        · split
          · exact Spec.pure fun _ _ => trivial
          · exact (makeDirectory_stored hall).pre fun _ _ => trivial
        · split
          · exact Spec.pure fun _ _ => trivial
          · exact (makeDirectory_stored hall).pre fun _ _ => trivial
        · refine Spec.bind (R := fun _ _ => False) ?_ fun _ _ hs => hs.elim
          exact Spec.fail fun _ hf => ⟨hf.1, trivial⟩

theorem makeDirectories_stored (hp : p.hasNull = false) :
    Stored (fun _ => True) (makeDirectories (.ofPath p)) := by
  unfold makeDirectories
  split
  · exact makeDirectory_stored hp
  · refine makeAll_stored ?_
    rw [Path.hasNull_reverse]
    exact hp

/-! ## Database files -/

theorem openFile_stored (hp : p.hasNull = false) : Stored (fun _ => True) (openFile p) := by
  unfold openFile
  rw [hp]
  split
  · exact .fail_bind _ _
  · refine .bind .read fun s => ?_
    split
    · exact .pure _
    · exact .pure _
    · exact .fail _
    · refine .bind .read fun s => ?_
      split
      · exact .update fun _ _ => trivial
      · exact .fail _

theorem settle_stored (p : Path) : Stored (fun _ => True) (settle p) := by
  refine .bind .read fun s => ?_
  dsimp only
  split
  · exact .fail_bind _ _
  · refine .bind (.update fun _ _ => trivial) fun _ => ?_
    split
    · exact .fail_bind _ _
    · split
      · split
        · exact .update fun _ _ => trivial
        · exact .update fun _ _ => trivial
      · exact .pure _

theorem table_stored (p : Path) : Stored (fun _ => True) (table p) := by
  refine .bind (settle_stored p) fun _ => .bind .read fun s => ?_
  split
  · exact .pure _
  all_goals exact .fail _

theorem store_stored (p : Path) (db : Database) : Stored (fun _ => True) (store p db) := by
  refine .bind .read fun s => ?_
  dsimp only
  split
  · exact .fail_bind _ _
  · exact .update fun _ _ => trivial

theorem makeTable_stored (p : Path) : Stored (fun _ => True) (makeTable p) := by
  refine .bind (settle_stored p) fun _ => .bind .read fun s => ?_
  split
  · exact store_stored p _
  · exact .bind (table_stored p) fun _ => .pure _

end Storage

/-! ## Recording -/

/-- The configured place of the log is one that a storage can have: no null character stands in it, as
none can in an environment variable. -/
def Openable (log : EventLog) : Prop := (Path.ofText log.home log.place).hasNull = false

/-- The log is kept where it was kept. -/
def SamePlace (log₀ log : EventLog) : Prop := log.home = log₀.home ∧ log.place = log₀.place

variable {log₀ : EventLog}

/-- The storage can be worked on without moving the log. -/
theorem onStorage_stored {α : Type} {act : Act Storage α} (h : Stored (fun _ => True) act) :
    Stored (SamePlace log₀) (onStorage act) :=
  h.within (fun _ _ => trivial) (fun _ _ _ hl _ => hl) fun _ _ _ hl hf => ⟨hf.1, hl⟩

/-- The database file is in a place that a storage can have. -/
theorem resolve_spec (h : log₀.Openable) :
    Spec (SamePlace log₀) resolve (fun p l => p.hasNull = false ∧ SamePlace log₀ l)
      fun f l => f.IsStorage ∧ SamePlace log₀ l := by
  refine Spec.bind (R := fun l s => SamePlace log₀ l ∧ SamePlace log₀ s)
    (Spec.read fun _ hs => ⟨hs, hs⟩) fun l => Spec.of_fact fun hl => ?_
  have hplace : (Path.ofText l.home l.place).hasNull = false := by
    rw [hl.1, hl.2]
    exact h
  have finish (p : Path) (hp : p.hasNull = false) : Spec (SamePlace log₀)
      (if l.storage.has p.dropLast then Pure.pure p else do
        onStorage (Storage.makeDirectories (.ofPath p.dropLast))
        return p) (fun p l => p.hasNull = false ∧ SamePlace log₀ l)
      fun f l => f.IsStorage ∧ SamePlace log₀ l := by
    split
    · exact Spec.pure fun _ hs => ⟨hp, hs⟩
    · refine Spec.bind (onStorage_stored (Storage.makeDirectories_stored (Path.hasNull_dropLast hp)))
        fun _ => Spec.pure fun _ hs => ⟨hp, hs⟩
  -- the file lies in the configured place, or in the directory that is there
  dsimp only
  split
  · exact finish _ (Path.hasNull_append.2 ⟨hplace, by decide⟩)
  · exact finish _ hplace

theorem connect_stored (h : log₀.Openable) : Stored (SamePlace log₀) connect := by
  unfold connect
  refine Spec.bind (resolve_spec h) fun p => Spec.of_fact fun hp => ?_
  refine Stored.bind (onStorage_stored (Storage.openFile_stored hp)) fun _ => .bind .read fun l => ?_
  dsimp only
  split
  · exact .pure _
  · refine .bind (onStorage_stored (Storage.makeTable_stored p)) fun _ => ?_
    exact .bind (.update fun _ hl => hl) fun _ => .pure _

theorem storedId_stored {id : Json} {f : Fault} (h : storedId id = .error f) : f.IsStorage := by
  unfold storedId at h
  split at h
  · cases h
  · cases h
  · cases h
    exact ⟨_, rfl⟩

/-- Only the storage can be the reason why a row is not added. -/
theorem append_stored (h : log₀.Openable) (now : String) (e : Log.Entry) :
    Stored (SamePlace log₀) (append now e) := by
  refine .bind (connect_stored h) fun p => .bind (onStorage_stored (Storage.table_stored p)) fun db => ?_
  refine .bind (.ofExcept fun _ => storedId_stored) fun id => ?_
  exact onStorage_stored (Storage.store_stored p _)

/-- An entry that is not kept leaves the event log as it is, and recording it does not fail. -/
theorem record_of_not_kept {e : Log.Entry} (h : e.isKept = false) (now : String)
    (log : EventLog) : record now e log = ⟨e.line?.toList, .ok (), log⟩ := by
  simp only [record, h, Bool.false_eq_true, if_false]

/-- **Recording an entry does not fail, whatever the storage is like.** It shows the line of the
entry and at most says that the entry could not be kept. -/
theorem record_spec (h : log₀.Openable) (now : String) (e : Log.Entry) :
    (record now e log₀).outcome = .ok () ∧ SamePlace log₀ (record now e log₀).log ∧
      ((record now e log₀).lines = e.line?.toList ∨
        (record now e log₀).lines = e.line?.toList ++ [notKept]) := by
  unfold record
  dsimp only
  split
  · match ho : (append now e).outcome log₀ with
    | (.ok (), log) => exact ⟨rfl, (append_stored h now e).of_ok ⟨rfl, rfl⟩ ho, .inl rfl⟩
    | (.error f, log) =>
      obtain ⟨⟨g, rfl⟩, hlog⟩ := (append_stored h now e).of_error ⟨rfl, rfl⟩ ho
      exact ⟨rfl, hlog, .inr rfl⟩
  · exact ⟨rfl, ⟨rfl, rfl⟩, .inl rfl⟩

end EventLog

end HostRouting
