import HostRouting.Fault
import Mathlib.Data.List.Sort

/-!
# Putting a list in order by comparing

A procedure that puts a list in order learns about the elements only by asking of two of them, at
different places of the list, whether one comes before the other. If the elements differ in a key by
which they are compared, then it does not matter what would come of comparing elements with one key,
not even whether they can be compared.
-/

namespace HostRouting

/-! ## Procedures that compare -/

/-- A procedure that asks of two elements whether the first comes before the second, goes on as the
answer is, and gives a result in the end. -/
inductive Inquiry (α β : Type) where
  | result (b : β)
  | ask (x y : α) (next : Bool → Inquiry α β)

namespace Inquiry

variable {α β γ κ : Type}

/-- The result with a comparison that may fail. -/
def run (before : α → α → Except Fault Bool) : Inquiry α β → Except Fault β
  | result b => .ok b
  | ask x y next => do (next (← before x y)).run before

/-- One procedure after the other. -/
def andThen (rest : β → Inquiry α γ) : Inquiry α β → Inquiry α γ
  | result b => rest b
  | ask x y next => .ask x y fun a => (next a).andThen rest

/-- The comparison by a key. -/
def byKey [LinearOrder κ] (key : α → κ) (x y : α) : Except Fault Bool := .ok (decide (key x < key y))

/-- Whatever the answers are, the procedure asks about pairs with `A` only and gives a result with
`Q`. -/
inductive Keeps (A : α → α → Prop) (Q : β → Prop) : Inquiry α β → Prop
  | result {b : β} (h : Q b) : Keeps A Q (.result b)
  | ask {x y : α} {next : Bool → Inquiry α β} (h : A x y) (hnext : ∀ a, Keeps A Q (next a)) :
      Keeps A Q (.ask x y next)

/-- The outcome of one procedure after the other. -/
theorem run_andThen (before : α → α → Except Fault Bool) (rest : β → Inquiry α γ)
    (p : Inquiry α β) :
    (p.andThen rest).run before = p.run before >>= fun b => (rest b).run before := by
  induction p with
  | result b => rfl
  | ask x y next ih =>
    rw [andThen, run, run]
    cases before x y with
    | error f => rfl
    | ok a => exact ih a

namespace Keeps

variable {A A' : α → α → Prop} {Q Q' : β → Prop} {R : γ → Prop} {p : Inquiry α β}

/-- More pairs may be asked about, and less be asked of the result. -/
theorem mono (h : p.Keeps A Q) (hA : ∀ x y, A x y → A' x y) (hQ : ∀ b, Q b → Q' b) :
    p.Keeps A' Q' := by
  induction h with
  | result h => exact .result (hQ _ h)
  | ask h _ ih => exact .ask (hA _ _ h) ih

/-- One procedure after the other. -/
theorem andThen {rest : β → Inquiry α γ} (h : p.Keeps A Q)
    (hrest : ∀ b, Q b → (rest b).Keeps A R) : (p.andThen rest).Keeps A R := by
  induction h with
  | result h => exact hrest _ h
  | ask h _ ih => exact .ask h ih

/-- Only the pairs that are asked about matter. -/
theorem run_congr {before before' : α → α → Except Fault Bool} (h : p.Keeps A Q)
    (hA : ∀ x y, A x y → before x y = before' x y) : p.run before = p.run before' := by
  induction h with
  | result => rfl
  | ask h _ ih =>
    rw [run, run, hA _ _ h]
    exact bind_congr ih

/-- A comparison that does not fail leads to a result. -/
theorem run_ok (h : p.Keeps A Q) (before : α → α → Bool) :
    ∃ b, p.run (fun x y => .ok (before x y)) = .ok b ∧ Q b := by
  induction h with
  | result h => exact ⟨_, rfl, h⟩
  | ask _ _ ih => exact ih _

end Keeps

end Inquiry

open Inquiry (byKey)

/-- A way of putting lists in order. It asks about elements at two different places only, gives the
elements of the list again, and gives them in the order of their keys if they are compared by a key. -/
structure Sorter (α : Type) where
  inquiry : List α → Inquiry α (List α)
  keeps : ∀ l, (inquiry l).Keeps (fun x y => [x, y].Subperm l) fun m => m.Perm l
  sorts : ∀ {κ : Type} [LinearOrder κ] (key : α → κ) {l m : List α},
    (inquiry l).run (byKey key) = .ok m → m.Pairwise fun x y => key x ≤ key y

namespace Sorter

variable {α κ : Type} {key : α → κ} {l : List α}

/-! ## Elements with different keys -/

/-- Elements at different places have different keys if no key comes twice. -/
theorem ne_of_subperm {x y : α} (hl : (l.map key).Nodup) (h : [x, y].Subperm l) : key x ≠ key y := by
  obtain ⟨m, hm, hsub⟩ := h
  have hnodup : ([x, y].map key).Nodup := (hm.map key).nodup_iff.1 ((hsub.map key).nodup hl)
  simpa using hnodup

/-- If no key comes twice, the keys of elements in order increase. -/
theorem pairwise_lt_of_nodup [LinearOrder κ] (hl : (l.map key).Nodup)
    (h : l.Pairwise fun x y => key x ≤ key y) : l.Pairwise fun x y => key x < key y := by
  have hne : l.Pairwise fun x y => key x ≠ key y := List.pairwise_map.1 hl
  exact h.imp₂ (fun x y hle hne => lt_of_le_of_ne hle hne) hne

/-- **A list in which no key comes twice is put in order without a comparison of elements that have one
key.** -/
theorem exists_run_eq_ok [LinearOrder κ] (s : Sorter α) (hl : (l.map key).Nodup)
    {before : α → α → Except Fault Bool}
    (hbefore : ∀ x y, key x ≠ key y → before x y = byKey key x y) :
    ∃ m, (s.inquiry l).run before = .ok m ∧ m.Perm l ∧ m.Pairwise fun x y => key x < key y := by
  have hrun : (s.inquiry l).run before = (s.inquiry l).run (byKey key) :=
    (s.keeps l).run_congr fun x y h => hbefore x y (ne_of_subperm hl h)
  obtain ⟨m, hm, hperm⟩ := (s.keeps l).run_ok fun x y => decide (key x < key y)
  have hnodup : (m.map key).Nodup := (hperm.map key).nodup_iff.2 hl
  exact ⟨m, hrun.trans hm, hperm, pairwise_lt_of_nodup hnodup (s.sorts key hm)⟩

/-! ## Insertion -/

/-- Puts an element before the first one that does not come before it. -/
def insert (x : α) : List α → Inquiry α (List α)
  | [] => .result [x]
  | y :: l => .ask y x fun a =>
    if a then (insert x l).andThen fun m => .result (y :: m) else .result (x :: y :: l)

/-- Puts the elements in their places one after the other. -/
def sort : List α → Inquiry α (List α)
  | [] => .result []
  | x :: l => (sort l).andThen (insert x)

/-- An element is compared with the others when it is put in its place. -/
theorem insert_keeps (x : α) (l : List α) :
    (insert x l).Keeps (fun y z => y ∈ l ∧ z = x) fun m => m.Perm (x :: l) := by
  induction l with
  | nil => exact .result (.refl _)
  | cons y l ih =>
    refine .ask ⟨by simp, rfl⟩ fun a => ?_
    cases a with
    | false => exact .result (.refl _)
    | true =>
      have hmore : (insert x l).Keeps (fun w z => w ∈ y :: l ∧ z = x) fun m => m.Perm (x :: l) :=
        ih.mono (fun w z h => ⟨List.mem_cons_of_mem _ h.1, h.2⟩) fun _ hm => hm
      exact hmore.andThen fun m hm => .result ((hm.cons y).trans (.swap x y l))

/-- It comes to its place among elements that are in the order of their keys. -/
theorem run_insert [LinearOrder κ] (key : α → κ) (x : α) (l : List α) :
    (insert x l).run (byKey key) = .ok (l.orderedInsert (fun x y => key x ≤ key y) x) := by
  induction l with
  | nil => rfl
  | cons y l ih =>
    by_cases hy : key y < key x
    · have hask : (insert x (y :: l)).run (byKey key) =
          ((insert x l).andThen fun m => .result (y :: m)).run (byKey key) := by
        simp only [insert, Inquiry.run, byKey, hy]
        rfl
      rw [hask, Inquiry.run_andThen, ih, List.orderedInsert_cons, if_neg (not_le_of_gt hy)]
      rfl
    · have hask : (insert x (y :: l)).run (byKey key) = .ok (x :: y :: l) := by
        simp only [insert, Inquiry.run, byKey, hy]
        rfl
      rw [hask, List.orderedInsert_cons, if_pos (le_of_not_gt hy)]

/-- Elements at different places are compared when a list is put in order. -/
theorem sort_keeps (l : List α) :
    (sort l).Keeps (fun x y => [x, y].Subperm l) fun m => m.Perm l := by
  induction l with
  | nil => exact .result (.refl _)
  | cons x l ih =>
    have hold : (sort l).Keeps (fun y z => [y, z].Subperm (x :: l)) fun m => m.Perm l :=
      ih.mono (fun y z h => h.trans (List.sublist_cons_self x l).subperm) fun _ hm => hm
    refine hold.andThen fun m hm => ?_
    refine (insert_keeps x m).mono (fun y z h => ?_) fun m' hm' => hm'.trans (hm.cons x)
    obtain ⟨hy, rfl⟩ := h
    have hyl : [y].Subperm l := List.singleton_subperm_iff.2 (hm.mem_iff.1 hy)
    exact (List.Perm.swap z y []).subperm.trans ((List.subperm_cons z).2 hyl)

/-- The list is put in the order of the keys. -/
theorem run_sort [LinearOrder κ] (key : α → κ) (l : List α) :
    (sort l).run (byKey key) = .ok (l.insertionSort fun x y => key x ≤ key y) := by
  induction l with
  | nil => rfl
  | cons x l ih =>
    rw [sort, Inquiry.run_andThen, ih]
    exact run_insert key x _

/-- Putting the elements in their places one after the other is a way of putting lists in order. -/
def insertion : Sorter α where
  inquiry := sort
  keeps := sort_keeps
  sorts key l m h := by
    rw [run_sort] at h
    cases h
    have : Std.Total fun x y => key x ≤ key y := ⟨fun x y => le_total (key x) (key y)⟩
    have : IsTrans α fun x y => key x ≤ key y := ⟨fun x y z => le_trans⟩
    exact List.pairwise_insertionSort _ l

end Sorter

end HostRouting
