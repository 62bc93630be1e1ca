import Mathlib.Data.List.Induction

/-!
# Parting a list

A list is parted at an element into those before and those after it.
-/

namespace HostRouting

variable {α : Type}

/-! ## Two ways to part a list -/

/-- A list with one more element at the end, parted at some element. -/
theorem concat_eq_part {l before after : List α} {x y : α} :
    l ++ [y] = before ++ x :: after ↔
      after = [] ∧ before = l ∧ y = x ∨ ∃ rest, after = rest ++ [y] ∧ l = before ++ x :: rest := by
  constructor
  · intro h
    rcases List.eq_nil_or_concat after with rfl | ⟨rest, z, rfl⟩
    · obtain ⟨hl, hy⟩ := List.append_inj' h rfl
      exact .inl ⟨rfl, hl.symm, List.singleton_inj.1 hy⟩
    · rw [List.concat_eq_append, ← List.cons_append, ← List.append_assoc] at h
      obtain ⟨hl, hy⟩ := List.append_inj' h rfl
      obtain rfl := List.singleton_inj.1 hy
      exact .inr ⟨rest, List.concat_eq_append, hl⟩
  · rintro (⟨rfl, rfl, rfl⟩ | ⟨rest, rfl, rfl⟩)
    · rfl
    · simp

/-- A list that is parted at two elements. -/
theorem part_eq_part {before before' after after' : List α} {x y : α} :
    before ++ x :: after = before' ++ y :: after' ↔
      (∃ mid, before' = before ++ x :: mid ∧ after = mid ++ y :: after') ∨
        (before = before' ∧ x = y ∧ after = after') ∨
          ∃ mid, before = before' ++ y :: mid ∧ after' = mid ++ x :: after := by
  constructor
  · intro h
    rcases List.append_eq_append_iff.1 h with ⟨mid, hb, hm⟩ | ⟨mid, hb, hm⟩
    · rcases List.cons_eq_append_iff.1 hm with ⟨rfl, he⟩ | ⟨rest, rfl, he⟩
      · obtain ⟨rfl, rfl⟩ := List.cons.inj he
        exact .inr (.inl ⟨by simpa using hb.symm, rfl, rfl⟩)
      · exact .inl ⟨rest, hb, he⟩
    · rcases List.cons_eq_append_iff.1 hm with ⟨rfl, he⟩ | ⟨rest, rfl, he⟩
      · obtain ⟨rfl, rfl⟩ := List.cons.inj he
        exact .inr (.inl ⟨by simpa using hb, rfl, rfl⟩)
      · exact .inr (.inr ⟨rest, hb, he⟩)
  · rintro (⟨mid, rfl, rfl⟩ | ⟨rfl, rfl, rfl⟩ | ⟨mid, rfl, rfl⟩)
    · simp
    · rfl
    · simp

/-- Where what a list gives is parted, the list itself can be parted. -/
theorem exists_part_of_filterMap {β : Type} {f : α → Option β} {l : List α} {xs ys : List β} {x : β}
    (h : l.filterMap f = xs ++ x :: ys) : ∃ before a after, l = before ++ a :: after ∧
      before.filterMap f = xs ∧ f a = some x ∧ after.filterMap f = ys := by
  obtain ⟨front, back, rfl, hfront, hback⟩ := List.filterMap_eq_append_iff.1 h
  obtain ⟨mid, a, after, rfl, hmid, ha, hafter⟩ := List.filterMap_eq_cons_iff.1 hback
  refine ⟨front ++ mid, a, after, by simp, ?_, ha, hafter⟩
  rw [List.filterMap_append, hfront, List.filterMap_eq_nil_iff.2 hmid, List.append_nil]

/-- A list is parted at the last of the elements that pass a test. -/
theorem exists_last_part {p : α → Bool} {l : List α} (h : ∃ x ∈ l, p x = true) :
    ∃ before x after, l = before ++ x :: after ∧ p x = true ∧ ∀ y ∈ after, p y = false := by
  induction l using List.reverseRecOn with
  | nil =>
    obtain ⟨x, hx, -⟩ := h
    cases hx
  | append_singleton l z ih =>
    by_cases hz : p z = true
    · exact ⟨l, z, [], rfl, hz, by simp⟩
    · -- the last element does not pass, so it belongs to what comes after
      obtain ⟨x, hx, hpx⟩ := h
      have hxl : x ∈ l := by
        rcases List.mem_append.1 hx with hx | hx
        · exact hx
        · rw [List.mem_singleton.1 hx] at hpx
          exact absurd hpx hz
      obtain ⟨before, w, after, rfl, hw, hafter⟩ := ih ⟨x, hxl, hpx⟩
      refine ⟨before, w, after ++ [z], by simp, hw, fun y hy => ?_⟩
      rcases List.mem_append.1 hy with hy | hy
      · exact hafter y hy
      · rw [List.mem_singleton.1 hy]
        simpa using hz

/-! ## The first element of a kind -/

/-- The element is the first one in the list of which `P` holds. -/
def IsFirst (P : α → Prop) (l : List α) (x : α) : Prop :=
  ∃ before after, l = before ++ x :: after ∧ P x ∧ ∀ y ∈ before, ¬ P y

namespace IsFirst

variable {P : α → Prop} {l : List α} {x y : α}

theorem mem (h : IsFirst P l x) : x ∈ l := by
  obtain ⟨before, after, rfl, -, -⟩ := h
  simp

theorem holds (h : IsFirst P l x) : P x := by
  obtain ⟨-, -, -, hx, -⟩ := h
  exact hx

/-- There is one first element. -/
theorem unique (hx : IsFirst P l x) (hy : IsFirst P l y) : x = y := by
  obtain ⟨before, after, hl, hpx, hbefore⟩ := hx
  obtain ⟨before', after', hl', hpy, hbefore'⟩ := hy
  rcases part_eq_part.1 (hl.symm.trans hl') with ⟨mid, rfl, -⟩ | ⟨-, hxy, -⟩ | ⟨mid, rfl, -⟩
  · exact absurd hpx (hbefore' x (by simp))
  · exact hxy
  · exact absurd hpy (hbefore y (by simp))

end IsFirst

/-- If there are elements of which `P` holds, one of them is the first. -/
theorem exists_isFirst {P : α → Prop} {l : List α} (h : ∃ x ∈ l, P x) : ∃ x, IsFirst P l x := by
  induction l with
  | nil => simp at h
  | cons a l ih =>
    by_cases ha : P a
    · exact ⟨a, [], l, rfl, ha, by simp⟩
    · obtain ⟨x, hx, hPx⟩ := h
      have hxa : x ≠ a := by
        rintro rfl
        exact ha hPx
      have hxl : x ∈ l := List.mem_of_ne_of_mem hxa hx
      obtain ⟨y, before, after, rfl, hy, hbefore⟩ := ih ⟨x, hxl, hPx⟩
      refine ⟨y, a :: before, after, rfl, hy, fun z hz => ?_⟩
      rcases List.mem_cons.1 hz with rfl | hz
      · exact ha
      · exact hbefore z hz

/-- A search finds the first element of which the test tells that `P` holds. -/
theorem find?_eq_some_iff_isFirst {P : α → Prop} {p : α → Bool} {l : List α} {x : α}
    (hp : ∀ y ∈ l, p y = true ↔ P y) : l.find? p = some x ↔ IsFirst P l x := by
  rw [List.find?_eq_some_iff_append]
  constructor
  · rintro ⟨hx, before, after, rfl, hbefore⟩
    refine ⟨before, after, rfl, (hp x (by simp)).1 hx, fun y hy hPy => ?_⟩
    have hpy := (hp y (by simp [hy])).2 hPy
    simpa [hpy] using hbefore y hy
  · rintro ⟨before, after, rfl, hx, hbefore⟩
    refine ⟨(hp x (by simp)).2 hx, before, after, rfl, fun y hy => ?_⟩
    simpa using mt (hp y (by simp [hy])).1 (hbefore y hy)

end HostRouting
