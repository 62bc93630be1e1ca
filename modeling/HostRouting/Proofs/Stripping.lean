import HostRouting.Text.Blank
import Mathlib.Data.List.DropRight
import Mathlib.Data.List.TakeWhile

/-!
# What is left of a stripped text

Stripping takes blanks away at both ends of a text and nothing else. What is left is the one part of
the text that has only blanks around it and no blank at its own ends.
-/

namespace HostRouting.Text

variable {p : Char → Bool} {cs core before after : List Char}

/-! ## Lists of characters -/

/-- No character of the class stands at an end. -/
def Bare (p : Char → Bool) (cs : List Char) : Prop :=
  (∀ c ∈ cs.head?, p c = false) ∧ ∀ c ∈ cs.getLast?, p c = false

instance (p : Char → Bool) (cs : List Char) : Decidable (Bare p cs) :=
  inferInstanceAs (Decidable (_ ∧ _))

theorem bare_nil : Bare p [] := ⟨by simp, by simp⟩

theorem dropWhile_eq_self_of_head (h : ∀ c ∈ cs.head?, p c = false) : cs.dropWhile p = cs := by
  cases cs with
  | nil => rfl
  | cons c cs =>
    apply List.dropWhile_cons_of_neg
    rw [h c rfl]
    exact Bool.false_ne_true

theorem head_dropWhile_eq_false : ∀ c ∈ (cs.dropWhile p).head?, p c = false := by
  induction cs with
  | nil => simp
  | cons d cs ih =>
    intro c hc
    by_cases hd : p d = true
    · rw [List.dropWhile_cons_of_pos hd] at hc
      exact ih c hc
    · rw [List.dropWhile_cons_of_neg hd] at hc
      obtain rfl := Option.some.inj hc
      exact Bool.eq_false_iff.2 hd

/-- Nothing is taken away between the ends. -/
theorem trimBy_around (hbefore : ∀ c ∈ before, p c = true) (hcore : Bare p core)
    (hafter : ∀ c ∈ after, p c = true) : trimBy p (before ++ core ++ after) = core := by
  cases core with
  | nil =>
    apply trimBy_eq_nil_of_all
    intro c hc
    rw [List.append_nil] at hc
    rcases List.mem_append.1 hc with hc | hc
    · exact hbefore c hc
    · exact hafter c hc
  | cons d core =>
    have hfront : (before ++ d :: core ++ after).dropWhile p = d :: core ++ after := by
      rw [List.append_assoc, List.dropWhile_append_of_pos hbefore]
      apply dropWhile_eq_self_of_head
      exact hcore.1
    have hback : ((d :: core).reverse).dropWhile p = (d :: core).reverse := by
      apply dropWhile_eq_self_of_head
      rw [List.head?_reverse]
      exact hcore.2
    rw [trimBy, hfront, List.reverse_append, List.dropWhile_append_of_pos, hback,
      List.reverse_reverse]
    intro c hc
    exact hafter c (List.mem_reverse.1 hc)

/-- What is taken away is of the class. -/
theorem exists_around_trimBy (p : Char → Bool) (cs : List Char) :
    ∃ before after, cs = before ++ trimBy p cs ++ after ∧ (∀ c ∈ before, p c = true) ∧
      ∀ c ∈ after, p c = true := by
  refine ⟨cs.takeWhile p, (cs.dropWhile p).rtakeWhile p, ?_, ?_, ?_⟩
  · have hback : trimBy p cs ++ (cs.dropWhile p).rtakeWhile p = cs.dropWhile p :=
      List.rdropWhile_append_rtakeWhile ..
    rw [List.append_assoc, hback, List.takeWhile_append_dropWhile]
  · intro c hc
    exact List.mem_takeWhile_imp hc
  · intro c hc
    exact List.mem_rtakeWhile_imp hc

/-- Nothing of the class is left at the ends. -/
theorem trimBy_bare (p : Char → Bool) (cs : List Char) : Bare p (trimBy p cs) := by
  constructor
  · -- the front is that of the characters whose back is trimmed, if anything is left of them
    intro c hc
    have hprefix : trimBy p cs <+: cs.dropWhile p := List.rdropWhile_prefix ..
    obtain ⟨rest, hrest⟩ := hprefix
    apply head_dropWhile_eq_false c
    rw [← hrest, List.head?_append, hc]
    rfl
  · intro c hc
    rw [trimBy, List.getLast?_reverse] at hc
    exact head_dropWhile_eq_false c hc

theorem trimBy_eq_iff : trimBy p cs = core ↔ Bare p core ∧ ∃ before after,
    cs = before ++ core ++ after ∧ (∀ c ∈ before, p c = true) ∧ ∀ c ∈ after, p c = true := by
  constructor
  · rintro rfl
    exact ⟨trimBy_bare p cs, exists_around_trimBy p cs⟩
  · rintro ⟨hcore, before, after, rfl, hbefore, hafter⟩
    exact trimBy_around hbefore hcore hafter

/-! ## Texts -/

/-- The text consists of blanks. -/
def Blank (s : String) : Prop := ∀ c ∈ s.toList, isBlank c = true

/-- The text neither begins nor ends with a blank. -/
def Trimmed (s : String) : Prop := Bare isBlank s.toList

instance (s : String) : Decidable (Blank s) :=
  inferInstanceAs (Decidable (∀ c ∈ s.toList, isBlank c = true))

instance (s : String) : Decidable (Trimmed s) := inferInstanceAs (Decidable (Bare _ _))

/-- **A stripped text is its part between the blanks at its ends.** -/
theorem strip_eq_iff {s t : String} : strip s = t ↔ Trimmed t ∧ ∃ before after,
    s = before ++ t ++ after ∧ Blank before ∧ Blank after := by
  have hstrip : strip s = t ↔ trimBy isBlank s.toList = t.toList := by
    rw [strip, ← String.toList_inj, String.toList_ofList]
  rw [hstrip, trimBy_eq_iff]
  refine and_congr_right fun _ => ?_
  constructor
  · rintro ⟨before, after, hs, hbefore, hafter⟩
    refine ⟨String.ofList before, String.ofList after, ?_, ?_, ?_⟩
    · rw [← String.toList_inj, hs]
      simp
    · intro c hc
      rw [String.toList_ofList] at hc
      exact hbefore c hc
    · intro c hc
      rw [String.toList_ofList] at hc
      exact hafter c hc
  · rintro ⟨before, after, rfl, hbefore, hafter⟩
    exact ⟨before.toList, after.toList, by simp, hbefore, hafter⟩

/-- Nothing is left of blanks, and of blanks only. -/
theorem strip_eq_empty_iff {s : String} : strip s = "" ↔ Blank s := by
  rw [strip_eq_iff]
  constructor
  · rintro ⟨-, before, after, rfl, hbefore, hafter⟩ c hc
    simp only [String.append_empty, String.toList_append, List.mem_append] at hc
    rcases hc with hc | hc
    · exact hbefore c hc
    · exact hafter c hc
  · intro h
    exact ⟨bare_nil, s, "", by simp, h, by simp [Blank]⟩

/-- Nothing is taken away where no blank stands at an end. -/
theorem strip_of_trimmed {s : String} (h : Trimmed s) : strip s = s :=
  strip_eq_iff.2 ⟨h, "", "", by simp, by simp [Blank], by simp [Blank]⟩

/-- Nothing is left that was not there. -/
theorem mem_of_mem_strip {c : Char} {s : String} (h : c ∈ (strip s).toList) : c ∈ s.toList := by
  obtain ⟨-, before, after, hs, -, -⟩ := strip_eq_iff.1 (rfl : strip s = strip s)
  rw [hs]
  simp [h]

end HostRouting.Text
