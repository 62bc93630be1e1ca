import HostRouting.Text.Percent
import Mathlib.Data.List.Infix

/-!
# Texts without percent escapes

A text is decoded to itself just when no percent sign with two hexadecimal digits stands in it:
what such an escape stands for is shorter than the escape, and everything else stands for itself.
-/

namespace HostRouting.Text

variable {c a b : Char} {cs ds : List Char} {s t : String}

/-! ## Escapes -/

/-- A percent sign with two hexadecimal digits. -/
def IsEscape (cs : List Char) : Prop :=
  ∃ a b, cs = ['%', a, b] ∧ (hexValue? a).isSome ∧ (hexValue? b).isSome

/-- An escape stands in the text. -/
def HasEscape (cs : List Char) : Prop := ∃ e, IsEscape e ∧ e <:+: cs

/-- The text begins with an escape. -/
def BeginsEscape (cs : List Char) : Prop := ∃ e, IsEscape e ∧ e <+: cs

theorem hasEscape_cons_iff : HasEscape (c :: cs) ↔ BeginsEscape (c :: cs) ∨ HasEscape cs := by
  simp only [HasEscape, BeginsEscape, List.infix_cons_iff, and_or_left, exists_or]

theorem beginsEscape_iff : BeginsEscape cs ↔ ∃ a b r, cs = '%' :: a :: b :: r ∧
    (hexValue? a).isSome ∧ (hexValue? b).isSome := by
  constructor
  · rintro ⟨_, ⟨a, b, rfl, ha, hb⟩, r, rfl⟩
    exact ⟨a, b, r, rfl, ha, hb⟩
  · rintro ⟨a, b, r, rfl, ha, hb⟩
    exact ⟨_, ⟨a, b, rfl, ha, hb⟩, r, rfl⟩

theorem not_hasEscape_nil : ¬ HasEscape [] := by
  rintro ⟨_, ⟨a, b, rfl, -, -⟩, hinfix⟩
  cases List.infix_nil.1 hinfix

/-! ## Units -/

/-- The byte or the character that a character itself is. -/
def unitOf (c : Char) : Nat ⊕ Char := if c.toNat < 0x80 then .inl c.toNat else .inr c

/-- What does not begin an escape is a unit of its own. -/
theorem percentUnits_cons (h : ¬ BeginsEscape (c :: cs)) :
    percentUnits (c :: cs) = unitOf c :: percentUnits cs := by
  rw [beginsEscape_iff] at h
  rw [percentUnits.eq_def]
  split
  · rename_i a b r heq
    obtain ⟨rfl, rfl⟩ := List.cons.inj heq
    split
    · rename_i m n ha hb
      exact absurd ⟨a, b, r, rfl, by simp [ha], by simp [hb]⟩ h
    · rfl
  · rename_i heq
    obtain ⟨rfl, rfl⟩ := List.cons.inj heq
    rfl
  · rename_i heq
    cases heq

/-- An escape is one unit. -/
theorem percentUnits_escape (ha : (hexValue? a).isSome) (hb : (hexValue? b).isSome)
    (cs : List Char) : ∃ n, percentUnits ('%' :: a :: b :: cs) = .inl n :: percentUnits cs := by
  obtain ⟨m, hm⟩ := Option.isSome_iff_exists.1 ha
  obtain ⟨n, hn⟩ := Option.isSome_iff_exists.1 hb
  exact ⟨16 * m + n, by rw [percentUnits, hm, hn]⟩

theorem percentUnits_of_not_hasEscape (h : ¬ HasEscape cs) : percentUnits cs = cs.map unitOf := by
  induction cs with
  | nil => rfl
  | cons c cs ih =>
    rw [hasEscape_cons_iff, not_or] at h
    rw [percentUnits_cons h.1, ih h.2, List.map_cons]

theorem length_percentUnits_le (cs : List Char) : (percentUnits cs).length ≤ cs.length := by
  fun_induction percentUnits cs with
  | case1 a b r m n ha hb ih =>
    simp only [List.length_cons]
    omega
  | case2 a b r hnot ih => exact Nat.succ_le_succ ih
  | case3 c r hnot ih => exact Nat.succ_le_succ ih
  | case4 => exact Nat.le_refl 0

theorem length_percentUnits_lt (h : HasEscape cs) : (percentUnits cs).length < cs.length := by
  induction cs with
  | nil => exact absurd h not_hasEscape_nil
  | cons c cs ih =>
    by_cases hbegins : BeginsEscape (c :: cs)
    · obtain ⟨a, b, r, heq, ha, hb⟩ := beginsEscape_iff.1 hbegins
      obtain ⟨n, hn⟩ := percentUnits_escape ha hb r
      have hle := length_percentUnits_le r
      rw [heq, hn]
      simp only [List.length_cons]
      omega
    · rw [percentUnits_cons hbegins, List.length_cons, List.length_cons]
      exact Nat.succ_lt_succ (ih ((hasEscape_cons_iff.1 h).resolve_left hbegins))

/-- A part without percent signs is read by itself. -/
theorem percentUnits_append (h : '%' ∉ cs) :
    percentUnits (cs ++ ds) = cs.map unitOf ++ percentUnits ds := by
  induction cs with
  | nil => rfl
  | cons c cs ih =>
    rw [List.mem_cons, not_or] at h
    have hbegins : ¬ BeginsEscape (c :: (cs ++ ds)) := by
      rw [beginsEscape_iff]
      rintro ⟨a, b, r, heq, -, -⟩
      exact h.1 (List.cons.inj heq).1.symm
    rw [List.cons_append, percentUnits_cons hbegins, ih h.2, List.map_cons, List.cons_append]

/-! ## Characters -/

/-- Characters that stand for themselves are read as they are. -/
theorem readUnits_map_unitOf_append (cs : List Char) (us : List (Nat ⊕ Char)) :
    readUnits none (cs.map unitOf ++ us) = cs ++ readUnits none us := by
  induction cs with
  | nil => rfl
  | cons c cs ih =>
    rw [List.map_cons, List.cons_append, unitOf]
    split
    · rename_i hc
      rw [readUnits, beginChar, if_pos hc, ih, Char.ofNat_toNat, List.cons_append]
    · rw [readUnits, ih, List.cons_append]

/-- There are no more characters than units; one that is begun may add the replacement. -/
theorem length_readUnits_le (begun? : Option Begun) (us : List (Nat ⊕ Char)) :
    (readUnits begun? us).length ≤ us.length + if begun?.isSome then 1 else 0 := by
  fun_induction readUnits begun? us <;> simp_all <;> omega

/-! ## Texts -/

/-- **A text is decoded to itself just when no escape stands in it.** -/
theorem percentDecoded_eq_self_iff : percentDecoded s = s ↔ ¬ HasEscape s.toList := by
  constructor
  · intro hself hescape
    have hunits := length_percentUnits_lt hescape
    have hchars := length_readUnits_le none (percentUnits s.toList)
    have hlength := congrArg (fun t => t.toList.length) hself
    simp only [percentDecoded, String.toList_ofList] at hlength
    simp at hchars
    omega
  · intro h
    have hread := readUnits_map_unitOf_append s.toList []
    rw [List.append_nil] at hread
    rw [percentDecoded, percentUnits_of_not_hasEscape h, hread]
    simp [readUnits]

/-- Decoding makes no text longer. -/
theorem length_percentDecoded_le (s : String) :
    (percentDecoded s).toList.length ≤ s.toList.length := by
  have hchars := length_readUnits_le none (percentUnits s.toList)
  have hunits := length_percentUnits_le s.toList
  rw [percentDecoded, String.toList_ofList]
  simp at hchars
  omega

/-- A part without percent signs stays as it is. -/
theorem percentDecoded_append (h : '%' ∉ s.toList) :
    percentDecoded (s ++ t) = s ++ percentDecoded t := by
  rw [percentDecoded, String.toList_append, percentUnits_append h, readUnits_map_unitOf_append,
    String.ofList_append, String.ofList_toList, percentDecoded]

end HostRouting.Text
