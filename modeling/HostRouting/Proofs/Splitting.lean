import HostRouting.Text.Split

/-!
# The fields of a text

A text that is split at a character gives the fields between its occurrences. Texts with the
character between them are split each by itself, and fields that do not have it come back as they
were put together.
-/

namespace HostRouting.Text

variable {sep : Char} {s t f : String} {cs ds : List Char}

/-- Splitting is that of lists. -/
theorem splitChars_eq_splitOn (sep : Char) (cs : List Char) : splitChars sep cs = cs.splitOn sep := by
  induction cs with
  | nil => rfl
  | cons c cs ih =>
    rw [splitChars, List.splitOn_cons_eq_if_modifyHead, ih]
    by_cases hc : c = sep
    · simp [hc]
    · rw [if_neg hc, if_neg (by simpa using hc)]
      cases hfields : cs.splitOn sep with
      | nil => exact absurd hfields (List.splitOn_ne_nil sep cs)
      | cons field fields => rfl

/-- Texts with the separator between them are split each by itself. -/
theorem splitChars_append_cons (sep : Char) (cs ds : List Char) :
    splitChars sep (cs ++ sep :: ds) = splitChars sep cs ++ splitChars sep ds := by
  simp only [splitChars_eq_splitOn, List.splitOn_append_cons_self]

/-- Without a separator there is one field. -/
theorem splitChars_of_not_mem (h : sep ∉ cs) : splitChars sep cs = [cs] := by
  rw [splitChars_eq_splitOn, List.splitOn_eq_singleton h]

/-- No field has a separator. -/
theorem not_mem_of_mem_splitChars (h : ds ∈ splitChars sep cs) : sep ∉ ds := by
  induction cs generalizing ds with
  | nil => simp_all [splitChars]
  | cons c cs ih =>
    rw [splitChars] at h
    by_cases hc : c = sep
    · rw [if_pos hc] at h
      rcases List.mem_cons.1 h with rfl | h
      · simp
      · exact ih h
    · -- the character stands at the head of the first field
      rw [if_neg hc] at h
      cases hfields : splitChars sep cs with
      | nil => exact absurd hfields (splitChars_ne_nil sep cs)
      | cons field fields =>
        rw [hfields] at h ih
        rcases List.mem_cons.1 h with rfl | h
        · simp [Ne.symm hc, ih List.mem_cons_self]
        · exact ih (List.mem_cons_of_mem _ h)

/-! ## Texts -/

/-- Texts with the separator between them are split each by itself. -/
theorem fields_append (sep : Char) (s t : String) :
    fields sep (s ++ String.singleton sep ++ t) = fields sep s ++ fields sep t := by
  simp [fields, splitChars_append_cons]

/-- No field has a separator. -/
theorem not_mem_of_mem_fields (h : f ∈ fields sep s) : sep ∉ f.toList := by
  obtain ⟨ds, hds, rfl⟩ := List.mem_map.1 h
  rw [String.toList_ofList]
  exact not_mem_of_mem_splitChars hds

/-- Fields come back as they were put together. -/
theorem fields_intercalate {fs : List String} (hne : fs ≠ []) (h : ∀ f ∈ fs, sep ∉ f.toList) :
    fields sep ((String.singleton sep).intercalate fs) = fs := by
  have hchars : ∀ ds ∈ fs.map String.toList, sep ∉ ds := by
    intro ds hds
    obtain ⟨f, hf, rfl⟩ := List.mem_map.1 hds
    exact h f hf
  rw [fields, splitChars_eq_splitOn, String.toList_intercalate, String.toList_singleton,
    List.splitOn_intercalate sep hchars (by simpa using hne), List.map_map]
  simp [Function.comp_def]

/-- Fields put together give the text that was split. -/
theorem intercalate_fields (sep : Char) (s : String) :
    (String.singleton sep).intercalate (fields sep s) = s := by
  apply String.toList_injective
  rw [String.toList_intercalate, String.toList_singleton, fields, List.map_map, splitChars_eq_splitOn]
  simp [Function.comp_def, List.intercalate_splitOn]

/-- A text without the separator is its one field. -/
theorem fields_eq_singleton_iff : fields sep s = [t] ↔ sep ∉ s.toList ∧ t = s := by
  constructor
  · intro h
    have hs := intercalate_fields sep s
    rw [h, String.intercalate_singleton] at hs
    subst hs
    exact ⟨not_mem_of_mem_fields (h ▸ List.mem_singleton_self t), rfl⟩
  · rintro ⟨h, rfl⟩
    rw [fields, splitChars_of_not_mem h, List.map_singleton, String.ofList_toList]

end HostRouting.Text
