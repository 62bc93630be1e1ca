import HostRouting.Declaration
import HostRouting.Proofs.Parting

/-!
# What an environment declares

An entry such as `name=value` gives a value for a name, and the last entry that gives one decides.
The declaration that is read off an environment holds just the values that are decided on so for the
host and for the port.
-/

namespace HostRouting

/-! ## Cutting a text -/

namespace Text

theorem cutChars_eq_some_iff {sep : Char} {cs a b : List Char} :
    cutChars sep cs = some (a, b) ↔ cs = a ++ sep :: b ∧ sep ∉ a := by
  induction cs generalizing a with
  | nil => simp [cutChars]
  | cons c cs ih =>
    by_cases hc : c = sep
    · rw [cutChars, if_pos hc]
      constructor
      · rintro ⟨⟩
        exact ⟨by rw [hc, List.nil_append], List.not_mem_nil⟩
      · rintro ⟨hcs, ha⟩
        cases a with
        | nil =>
          cases hcs
          rfl
        | cons d a =>
          cases hcs
          exact absurd (by rw [hc]; exact List.mem_cons_self) ha
    · rw [cutChars, if_neg hc, Option.map_eq_some_iff]
      constructor
      · rintro ⟨⟨a', b'⟩, h, ⟨⟩⟩
        obtain ⟨rfl, ha⟩ := ih.1 h
        exact ⟨rfl, List.not_mem_cons_of_ne_of_not_mem (Ne.symm hc) ha⟩
      · rintro ⟨hcs, ha⟩
        cases a with
        | nil =>
          cases hcs
          exact absurd rfl hc
        | cons d a =>
          cases hcs
          exact ⟨(a, b), ih.2 ⟨rfl, List.not_mem_of_not_mem_cons ha⟩, rfl⟩

/-- A text is cut at the first `sep`. -/
theorem cut?_eq_some_iff {sep : Char} {s a b : String} :
    cut? sep s = some (a, b) ↔ s = a ++ String.singleton sep ++ b ∧ sep ∉ a.toList := by
  have htext : s = a ++ String.singleton sep ++ b ↔ s.toList = a.toList ++ sep :: b.toList := by
    rw [← String.toList_inj]
    simp
  rw [htext, ← cutChars_eq_some_iff, cut?, Option.map_eq_some_iff]
  constructor
  · rintro ⟨⟨x, y⟩, h, ⟨⟩⟩
    simpa using h
  · intro h
    exact ⟨_, h, by simp⟩

end Text

namespace Declaration

/-! ## Entries that give a value -/

/-- The entry gives a value for a name: up to blanks around them it is `name=value`, and the value is
not blank. -/
def Gives (s name value : String) : Prop :=
  ∃ key text, s = key ++ "=" ++ text ∧ '=' ∉ key.toList ∧ Text.strip key = name ∧
    Text.strip text = value ∧ value ≠ ""

theorem entry?_eq_some_iff {s name value : String} :
    entry? s = some (name, value) ↔ Gives s name value := by
  unfold entry?
  constructor
  · intro h
    split at h
    · cases h
    · rename_i key text hcut
      obtain ⟨hs, hkey⟩ := Text.cut?_eq_some_iff.1 hcut
      split at h
      · cases h
      · rename_i hvalue
        cases h
        exact ⟨key, text, hs, hkey, rfl, rfl, hvalue⟩
  · rintro ⟨key, text, hs, hkey, rfl, rfl, hvalue⟩
    have hcut : Text.cut? '=' s = some (key, text) := Text.cut?_eq_some_iff.2 ⟨hs, hkey⟩
    rw [hcut]
    exact if_neg hvalue

/-- An entry gives one value for one name. -/
theorem Gives.unique {s name name' v w : String} (h : Gives s name v) (h' : Gives s name' w) :
    name = name' ∧ v = w := by
  rw [← entry?_eq_some_iff] at h h'
  cases h.symm.trans h'
  exact ⟨rfl, rfl⟩

/-- What an entry gives is not empty. -/
theorem Gives.ne_empty {s name v : String} (h : Gives s name v) : v ≠ "" := by
  obtain ⟨-, -, -, -, -, -, hv⟩ := h
  exact hv

/-- The environment declares a value for a name: the last entry that gives one for it gives this. -/
def Declares (entries : List String) (name value : String) : Prop :=
  ∃ before s after, entries = before ++ s :: after ∧ Gives s name value ∧
    ∀ t ∈ after, ∀ v, ¬ Gives t name v

variable {entries : List String} {s name v w : String}

/-- What is declared is not empty. -/
theorem Declares.ne_empty (h : Declares entries name v) : v ≠ "" := by
  obtain ⟨_, _, _, -, hs, -⟩ := h
  exact hs.ne_empty

theorem not_declares_nil : ¬ Declares [] name v := by
  rintro ⟨before, s, after, h, -⟩
  simp at h

/-- An entry at the end decides if it gives a value. -/
theorem declares_concat_of_gives (hs : Gives s name w) :
    Declares (entries ++ [s]) name v ↔ v = w := by
  constructor
  · rintro ⟨before, t, after, hpart, ht, hlater⟩
    rcases concat_eq_part.1 hpart with ⟨-, -, rfl⟩ | ⟨rest, rfl, -⟩
    · exact (ht.unique hs).2
    · exact absurd hs (hlater s (by simp) w)
  · rintro rfl
    exact ⟨entries, s, [], rfl, hs, by simp⟩

/-- It does not matter otherwise. -/
theorem declares_concat_of_not (hs : ∀ w, ¬ Gives s name w) :
    Declares (entries ++ [s]) name v ↔ Declares entries name v := by
  constructor
  · rintro ⟨before, t, after, hpart, ht, hlater⟩
    rcases concat_eq_part.1 hpart with ⟨-, -, rfl⟩ | ⟨rest, rfl, rfl⟩
    · exact absurd ht (hs v)
    · exact ⟨before, t, rest, rfl, ht, fun u hu => hlater u (by simp [hu])⟩
  · rintro ⟨before, t, after, rfl, ht, hlater⟩
    refine ⟨before, t, after ++ [s], by simp, ht, fun u hu => ?_⟩
    rcases List.mem_append.1 hu with hu | hu
    · exact hlater u hu
    · rw [List.mem_singleton.1 hu]
      exact hs

/-! ## The declaration that is read -/

/-- A field of a declaration holds what the last entry gave for a name, and is empty before. -/
structure Tracks (field : Declaration → String) (name : String) : Prop where
  empty : field {} = ""
  given : ∀ {d : Declaration} {s v : String}, Gives s name v → field (d.add s) = v
  kept : ∀ {d : Declaration} {s : String}, (∀ v, ¬ Gives s name v) → field (d.add s) = field d

theorem host_tracks : Tracks host hostName where
  empty := rfl
  given h := by
    rw [add, entry?_eq_some_iff.2 h]
    rfl
  kept {d s} h := by
    unfold add
    split
    · rfl
    · rename_i n value he
      have hn : n ≠ hostName := by
        rintro rfl
        exact h value (entry?_eq_some_iff.1 he)
      rw [if_neg hn]
      split <;> rfl

theorem port_tracks : Tracks port portName where
  empty := rfl
  given h := by
    rw [add, entry?_eq_some_iff.2 h]
    rfl
  kept {d s} h := by
    unfold add
    split
    · rfl
    · rename_i n value he
      have hn : n ≠ portName := by
        rintro rfl
        exact h value (entry?_eq_some_iff.1 he)
      rw [if_neg hn]
      split <;> rfl

/-- **A field holds a value just when the environment declares it**, and is empty otherwise. -/
theorem Tracks.declares_iff {field : Declaration → String} (t : Tracks field name) :
    Declares entries name v ↔ field (ofEntries entries) = v ∧ v ≠ "" := by
  induction entries using List.reverseRecOn with
  | nil =>
    refine iff_of_false not_declares_nil ?_
    rintro ⟨rfl, hv⟩
    exact hv t.empty
  | append_singleton entries s ih =>
    have hadd : ofEntries (entries ++ [s]) = (ofEntries entries).add s := by
      simp [ofEntries, addAll]
    rw [hadd]
    by_cases hs : ∃ w, Gives s name w
    · obtain ⟨w, hw⟩ := hs
      rw [declares_concat_of_gives hw, t.given hw]
      constructor
      · rintro rfl
        exact ⟨rfl, hw.ne_empty⟩
      · exact fun h => h.1.symm
    · rw [not_exists] at hs
      rw [declares_concat_of_not hs, t.kept hs, ih]

/-- It is empty just when no entry gives a value. -/
theorem Tracks.eq_empty_iff {field : Declaration → String} (t : Tracks field name) :
    field (ofEntries entries) = "" ↔ ∀ v, ¬ Declares entries name v := by
  constructor
  · intro h v hv
    obtain ⟨hfield, hne⟩ := t.declares_iff.1 hv
    exact hne (hfield ▸ h)
  · intro h
    by_contra hne
    exact h _ (t.declares_iff.2 ⟨rfl, hne⟩)

/-- An environment declares one value for a name. -/
theorem Tracks.unique {field : Declaration → String} (t : Tracks field name)
    (h : Declares entries name v) (h' : Declares entries name w) : v = w :=
  (t.declares_iff.1 h).1.symm.trans (t.declares_iff.1 h').1

end Declaration

end HostRouting
