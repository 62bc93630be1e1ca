import HostRouting.Container
import Mathlib.Data.List.Basic

/-!
# Shapes of JSON values, with and without gaps

What a report of the daemon is made of is told by its shape: texts, lists, objects with any keys, and
objects with certain fields. The value under a key may be missing or `null` where one of the shape is
meant; this is a gap. Filling puts the empty value of the shape into every gap and changes nothing
else, so that nothing is missing afterwards.
-/

namespace HostRouting.Json

/-! ## Values under a key -/

/-- The value under a key, `null` if there is none. -/
def valueAt (v : Json) (key : String) : Json :=
  match v with
  | obj fields => lookup key fields
  | _ => null

/-- The value with another one under a key. -/
def withValue (v : Json) (key : String) (value : Json) : Json :=
  match v with
  | obj fields => obj (setField key value fields)
  | v => v

/-- The fields of an object; another value has none. -/
def members : Json → List (String × Json)
  | obj fields => fields
  | _ => []

/-- The items of a list; another value has none. -/
def elements : Json → List Json
  | arr items => items
  | _ => []

/-- The value is an object. -/
def IsObject (v : Json) : Prop := ∃ fields, v = obj fields

variable {v w x : Json} {k l key : String} {fields : List (String × Json)}

theorem lookup_cons (f : String × Json) :
    lookup k (f :: fields) = if f.1 = k then f.2 else lookup k fields := by
  by_cases h : f.1 = k <;> simp [lookup, h]

theorem lookup_setField_self (key : String) (value : Json) (fields : List (String × Json)) :
    lookup key (setField key value fields) = value := by
  induction fields with
  | nil => rw [setField, lookup_cons, if_pos rfl]
  | cons f fields ih =>
    rw [setField]
    by_cases hf : f.1 = key
    · rw [if_pos hf, lookup_cons, if_pos rfl]
    · rw [if_neg hf, lookup_cons, if_neg hf, ih]

theorem lookup_setField_ne (h : k ≠ key) (value : Json) (fields : List (String × Json)) :
    lookup k (setField key value fields) = lookup k fields := by
  induction fields with
  | nil => rw [setField, lookup_cons, if_neg (Ne.symm h)]
  | cons f fields ih =>
    rw [setField, lookup_cons]
    by_cases hf : f.1 = key
    · rw [if_pos hf, lookup_cons, if_neg (Ne.symm h), if_neg (hf ▸ Ne.symm h)]
    · rw [if_neg hf, lookup_cons, ih]

/-- A value that is set once more where it is changes nothing. -/
theorem setField_lookup (h : lookup key fields ≠ null) :
    setField key (lookup key fields) fields = fields := by
  induction fields with
  | nil => exact absurd rfl h
  | cons f fields ih =>
    rw [lookup_cons] at h ⊢
    by_cases hf : f.1 = key
    · rw [if_pos hf, setField, if_pos hf, ← hf]
    · rw [if_neg hf] at h ⊢
      rw [setField, if_neg hf, ih h]

theorem valueAt_withValue_self (h : IsObject v) (k : String) (x : Json) :
    (v.withValue k x).valueAt k = x := by
  obtain ⟨fields, rfl⟩ := h
  exact lookup_setField_self k x fields

theorem valueAt_withValue_ne (h : l ≠ k) (v x : Json) :
    (v.withValue k x).valueAt l = v.valueAt l := by
  cases v with
  | obj fields => exact lookup_setField_ne h x fields
  | _ => rfl

theorem withValue_valueAt (h : v.valueAt k ≠ null) : v.withValue k (v.valueAt k) = v := by
  cases v with
  | obj fields =>
    rw [valueAt] at h ⊢
    rw [withValue, setField_lookup h]
  | _ => rfl

theorem IsObject.withValue (h : IsObject v) (k : String) (x : Json) : IsObject (v.withValue k x) := by
  obtain ⟨fields, rfl⟩ := h
  exact ⟨_, rfl⟩

/-! ## Shapes -/

/-- What a value is made of. -/
inductive Shape where
  /-- A text. -/
  | text
  /-- A list of values of a shape. -/
  | list (item : Shape)
  /-- An object with values of a shape under any keys. -/
  | mapping (value : Shape)
  /-- An object. -/
  | object
  /-- An object as `rest` says, and with a value of a shape under a key. -/
  | field (key : String) (value rest : Shape)

namespace Shape

variable {s t : Shape} {gap : Json → Prop}

/-- The value has the shape, but for values under keys which are gaps. -/
def Fits (gap : Json → Prop) : Shape → Json → Prop
  | text, str _ => True
  | list item, arr items => ∀ v ∈ items, Fits gap item v
  | mapping value, obj fields => ∀ f ∈ fields, gap f.2 ∨ Fits gap value f.2
  | object, obj _ => True
  | field key value rest, v => Fits gap rest v ∧
      (gap (v.valueAt key) ∨ Fits gap value (v.valueAt key))
  | _, _ => False

/-- The value has the shape, but values under keys may be missing or `null`. -/
abbrev FitsLoosely : Shape → Json → Prop := Fits (· = null)

/-- The value has the shape, and nothing is missing. -/
abbrev FitsWholly : Shape → Json → Prop := Fits fun _ => False

/-- The value with the empty value of its shape in the place of every gap. -/
def fill : Shape → Json → Json
  | text, null => str ""
  | list _, null => arr []
  | list item, arr items => arr (items.map (fill item))
  | mapping _, null => obj []
  | mapping value, obj fields => obj (fields.map fun f => (f.1, fill value f.2))
  | object, null => obj []
  | field key value rest, v => (fill rest v).withValue key (fill value (v.valueAt key))
  | _, v => v

/-- The shape of the value under a key. -/
def at? (key : String) : Shape → Option Shape
  | field k value rest => if k = key then some value else at? key rest
  | _ => none

/-- The shape is that of an object with certain fields, or none. -/
def IsRecord : Shape → Prop
  | object | field .. => True
  | _ => False

/-- The shape is that of an object. -/
def HasKeys : Shape → Prop
  | object | field .. | mapping _ => True
  | _ => False

/-- Fields are those of objects, and a key has one shape. -/
def IsProper : Shape → Prop
  | text | object => True
  | list item => IsProper item
  | mapping value => IsProper value
  | field key value rest =>
    IsProper value ∧ IsProper rest ∧ IsRecord rest ∧ rest.at? key = none

theorem IsProper.at? (hs : IsProper s) (hkey : s.at? k = some t) : IsProper t := by
  induction s with
  | field key value rest _ ih =>
    obtain ⟨hvalue, hrest, -⟩ := hs
    rw [Shape.at?] at hkey
    split at hkey
    · obtain rfl := Option.some.inj hkey
      exact hvalue
    · exact ih hrest hkey
  | _ => cases hkey

/-! ## Values that have a shape -/

theorem fits_text_iff : Fits gap text v ↔ ∃ t, v = str t := by
  cases v <;> simp [Fits]

theorem fits_list_iff :
    Fits gap (list s) v ↔ ∃ items, v = arr items ∧ ∀ i ∈ items, Fits gap s i := by
  cases v <;> simp [Fits]

theorem fits_mapping_iff : Fits gap (mapping s) v ↔
    ∃ fields, v = obj fields ∧ ∀ f ∈ fields, gap f.2 ∨ Fits gap s f.2 := by
  cases v <;> simp [Fits]

theorem fits_object_iff : Fits gap object v ↔ IsObject v := by
  cases v <;> simp [Fits, IsObject]

/-- A gap has no shape. -/
theorem not_fits_null : ¬ Fits gap s null := by
  induction s with
  | field key value rest _ ih => exact fun h => ih h.1
  | _ => exact id

theorem IsRecord.hasKeys (h : IsRecord s) : HasKeys s := by
  cases s with
  | object | field _ _ _ => exact trivial
  | _ => exact h.elim

theorem Fits.isObject (h : Fits gap s v) (hs : IsProper s) (hkeys : HasKeys s) : IsObject v := by
  induction s with
  | object => exact fits_object_iff.1 h
  | mapping value =>
    obtain ⟨fields, rfl, -⟩ := fits_mapping_iff.1 h
    exact ⟨fields, rfl⟩
  | field key value rest _ ih => exact ih h.1 hs.2.1 hs.2.2.1.hasKeys
  | _ => exact hkeys.elim

/-- Where gaps are not allowed, there are none where they are. -/
theorem FitsWholly.loosely (h : FitsWholly s v) : FitsLoosely s v := by
  induction s generalizing v with
  | list item ih =>
    obtain ⟨items, rfl, hitems⟩ := fits_list_iff.1 h
    exact fun i hi => ih (hitems i hi)
  | mapping value ih =>
    obtain ⟨fields, rfl, hfields⟩ := fits_mapping_iff.1 h
    exact fun f hf => .inr (ih ((hfields f hf).resolve_left id))
  | field key value rest ihvalue ihrest => exact ⟨ihrest h.1, .inr (ihvalue (h.2.resolve_left id))⟩
  | text => exact fits_text_iff.2 (fits_text_iff.1 h)
  | object => exact fits_object_iff.2 (fits_object_iff.1 h)

/-- What an object says beyond its shape does not matter. -/
theorem Fits.withValue (h : Fits gap s v) (hs : IsProper s) (hrecord : IsRecord s)
    (hkey : s.at? k = none) (x : Json) : Fits gap s (v.withValue k x) := by
  induction s with
  | object =>
    obtain ⟨fields, rfl⟩ := fits_object_iff.1 h
    exact trivial
  | field key value rest _ ih =>
    rw [at?] at hkey
    split at hkey
    · cases hkey
    · rename_i hne
      refine ⟨ih h.1 hs.2.1 hs.2.2.1 hkey, ?_⟩
      rw [valueAt_withValue_ne hne]
      exact h.2
  | _ => exact hrecord.elim

/-! ## Filling -/

/-- The value has the shape, or it is a gap. -/
def Passes (s : Shape) (v : Json) : Prop := v = null ∨ FitsLoosely s v

theorem Passes.rest {value rest : Shape} (h : Passes (field key value rest) v) : Passes rest v :=
  h.imp_right And.left

theorem Passes.value {value rest : Shape} (h : Passes (field key value rest) v) :
    Passes value (v.valueAt key) := by
  rcases h with rfl | h
  · exact .inl rfl
  · exact h.2

/-- The value under a key has its own shape, or it is a gap. -/
theorem Passes.valueAt (h : Passes s v) (hkey : s.at? k = some t) : Passes t (v.valueAt k) := by
  induction s with
  | field key value others _ ih =>
    rw [at?] at hkey
    by_cases hk : key = k
    · rw [if_pos hk] at hkey
      obtain rfl := Option.some.inj hkey
      exact hk ▸ h.value
    · rw [if_neg hk] at hkey
      exact ih h.rest hkey
  | _ => cases hkey

theorem Passes.null_or_isObject (h : Passes s v) (hs : IsProper s) (hkeys : HasKeys s) :
    v = null ∨ IsObject v :=
  h.imp_right fun hv => hv.isObject hs hkeys

/-- An object without fields has only gaps. -/
theorem fitsLoosely_obj_nil (hs : IsProper s) (hkeys : HasKeys s) : FitsLoosely s (obj []) := by
  induction s with
  | object => exact trivial
  | mapping value => exact fun f hf => absurd hf List.not_mem_nil
  | field key value rest _ ih => exact ⟨ih hs.2.1 hs.2.2.1.hasKeys, .inl rfl⟩
  | _ => exact hkeys.elim

theorem fill_obj_nil (hs : IsProper s) (hkeys : HasKeys s) : fill s (obj []) = fill s null := by
  induction s with
  | object | mapping _ => rfl
  | field key value rest _ ih => rw [fill, ih hs.2.1 hs.2.2.1.hasKeys]; rfl
  | _ => exact hkeys.elim

/-- The empty object may stand in the place of a gap. -/
theorem Passes.obj_members (h : Passes s v) (hs : IsProper s) (hkeys : HasKeys s) :
    FitsLoosely s (obj v.members) ∧ fill s (obj v.members) = fill s v := by
  rcases h with rfl | h
  · exact ⟨fitsLoosely_obj_nil hs hkeys, fill_obj_nil hs hkeys⟩
  · obtain ⟨fields, rfl⟩ := h.isObject hs hkeys
    exact ⟨h, rfl⟩

/-- **Nothing is missing after filling.** -/
theorem Passes.fill_fits (h : Passes s v) (hs : IsProper s) : FitsWholly s (fill s v) := by
  induction s generalizing v with
  | text =>
    rcases h with rfl | h
    · exact trivial
    · obtain ⟨t, rfl⟩ := fits_text_iff.1 h
      exact trivial
  | list item ih =>
    rcases h with rfl | h
    · exact fun i hi => absurd hi List.not_mem_nil
    · obtain ⟨items, rfl, hitems⟩ := fits_list_iff.1 h
      intro x hx
      obtain ⟨i, hi, rfl⟩ := List.mem_map.1 hx
      exact ih (.inr (hitems i hi)) hs
  | mapping value ih =>
    rcases h with rfl | h
    · exact fun f hf => absurd hf List.not_mem_nil
    · obtain ⟨fields, rfl, hfields⟩ := fits_mapping_iff.1 h
      intro x hx
      obtain ⟨f, hf, rfl⟩ := List.mem_map.1 hx
      exact .inr (ih (hfields f hf) hs)
  | object =>
    rcases h with rfl | h
    · exact trivial
    · obtain ⟨fields, rfl⟩ := fits_object_iff.1 h
      exact trivial
  | field key value rest ihvalue ihrest =>
    obtain ⟨hvalue, hrest, hrecord, hkey⟩ := hs
    have hfilled : FitsWholly rest (fill rest v) := ihrest h.rest hrest
    refine ⟨hfilled.withValue hrest hrecord hkey _, .inr ?_⟩
    rw [fill, valueAt_withValue_self (hfilled.isObject hrest hrecord.hasKeys)]
    exact ihvalue h.value hvalue

/-- Where nothing is missing, there is nothing to fill. -/
theorem fill_eq_self (h : FitsWholly s v) : fill s v = v := by
  induction s generalizing v with
  | text =>
    obtain ⟨t, rfl⟩ := fits_text_iff.1 h
    rfl
  | list item ih =>
    obtain ⟨items, rfl, hitems⟩ := fits_list_iff.1 h
    rw [fill, List.map_congr_left fun i hi => ih (hitems i hi), List.map_id']
  | mapping value ih =>
    obtain ⟨fields, rfl, hfields⟩ := fits_mapping_iff.1 h
    have hsame : ∀ f ∈ fields, (f.1, fill value f.2) = f := by
      intro f hf
      rw [ih ((hfields f hf).resolve_left id)]
    rw [fill, List.map_congr_left hsame, List.map_id']
  | object =>
    obtain ⟨fields, rfl⟩ := fits_object_iff.1 h
    rfl
  | field key value rest ihvalue ihrest =>
    have hvalue : FitsWholly value (v.valueAt key) := h.2.resolve_left id
    rw [fill, ihrest h.1, ihvalue hvalue]
    apply withValue_valueAt
    intro hnull
    exact not_fits_null (hnull ▸ hvalue)

/-- The value under a key is filled by its own shape. -/
theorem Passes.valueAt_fill (h : Passes s v) (hs : IsProper s) (hkey : s.at? k = some t) :
    (fill s v).valueAt k = fill t (v.valueAt k) := by
  induction s with
  | field key value others _ ih =>
    obtain ⟨-, hothers, hrecord, -⟩ := hs
    rw [at?] at hkey
    rw [fill]
    by_cases hk : key = k
    · subst hk
      rw [if_pos rfl] at hkey
      obtain rfl := Option.some.inj hkey
      exact valueAt_withValue_self ((h.rest.fill_fits hothers).isObject hothers hrecord.hasKeys) _ _
    · rw [if_neg hk] at hkey
      rw [valueAt_withValue_ne (Ne.symm hk), ih h.rest hothers hkey]
  | _ => cases hkey

/-- The values of an object are filled each by itself. -/
theorem members_fill (s : Shape) (v : Json) :
    (fill (mapping s) v).members = v.members.map fun f => (f.1, fill s f.2) := by
  cases v <;> rfl

/-- The items of a list are filled each by itself. -/
theorem elements_fill (s : Shape) (v : Json) :
    (fill (list s) v).elements = v.elements.map (fill s) := by
  cases v <;> rfl

end Shape

end HostRouting.Json
