import HostRouting.Proofs.Sorting
import HostRouting.Table
import Mathlib.Data.List.Perm.Subperm
import Mathlib.Data.String.Basic

/-!
# The rendering of a table as its canonical form

Two tables are equal as mappings if they hold the same entries in whatever order. The rendering puts
the entries in the order of their keys, so it is the same for just those tables. No key comes twice in
a table, so that the routes need not be compared for it.
-/

namespace HostRouting

/-- The code points of a text. -/
def Text.codePoints (s : String) : List Nat := s.toList.map Char.toNat

/-- Texts are ordered by their code points. -/
theorem Text.codePoints_lt_iff {a b : String} : codePoints a < codePoints b ↔ a < b := by
  have hmono {a b : String} (h : a < b) : codePoints a < codePoints b := by
    rw [String.lt_iff_toList_lt] at h
    exact List.map_lt (fun x y hxy => hxy) h
  refine ⟨fun h => ?_, hmono⟩
  rcases lt_trichotomy a b with hab | rfl | hba
  · exact hab
  · exact absurd h (lt_irrefl _)
  · exact absurd h (lt_asymm (hmono hba))

/-- A route can be read off its rendering. -/
theorem Route.toJson_injective : Function.Injective Route.toJson := by
  rintro ⟨host, ip, port, name⟩ ⟨host', ip', port', name'⟩ h
  simpa [Route.toJson, and_assoc] using h

namespace Table

variable {t u : Table} {k : String} {r : Route}

/-! ## Entries -/

/-- The entries of a table are the routes that it gives for its keys. -/
theorem get?_eq_some_iff : t.get? k = some r ↔ (k, r) ∈ t.entries := by
  unfold get?
  rw [List.lookup_eq_some_iff]
  constructor
  · rintro ⟨before, after, h, -⟩
    simp [h]
  · intro h
    obtain ⟨before, after, hl⟩ := List.append_of_mem h
    refine ⟨before, after, hl, fun e he => ?_⟩
    -- the key does not come twice
    have hnodup := t.nodup
    rw [hl, List.map_append, List.map_cons, List.nodup_append] at hnodup
    have hne := hnodup.2.2 e.1 (List.mem_map_of_mem he) k (by simp)
    simpa using Ne.symm hne

/-- No entry comes twice. -/
theorem nodup_entries (t : Table) : t.entries.Nodup := t.nodup.of_map

/-- Tables with the same entries in whatever order give the same routes, and the other way round. -/
theorem perm_iff_get? : t.entries.Perm u.entries ↔ ∀ k, t.get? k = u.get? k := by
  rw [List.perm_ext_iff_of_nodup t.nodup_entries u.nodup_entries]
  constructor
  · intro h k
    apply Option.ext
    intro r
    rw [get?_eq_some_iff, get?_eq_some_iff, h]
  · rintro h ⟨k, r⟩
    rw [← get?_eq_some_iff, ← get?_eq_some_iff, h]

/-- Equality as mappings is that of the entries in whatever order. -/
theorem same_iff_perm : t.same u = true ↔ t.entries.Perm u.entries := by
  unfold same size
  rw [Bool.and_eq_true, beq_iff_eq, List.all_eq_true]
  constructor
  · rintro ⟨hlength, h⟩
    have hsubset : t.entries ⊆ u.entries := by
      rintro ⟨k, r⟩ he
      exact get?_eq_some_iff.1 (by simpa using h (k, r) he)
    exact (List.subperm_of_subset t.nodup_entries hsubset).perm_of_length_le hlength.ge
  · intro h
    refine ⟨h.length_eq, ?_⟩
    rintro ⟨k, r⟩ he
    simpa using get?_eq_some_iff.2 (h.mem_iff.1 he)

/-! ## The order of the keys -/

/-- Sorting keeps the entries. -/
theorem sorted_perm (t : Table) : t.sorted.Perm t.entries := List.mergeSort_perm _ _

/-- The keys of the sorted entries increase. -/
theorem pairwise_sorted (t : Table) : t.sorted.Pairwise fun a b => a.1 < b.1 := by
  have hnodup : (t.sorted.map Prod.fst).Nodup := (t.sorted_perm.map Prod.fst).nodup_iff.2 t.nodup
  refine Sorter.pairwise_lt_of_nodup hnodup ?_
  have h : t.sorted.Pairwise fun a b => decide (a.1 ≤ b.1) = true :=
    List.pairwise_mergeSort
      (fun a b c hab hbc => by simpa using le_trans (by simpa using hab) (by simpa using hbc))
      (fun a b => by simpa using le_total a.1 b.1) t.entries
  exact h.imp fun hab => by simpa using hab

/-- The entries have one order in which the keys increase. -/
theorem eq_sorted {l : List (String × Route)} (hperm : l.Perm t.entries)
    (h : l.Pairwise fun a b => a.1 < b.1) : l = t.sorted := by
  refine (hperm.trans t.sorted_perm.symm).eq_of_pairwise (fun a b _ _ hab hba => ?_) h t.pairwise_sorted
  exact absurd hab (lt_asymm hba)

/-- The sorted entries are the same for just those tables that are equal as mappings. -/
theorem sorted_eq_iff_perm : t.sorted = u.sorted ↔ t.entries.Perm u.entries := by
  constructor
  · intro h
    exact t.sorted_perm.symm.trans (h ▸ u.sorted_perm)
  · intro h
    exact eq_sorted (t.sorted_perm.trans h) t.pairwise_sorted

/-! ## The rendering -/

/-- The sorted entries can be read off a rendering. -/
theorem toJson_eq_iff_sorted : t.toJson = u.toJson ↔ t.sorted = u.sorted := by
  have hrow : Function.Injective fun e : String × Route => (e.1, e.2.toJson) := by
    rintro ⟨k, r⟩ ⟨k', r'⟩ h
    simpa [Route.toJson_injective.eq_iff] using h
  unfold toJson
  rw [Json.obj.injEq, (List.map_injective_iff.2 hrow).eq_iff]

/-- **Tables are equal as mappings if and only if their renderings are the same.** -/
theorem same_iff_toJson : t.same u = true ↔ t.toJson = u.toJson := by
  rw [same_iff_perm, toJson_eq_iff_sorted, sorted_eq_iff_perm]

/-! ## Sorting pairs -/

/-- How pairs of a key and a route are compared: by their keys, and if these are the same by their
routes, for which there is a comparison of its own. -/
def before (compare : Route → Route → Except Fault Bool) (a b : String × Route) :
    Except Fault Bool :=
  if a.1 = b.1 then compare a.2 b.2 else .ok (decide (a.1 < b.1))

/-- The rendering where the entries are sorted as pairs. -/
def rendered (s : Sorter (String × Route)) (compare : Route → Route → Except Fault Bool)
    (t : Table) : Except Fault Json := do
  let entries ← (s.inquiry t.entries).run (before compare)
  return .obj (entries.map fun e => (e.1, e.2.toJson))

/-- However the entries are sorted, no two routes are compared. -/
theorem rendered_eq (s : Sorter (String × Route)) (compare : Route → Route → Except Fault Bool)
    (t : Table) : t.rendered s compare = .ok t.toJson := by
  have hbefore (a b : String × Route) (h : a.1 ≠ b.1) :
      before compare a b = Inquiry.byKey Prod.fst a b := by
    rw [before, if_neg h, Inquiry.byKey]
  obtain ⟨l, hl, hperm, hlt⟩ := s.exists_run_eq_ok t.nodup hbefore
  unfold rendered toJson
  rw [hl, ← eq_sorted hperm hlt]
  rfl

/-- **The rendering of a table is its canonical form.** It has a row for each key, with the route under
it, and the code points of the keys increase from row to row. It is the same if the entries are sorted as
pairs, in whatever way and whatever comes of comparing routes: none are compared. Two tables are equal
as mappings if and only if their renderings are the same row by row. -/
theorem toJson_canonical (t u : Table) :
    (∃ rows, t.toJson = .obj rows ∧ (rows.map Prod.fst).Perm t.keys ∧
      (rows.Pairwise fun a b => Text.codePoints a.1 < Text.codePoints b.1) ∧
      ∀ key value, (key, value) ∈ rows ↔ ∃ r, t.get? key = some r ∧ value = r.toJson) ∧
    (∀ s compare, t.rendered s compare = .ok t.toJson) ∧
    (t.same u = true ↔ t.toJson = u.toJson) := by
  refine ⟨⟨_, rfl, ?_, ?_, fun key value => ?_⟩, fun s compare => rendered_eq s compare t,
    same_iff_toJson⟩
  · rw [List.map_map]
    exact t.sorted_perm.map Prod.fst
  · rw [List.pairwise_map]
    exact t.pairwise_sorted.imp fun h => Text.codePoints_lt_iff.2 h
  · rw [List.mem_map]
    constructor
    · rintro ⟨⟨k, r⟩, he, hrow⟩
      cases hrow
      exact ⟨r, get?_eq_some_iff.2 (t.sorted_perm.mem_iff.1 he), rfl⟩
    · rintro ⟨r, hr, rfl⟩
      exact ⟨(key, r), t.sorted_perm.mem_iff.2 (get?_eq_some_iff.1 hr), rfl⟩

/-- Upper case comes first, and the keys need not be the hosts of the routes. -/
example (r r' : Route) :
    (ofMapping [("b", r), ("a", r'), ("B", r)]).toJson =
      .obj [("B", r.toJson), ("a", r'.toJson), ("b", r.toJson)] := by
  cbv

end Table

end HostRouting
