import HostRouting.Proofs.Enumeration
import HostRouting.Proofs.Routing
import Mathlib.Data.List.Induction

/-!
# Which container a host goes to

A listing names containers, and each inspection comes to a container or to a failure. Of the
containers that were inspected and have a route, the first with a host gets it, and each of the
others is reported. The table holds the first ones in the order of the listing.
-/

namespace HostRouting

open Act (Spec Keeps failing never)

/-! ## The first with a key, and the others -/

section

variable {α κ : Type}

/-- The elements of a list of which `p` holds, given those before them. -/
def chosen (p : List α → α → Bool) (l : List α) : List α :=
  (l.zipIdx.filter fun e => p (l.take e.2) e.1).map Prod.fst

/-- One more element at the end does not change which of the others are chosen. -/
theorem chosen_concat (p : List α → α → Bool) (l : List α) (x : α) :
    chosen p (l ++ [x]) = chosen p l ++ if p l x then [x] else [] := by
  have hold : l.zipIdx.filter (fun e => p ((l ++ [x]).take e.2) e.1) =
      l.zipIdx.filter fun e => p (l.take e.2) e.1 := by
    apply List.filter_congr
    intro e he
    have hlt := List.snd_lt_of_mem_zipIdx he
    rw [List.take_append_of_le_length (by omega)]
  unfold chosen
  rw [List.zipIdx_append, List.filter_append, List.map_append, hold]
  congr 1
  by_cases hx : p l x <;> simp [hx]

variable [DecidableEq κ] (key : α → κ)

/-- The elements whose key none of those before them has. -/
def firsts : List α → List α := chosen fun before x => key x ∉ before.map key

/-- The elements whose key one of those before them has. -/
def repeats : List α → List α := chosen fun before x => key x ∈ before.map key

variable {l : List α} {x : α}

/-- A new key at the end. -/
theorem firsts_concat_of_not_mem (h : key x ∉ l.map key) :
    firsts key (l ++ [x]) = firsts key l ++ [x] := by
  rw [firsts, chosen_concat, if_pos (by simpa using h)]

/-- A key that was there before. -/
theorem firsts_concat_of_mem (h : key x ∈ l.map key) : firsts key (l ++ [x]) = firsts key l := by
  rw [firsts, chosen_concat, if_neg (by simpa using h), List.append_nil]

/-- A new key at the end repeats nothing. -/
theorem repeats_concat_of_not_mem (h : key x ∉ l.map key) :
    repeats key (l ++ [x]) = repeats key l := by
  rw [repeats, chosen_concat, if_neg (by simpa using h), List.append_nil]

/-- A key that was there before is repeated. -/
theorem repeats_concat_of_mem (h : key x ∈ l.map key) :
    repeats key (l ++ [x]) = repeats key l ++ [x] := by
  rw [repeats, chosen_concat, if_pos (by simpa using h)]

variable {key}

/-- Every key has a first element. -/
theorem mem_map_firsts {k : κ} : k ∈ (firsts key l).map key ↔ k ∈ l.map key := by
  induction l using List.reverseRecOn with
  | nil => simp [firsts, chosen]
  | append_singleton l x ih =>
    by_cases hx : key x ∈ l.map key
    · rw [firsts_concat_of_mem key hx, ih, List.map_append, List.mem_append]
      constructor
      · exact .inl
      · rintro (h | h)
        · exact h
        · rw [List.map_singleton, List.mem_singleton] at h
          exact h ▸ hx
    · rw [firsts_concat_of_not_mem key hx, List.map_append, List.map_append, List.mem_append,
        List.mem_append, ih]

/-- The first ones are the first among themselves. -/
theorem firsts_firsts : firsts key (firsts key l) = firsts key l := by
  induction l using List.reverseRecOn with
  | nil => rfl
  | append_singleton l x ih =>
    by_cases hx : key x ∈ l.map key
    · rw [firsts_concat_of_mem key hx, ih]
    · rw [firsts_concat_of_not_mem key hx, firsts_concat_of_not_mem key (by rwa [mem_map_firsts]), ih]

/-- The first ones are elements of the list. -/
theorem mem_of_mem_firsts (h : x ∈ firsts key l) : x ∈ l := by
  unfold firsts chosen at h
  obtain ⟨e, he, rfl⟩ := List.mem_map.1 h
  exact (List.mem_zipIdx (List.mem_filter.1 he).1).2.2 ▸ List.getElem_mem _

/-- The first ones by a key that is computed from another value. -/
theorem firsts_map {β : Type} (key : α → κ) (f : β → α) (m : List β) :
    firsts key (m.map f) = (firsts (fun b => key (f b)) m).map f := by
  induction m using List.reverseRecOn with
  | nil => rfl
  | append_singleton m b ih =>
    rw [List.map_append, List.map_singleton]
    by_cases hb : key (f b) ∈ (m.map f).map key
    · rw [firsts_concat_of_mem key hb, ih,
        firsts_concat_of_mem (fun b => key (f b)) (by simpa using hb)]
    · rw [firsts_concat_of_not_mem key hb, ih,
        firsts_concat_of_not_mem (fun b => key (f b)) (by simpa using hb), List.map_append]
      rfl

end

/-! ## Tables -/

namespace Table

/-- Tables with the same entries are the same. -/
theorem eq_of_entries {t u : Table} (h : t.entries = u.entries) : t = u := by
  cases t
  cases u
  congr

/-- A new entry is put at the end, unless its key is there. -/
theorem entries_insertNew (t : Table) (key : String) (r : Route) :
    (t.insertNew key r).entries =
      if key ∈ t.keys then t.entries else t.entries ++ [(key, r)] := by
  unfold insertNew
  split
  · rename_i h
    rw [if_pos (by exact h)]
  · rename_i h
    rw [if_neg (by exact h)]

/-- **A table of routes holds the first valid route of each host, under that host and in the order
of the routes.** -/
theorem entries_ofRoutes (rs : List Route) :
    (ofRoutes rs).entries =
      (firsts Route.host (rs.filter Route.isValid)).map fun r => (r.host, r) := by
  induction rs using List.reverseRecOn with
  | nil => rfl
  | append_singleton rs r ih =>
    have hkeys : r.host ∈ (ofRoutes rs).keys ↔
        r.host ∈ (rs.filter Route.isValid).map Route.host := by
      rw [keys, ih, List.map_map]
      exact mem_map_firsts
    have hstep : ofRoutes (rs ++ [r]) = (ofRoutes rs).accept r := List.foldl_append
    rw [hstep, accept, List.filter_append]
    by_cases hr : r.isValid
    · rw [if_pos hr, List.filter_cons_of_pos hr, List.filter_nil, entries_insertNew]
      by_cases hk : r.host ∈ (rs.filter Route.isValid).map Route.host
      · rw [if_pos (hkeys.2 hk), firsts_concat_of_mem Route.host hk, ih]
      · rw [if_neg (mt hkeys.1 hk), firsts_concat_of_not_mem Route.host hk, ih, List.map_append]
        rfl
    · rw [if_neg hr, List.filter_cons_of_neg hr, List.filter_nil, List.append_nil, ih]

/-- Leaving out all but the first valid routes of the hosts changes nothing. -/
theorem ofRoutes_firsts {rs : List Route} (h : ∀ r ∈ rs, r.isValid = true) :
    ofRoutes (firsts Route.host rs) = ofRoutes rs := by
  have hfirsts : ∀ r ∈ firsts Route.host rs, r.isValid = true := fun r hr => h r (mem_of_mem_firsts hr)
  apply eq_of_entries
  rw [entries_ofRoutes, entries_ofRoutes, List.filter_eq_self.2 h, List.filter_eq_self.2 hfirsts,
    firsts_firsts]

end Table

/-! ## Containers and their routes -/

/-- A computation that gave a value did so in both of its parts. -/
theorem bind_eq_ok {α β : Type} {r : Except Fault α} {next : α → Except Fault β} {b : β}
    (h : (r >>= next) = .ok b) : ∃ a, r = .ok a ∧ next a = .ok b := by
  cases r with
  | ok a => exact ⟨a, rfl, h⟩
  | error f => cases h

/-- A text can be shortened. -/
theorem Json.short_of_isText {v : Json} (h : Container.IsText v) : ∃ short, v.short = .ok short := by
  obtain ⟨s, rfl⟩ := h
  exact ⟨_, rfl⟩

namespace Container

/-- The route of a container, if it has one. -/
def route? (ports : List String) (c : Container) : Option Route :=
  match c.resolve ports with
  | .ok r => r.route?
  | .error _ => none

variable {ports : List String} {c : Container} {r : Route}

/-- The route to which a container is resolved is valid. -/
theorem isValid_of_resolve (h : c.resolve ports = .ok (.routed r)) : r.isValid = true := by
  obtain ⟨declared, -, h⟩ := bind_eq_ok h
  dsimp only at h
  split at h
  · cases h
  · obtain ⟨⟨ip, port⟩, -, h⟩ := bind_eq_ok h
    dsimp only at h
    split_ifs at h with hip hvalid
    · cases h
    · cases h
      exact hvalid
    · cases h

/-- A route that a container has is valid. -/
theorem isValid_of_route? (h : c.route? ports = some r) : r.isValid = true := by
  unfold route? at h
  split at h
  · rename_i resolution hr
    cases resolution with
    | routed route =>
      cases h
      exact isValid_of_resolve hr
    | _ => cases h
  · cases h

end Container

namespace Host

variable {ports : List String} {c : Container} {r : Route} {o : Option Route}

/-- The resolution of a plain container can be reported. -/
theorem resolved_of_isPlain (hc : c.IsPlain) (ports : List String) :
    ∃ o, resolved ports c = .ok o := by
  obtain ⟨resolution, hr, -⟩ := hc.resolve_verdict ports
  obtain ⟨short, hs⟩ := Json.short_of_isText hc.id
  unfold resolved Resolution.entry? Container.shortId
  rw [hr, hs]
  cases resolution <;> exact ⟨_, rfl⟩

/-- What is reported about a container is its route. -/
theorem route?_of_resolved (h : resolved ports c = .ok o) : c.route? ports = o := by
  obtain ⟨resolution, hr, h⟩ := bind_eq_ok h
  obtain ⟨e, -, h⟩ := bind_eq_ok h
  cases h
  rw [Container.route?, hr]

/-- A container whose route was reported can be reported as a rival. -/
theorem rivalEntry_of_resolved (h : resolved ports c = .ok (some r)) (host : String) :
    ∃ e, rivalEntry host c = .ok e := by
  obtain ⟨resolution, -, h⟩ := bind_eq_ok h
  obtain ⟨e, he, h⟩ := bind_eq_ok h
  cases resolution with
  | routed route =>
    obtain ⟨short, hs, -⟩ := bind_eq_ok he
    exact ⟨_, by rw [rivalEntry, hs]; rfl⟩
  | _ => cases h

/-- Reporting a resolution fails in ordinary ways only. -/
theorem resolved_ordinary (ports : List String) (c : Container) : Ordinary (resolved ports c) := by
  refine .bind (Container.resolve_ordinary ports c) fun resolution => ?_
  exact .bind (Resolution.entry_ordinary resolution c) fun _ => .ok _

end Host
end HostRouting
