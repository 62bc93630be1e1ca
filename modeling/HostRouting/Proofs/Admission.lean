import HostRouting.Proofs.Precedence

/-!
# Admitting routes to a table

What a table of routes holds can be said of its hosts and of single lookups, without going through
the routes one after the other. From this follow the laws of admission: a table is made again from its
own routes, more routes only add hosts, and routes that must all be valid give the same table or are
refused for the first that is not.
-/

namespace HostRouting

/-! ## The first with a key -/

section

variable {α κ : Type} [DecidableEq κ] {key : α → κ}

/-- The keys of the first ones are the keys without those that came before. -/
theorem map_firsts (l : List α) : (firsts key l).map key = (l.map key).eraseDups := by
  induction l using List.reverseRecOn with
  | nil => rfl
  | append_singleton l x ih =>
    rw [List.map_append, List.map_singleton, List.eraseDups_append, ← ih, List.removeAll]
    by_cases hx : key x ∈ l.map key
    · rw [firsts_concat_of_mem key hx, List.filter_cons_of_neg (by simpa using hx)]
      simp
    · rw [firsts_concat_of_not_mem key hx, List.filter_cons_of_pos (by simpa using hx), List.map_append]
      rfl

/-- Of the elements with a key, the first is the one among the first ones. -/
theorem find?_firsts (l : List α) (k : κ) :
    (firsts key l).find? (fun x => key x = k) = l.find? fun x => key x = k := by
  induction l using List.reverseRecOn with
  | nil => rfl
  | append_singleton l x ih =>
    by_cases hx : key x ∈ l.map key
    · rw [firsts_concat_of_mem key hx, ih, List.find?_append]
      -- an element before it has the key already
      by_cases hk : key x = k
      · obtain ⟨y, hy, hyx⟩ := List.mem_map.1 hx
        have hfound : (l.find? fun x => key x = k).isSome := by
          rw [List.find?_isSome]
          exact ⟨y, hy, by simpa using hyx.trans hk⟩
        rw [Option.or_of_isSome hfound]
      · simp [hk]
    · rw [firsts_concat_of_not_mem key hx, List.find?_append, List.find?_append, ih]

/-- Looking up a key where each element stands under its own is looking for the first with it. -/
theorem lookup_map_key (l : List α) (k : κ) :
    (l.map fun x => (key x, x)).lookup k = l.find? fun x => key x = k := by
  induction l with
  | nil => rfl
  | cons x l ih =>
    rw [List.map_cons, List.lookup_cons]
    by_cases hx : key x = k
    · rw [beq_iff_eq.2 hx.symm, List.find?_cons_of_pos (by simpa using hx)]
    · rw [beq_eq_false_iff_ne.2 (Ne.symm hx), List.find?_cons_of_neg (by simpa using hx)]
      exact ih

/-- The first ones of two lists: those of the second with a key of the first are not among them. -/
theorem firsts_append (l m : List α) :
    firsts key (l ++ m) = firsts key l ++ (firsts key m).filter fun x => key x ∉ l.map key := by
  induction m using List.reverseRecOn with
  | nil => simp [firsts, chosen]
  | append_singleton m x ih =>
    have hmem : key x ∈ (l ++ m).map key ↔ key x ∈ l.map key ∨ key x ∈ m.map key := by
      rw [List.map_append, List.mem_append]
    rw [← List.append_assoc]
    by_cases hm : key x ∈ m.map key
    · rw [firsts_concat_of_mem key (hmem.2 (.inr hm)), firsts_concat_of_mem key hm, ih]
    · rw [firsts_concat_of_not_mem key hm, List.filter_append, ← List.append_assoc, ← ih]
      by_cases hl : key x ∈ l.map key
      · rw [firsts_concat_of_mem key (hmem.2 (.inl hl)), List.filter_cons_of_neg (by simpa using hl)]
        simp
      · rw [firsts_concat_of_not_mem key (by rw [hmem]; exact not_or.2 ⟨hl, hm⟩),
          List.filter_cons_of_pos (by simpa using hl)]
        rfl

end

namespace Table

variable {rs xs ys : List Route}

/-! ## Lookups -/

/-- The routes of a table of routes. -/
theorem routes_ofRoutes : (ofRoutes rs).routes = firsts Route.host (rs.filter Route.isValid) := by
  rw [routes, entries_ofRoutes, List.map_map]
  exact List.map_id _

/-- Each route of a table of routes is valid and stands under its own host. -/
theorem host_of_mem_ofRoutes {e : String × Route} (h : e ∈ (ofRoutes rs).entries) :
    e.1 = e.2.host ∧ e.2.isValid = true := by
  rw [entries_ofRoutes] at h
  obtain ⟨r, hr, rfl⟩ := List.mem_map.1 h
  exact ⟨rfl, (List.mem_filter.1 (mem_of_mem_firsts hr)).2⟩

/-- The hosts of a table of routes come as they first occur among the valid routes. -/
theorem keys_ofRoutes :
    (ofRoutes rs).keys = ((rs.filter Route.isValid).map Route.host).eraseDups := by
  rw [← map_firsts, keys, entries_ofRoutes, List.map_map]
  rfl

/-- A table of routes gives for a host the first valid route to it. -/
theorem get?_ofRoutes (rs : List Route) (k : String) :
    (ofRoutes rs).get? k = rs.find? fun r => r.isValid && r.host == k := by
  rw [get?, entries_ofRoutes, lookup_map_key, find?_firsts, List.find?_filter]
  congr
  funext r
  simp [Bool.decide_and, Bool.beq_eq_decide_eq]

/-! ## The laws of admission -/

/-- Only the valid routes count. -/
theorem ofRoutes_filter_isValid : ofRoutes (rs.filter Route.isValid) = ofRoutes rs := by
  apply eq_of_entries
  rw [entries_ofRoutes, entries_ofRoutes, List.filter_filter]
  simp

/-- A table of routes is made again from its own routes. -/
theorem ofRoutes_routes : ofRoutes (ofRoutes rs).routes = ofRoutes rs := by
  rw [routes_ofRoutes, ofRoutes_firsts fun r hr => (List.mem_filter.1 hr).2, ofRoutes_filter_isValid]

/-- More routes add the hosts that are not there yet. -/
theorem entries_ofRoutes_append :
    (ofRoutes (xs ++ ys)).entries =
      (ofRoutes xs).entries ++ (ofRoutes ys).entries.filter fun e => e.1 ∉ (ofRoutes xs).keys := by
  have hkeys (k : String) : k ∈ (ofRoutes xs).keys ↔
      k ∈ (xs.filter Route.isValid).map Route.host := by
    rw [keys_ofRoutes, List.mem_eraseDups]
  simp only [hkeys]
  rw [entries_ofRoutes, entries_ofRoutes ys, List.filter_append, firsts_append, List.map_append,
    ← entries_ofRoutes, List.filter_map]
  rfl

/-! ## Routes that must all be valid -/

/-- One more route that has to be valid. -/
theorem acceptValid_eq (t : Table) (r : Route) :
    t.acceptValid r = if r.isValid then .ok (t.accept r) else .error (.incompleteRoute r.shown) := by
  unfold acceptValid accept
  split <;> rfl

/-- Routes that have to be valid, admitted to a table. -/
theorem foldlM_acceptValid (t : Table) (rs : List Route) :
    rs.foldlM acceptValid t = match rs.find? fun r => !r.isValid with
      | some r => .error (.incompleteRoute r.shown)
      | none => .ok (rs.foldl accept t) := by
  induction rs generalizing t with
  | nil => rfl
  | cons r rs ih =>
    rw [List.foldlM_cons, acceptValid_eq]
    by_cases hr : r.isValid
    · rw [if_pos hr, List.find?_cons_of_neg (by simp [hr])]
      exact ih (t.accept r)
    · rw [if_neg hr, List.find?_cons_of_pos (by simp [hr])]
      rfl

/-- They are refused for the first that is not valid. -/
theorem ofValidRoutes_eq_error_iff {f : Fault} : ofValidRoutes rs = .error f ↔
    ∃ r, IsFirst (fun r => r.isValid = false) rs r ∧ f = .incompleteRoute r.shown := by
  have hfind (r : Route) : (rs.find? fun r => !r.isValid) = some r ↔
      IsFirst (fun r => r.isValid = false) rs r :=
    find?_eq_some_iff_isFirst (by simp)
  rw [ofValidRoutes, foldlM_acceptValid]
  cases h : rs.find? fun r => !r.isValid with
  | some r =>
    constructor
    · intro hf
      exact ⟨r, (hfind r).1 h, (Except.error.inj hf).symm⟩
    · rintro ⟨r', hr', rfl⟩
      rw [((hfind r).1 h).unique hr']
  | none =>
    constructor
    · rintro ⟨⟩
    · rintro ⟨r, hr, -⟩
      rw [(hfind r).2 hr] at h
      cases h

/-- They are all admitted if they are all valid. -/
theorem ofValidRoutes_eq_ok_iff {t : Table} :
    ofValidRoutes rs = .ok t ↔ (∀ r ∈ rs, r.isValid = true) ∧ t = ofRoutes rs := by
  have hfind : (rs.find? fun r => !r.isValid) = none ↔ ∀ r ∈ rs, r.isValid = true := by
    simp
  rw [ofValidRoutes, foldlM_acceptValid, ← hfind]
  cases h : rs.find? fun r => !r.isValid with
  | some r => simp
  | none =>
    constructor
    · intro ht
      exact ⟨rfl, (Except.ok.inj ht).symm⟩
    · rintro ⟨-, rfl⟩
      rfl

/-- A route to `b` that lacks its address, and one that comes later and has one. -/
def broken : Route := ⟨"b", ⟨.str "", .str "80", "one"⟩⟩

def repaired : Route := ⟨"b", ⟨.str "10.0.0.3", .str "80", "three"⟩⟩

/-- Some routes, of which the first is not valid and the last is for a host that has one. -/
def mixed : List Route :=
  [broken, ⟨"a", ⟨.str "10.0.0.2", .str "80", "two"⟩⟩, repaired,
    ⟨"a", ⟨.str "10.0.0.4", .str "80", "four"⟩⟩]

end Table

end HostRouting
