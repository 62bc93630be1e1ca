import HostRouting.Proofs.Admission
import HostRouting.Proofs.Canon
import HostRouting.Proofs.Roll

/-!
# Listings in another order

Which route a table gives for a host depends only on the containers that are routed to it, and on the
order in which these are listed. So the order of a listing matters only among rivals: as long as these
follow one another as before, the tables are equal as mappings and have one rendering.
-/

namespace HostRouting

open Container (IsText offered)

namespace Inspection

variable {ports : List String} {l l' : List Inspection}

/-! ## Rivals -/

/-- The host to which the container is routed, if it is found and has a route. -/
def host? (ports : List String) (i : Inspection) : Option String :=
  (i.result.toOption.bind (Container.route? ports)).map Route.host

/-- The inspections of the containers that are routed to a host, in the order of the listing. -/
def rivalsFor (ports : List String) (host : String) (l : List Inspection) : List Inspection :=
  l.filter fun i => i.host? ports == some host

/-- One listing has the inspections of the other in another order, but those of containers that are
routed to one host follow one another as before. -/
structure Reordered (ports : List String) (l l' : List Inspection) : Prop where
  perm : l.Perm l'
  rivals : ∀ host, rivalsFor ports host l = rivalsFor ports host l'

/-- If no two containers are routed to one host, the order does not matter. -/
theorem Reordered.of_nodup (h : l.Perm l') (hdistinct : (l.filterMap (host? ports)).Nodup) :
    Reordered ports l l' where
  perm := h
  rivals host := by
    have hperm : (rivalsFor ports host l).Perm (rivalsFor ports host l') := h.filter _
    have hone : (rivalsFor ports host l).length ≤ 1 := by
      have hcount := List.nodup_iff_count_le_one.1 hdistinct host
      rw [List.count_filterMap] at hcount
      rw [rivalsFor, ← List.countP_eq_length_filter]
      exact hcount
    match hl : rivalsFor ports host l with
    | [] => exact (List.nil_perm.1 (hl ▸ hperm)).symm
    | [i] => exact (List.perm_singleton.1 (hl ▸ hperm).symm).symm
    | i :: j :: rest =>
      rw [hl] at hone
      simp at hone

/-- The containers that are found are the same. -/
theorem Reordered.mem_found_iff (h : Reordered ports l l') {c : Container} :
    c ∈ found l ↔ c ∈ found l' :=
  (h.perm.filterMap _).mem_iff

end Inspection

open Inspection (found rivalsFor Reordered)

namespace Container

variable {ports : List String} {l l' : List Inspection}

/-! ## The route for a host -/

/-- The offers of a host are those of the containers that are routed to it. -/
theorem offered_filter_host (l : List Inspection) (host : String) :
    (offered ports (found l)).filter (fun o => o.2.host = host) =
      offered ports (found (rivalsFor ports host l)) := by
  unfold offered found rivalsFor
  rw [List.filterMap_filterMap, List.filter_filterMap, List.filterMap_filterMap, List.filterMap_filter]
  refine congrArg (fun f => l.filterMap f) (funext fun i => ?_)
  rw [Inspection.host?]
  cases hi : i.result.toOption with
  | none => rfl
  | some c =>
    rw [Option.bind_some, Option.bind_some]
    cases hc : c.route? ports with
    | none => rfl
    | some r => by_cases hr : r.host = host <;> simp [Option.filter_some, hr]

/-- The table gives for a host the route of the first container that is routed to it. -/
theorem get?_ofRoutes_offered (l : List Inspection) (host : String) :
    (Table.ofRoutes ((offered ports (found l)).map Prod.snd)).get? host =
      ((offered ports (found (rivalsFor ports host l))).map Prod.snd).head? := by
  rw [Table.get?_ofRoutes, List.find?_map, ← List.head?_filter, List.head?_map,
    ← offered_filter_host]
  congr 2
  refine List.filter_congr fun o ho => ?_
  simp [isValid_of_mem_offered ho, Bool.beq_eq_decide_eq]

/-- Where the rivals follow one another as before, the tables are equal as mappings. -/
theorem same_of_reordered (h : Reordered ports l l') :
    (Table.ofRoutes ((offered ports (found l)).map Prod.snd)).same
      (Table.ofRoutes ((offered ports (found l')).map Prod.snd)) = true := by
  rw [Table.same_iff_perm, Table.perm_iff_get?]
  intro host
  rw [get?_ofRoutes_offered, get?_ofRoutes_offered, h.rivals]

end Container

namespace Host

/-- **The order of a listing matters only among rivals.** If two listings have the same inspections, and
those of containers that are routed to one host follow one another as before, or no two containers are
routed to one host, then a pass over one gives a table if and only if a pass over the other does. The
tables are equal as mappings and have one rendering. Of plain containers there always is one. -/
theorem enumerate_reordered {σ σ' : Type} {h : Host σ} {h' : Host σ'} {client client' : ClientId}
    {listing listing' : List Inspection} {P : Surroundings σ → Prop} {P' : Surroundings σ' → Prop}
    {K : List Inspection → List Log.Entry → Surroundings σ → Prop}
    {K' : List Inspection → List Log.Entry → Surroundings σ' → Prop}
    (w : Tells h client listing P K) (w' : Tells h' client' listing' P' K')
    (hids : ∀ i ∈ listing, IsText i.id) (ports : List String)
    (horder : Reordered ports listing listing' ∨
      listing.Perm listing' ∧ (listing.filterMap (Inspection.host? ports)).Nodup)
    (workers workers' : Workers) {s : Surroundings σ} {u : Surroundings σ'} (hs : P s)
    (hu : P' u) :
    ((∀ c ∈ found listing, c.IsPlain) →
        ∃ t, ((h.enumerate ports workers client).outcome s).1 = .ok t) ∧
      (∀ t, ((h.enumerate ports workers client).outcome s).1 = .ok t →
        ∃ t', ((h'.enumerate ports workers' client').outcome u).1 = .ok t' ∧
          t.same t' = true ∧ t.toJson = t'.toJson) ∧
      ∀ t', ((h'.enumerate ports workers' client').outcome u).1 = .ok t' →
        ∃ t, ((h.enumerate ports workers client).outcome s).1 = .ok t := by
  have hre : Reordered ports listing listing' :=
    horder.elim id fun hdistinct => .of_nodup hdistinct.1 hdistinct.2
  have hids' : ∀ i ∈ listing', IsText i.id := fun i hi => hids i (hre.perm.mem_iff.2 hi)
  have hpass {t : Table} := w.enumerate_eq_ok_iff hids ports workers hs (t := t)
  have hpass' {t : Table} := w'.enumerate_eq_ok_iff hids' ports workers' hu (t := t)
  refine ⟨fun hplain => ?_, fun t ht => ?_, fun t' ht' => ?_⟩
  · exact w.exists_enumerate_eq_ok hids hplain ports workers hs
  · obtain ⟨hresolved, rfl⟩ := hpass.1 ht
    have hsame := Container.same_of_reordered hre
    refine ⟨_, hpass'.2 ⟨fun c hc => hresolved c (hre.mem_found_iff.2 hc), rfl⟩, hsame, ?_⟩
    exact Table.same_iff_toJson.1 hsame
  · obtain ⟨hresolved, -⟩ := hpass'.1 ht'
    exact ⟨_, hpass.2 ⟨fun c hc => hresolved c (hre.mem_found_iff.1 hc), rfl⟩⟩

/-- An inspection that finds a container which asks for a host. -/
def lodged (id host ip : String) : Inspection := ⟨.str id, .ok (lodger id host ip)⟩

/-- The containers `a` and `c` are rivals, and `b` is listed after `a` or before it. -/
def between : List Inspection :=
  [lodged "a" "one" "10.0.0.2", lodged "b" "two" "10.0.0.3", lodged "c" "one" "10.0.0.4"]

def ahead : List Inspection :=
  [lodged "b" "two" "10.0.0.3", lodged "a" "one" "10.0.0.2", lodged "c" "one" "10.0.0.4"]

theorem between_reordered : Reordered ["80"] between ahead where
  perm := .swap _ _ _
  rivals host := by
    have ha : (lodged "a" "one" "10.0.0.2").host? ["80"] = some "one" := by decide +kernel
    have hb : (lodged "b" "two" "10.0.0.3").host? ["80"] = some "two" := by decide +kernel
    by_cases hhost : host = "one"
    · subst hhost
      simp [rivalsFor, between, ahead, List.filter_cons, ha, hb]
    · simp [rivalsFor, between, ahead, List.filter_cons, ha, Ne.symm hhost]

/-- The tables of the two listings have their keys in another order, and are equal as mappings. -/
theorem enumerate_reordered_between :
    (∀ i ∈ between, IsText i.id) ∧ Reordered ["80"] between ahead ∧
      (∀ c ∈ found between, c.IsPlain) ∧
      (recital ["80"] between).map Table.keys = .ok ["one", "two"] ∧
      (recital ["80"] ahead).map Table.keys = .ok ["two", "one"] ∧
      ∃ t t', recital ["80"] between = .ok t ∧ recital ["80"] ahead = .ok t' ∧
        t.same t' = true ∧ t.toJson = t'.toJson := by
  have hord : ∀ i ∈ between, Ordinary i.result := by
    simp only [between, List.forall_mem_cons]
    exact ⟨.ok _, .ok _, .ok _, by simp⟩
  have hord' : ∀ i ∈ ahead, Ordinary i.result := fun i hi =>
    hord i (between_reordered.perm.mem_iff.2 hi)
  have hids : ∀ i ∈ between, IsText i.id := by simp [between, lodged, IsText]
  have hplain : ∀ c ∈ found between, c.IsPlain := by
    simp [between, lodged, found, Except.toOption, lodger_isPlain]
  obtain ⟨hgives, hsame, -⟩ := enumerate_reordered (reciting_tells hord 0) (reciting_tells hord' 0) hids
    ["80"] (.inl between_reordered) {} {} (s := { rest := (between, []) })
    (u := { rest := (ahead, []) }) rfl rfl
  obtain ⟨t, ht⟩ := hgives hplain
  obtain ⟨t', ht', hboth⟩ := hsame t ht
  exact ⟨hids, between_reordered, hplain, by decide +kernel, by decide +kernel, t, t', ht, ht', hboth⟩

end Host

end HostRouting
