import HostRouting.Proofs.Admission
import HostRouting.Proofs.Roll

/-!
# More fallback ports

A container that is routed with some fallback ports keeps its route when more of them are tried after
those. Containers that had no port may come to be routed. One that is listed early may take a host from
another, but no host is lost by it.
-/

namespace HostRouting

open Act (Spec)
open Container (IsText offered)
open Inspection (found)

namespace Container

variable {c : Container} {cs : List Container} {r : Route}

/-! ## The route of a container -/

/-- More fallback ports change the port only where there was none. -/
theorem chosenPort?_append (c : Container) (declared : String) (fs gs : List String) :
    c.chosenPort? declared fs = none ∨
      c.chosenPort? declared (fs ++ gs) = c.chosenPort? declared fs := by
  by_cases hd : declared = ""
  · subst hd
    rw [chosenPort?_of_none, chosenPort?_of_none, List.find?_append]
    cases fs.find? c.exposes with
    | none => exact .inl rfl
    | some p => exact .inr rfl
  · rw [chosenPort?_of_declared hd, chosenPort?_of_declared hd]
    exact .inr rfl

/-- More fallback ports change what becomes of a container only if it had no port. -/
theorem resolve_append (c : Container) (fs gs : List String) :
    c.resolve fs = .ok .noPort ∨ c.resolve (fs ++ gs) = c.resolve fs := by
  unfold resolve
  cases Declaration.ofValues {} c.env with
  | error f => exact .inr rfl
  | ok declared =>
    rcases c.chosenPort?_append declared.port fs gs with hnone | hsame
    · left
      simp only [hnone, bind, Except.bind]
      rfl
    · right
      simp only [hsame, bind, Except.bind]

/-- A route stays as it is. -/
theorem resolve_append_of_route? {fs : List String} {resolution : Resolution}
    (h : c.resolve fs = .ok resolution) (hr : resolution.route? = some r) (gs : List String) :
    c.resolve (fs ++ gs) = .ok resolution := by
  rcases c.resolve_append fs gs with hnone | hsame
  · rw [h] at hnone
    cases hnone
    cases hr
  · rw [hsame, h]

theorem route?_append {fs : List String} (h : c.route? fs = some r) (gs : List String) :
    c.route? (fs ++ gs) = some r := by
  unfold route? at h ⊢
  cases hres : c.resolve fs with
  | error f =>
    rw [hres] at h
    cases h
  | ok resolution =>
    rw [hres] at h
    rw [resolve_append_of_route? hres h]
    exact h

/-! ## The hosts of a table -/

/-- The hosts of a table are those to which containers are routed. -/
theorem mem_keys_ofRoutes_offered {ports : List String} {k : String} :
    k ∈ (Table.ofRoutes ((offered ports cs).map Prod.snd)).keys ↔
      ∃ c ∈ cs, ∃ r, c.route? ports = some r ∧ r.host = k := by
  rw [Table.keys_ofRoutes, List.mem_eraseDups, List.filter_eq_self.2 fun _ => isValid_of_mem_routes,
    List.map_map, List.mem_map]
  constructor
  · rintro ⟨o, ho, hk⟩
    obtain ⟨c, hc, ho⟩ := List.mem_filterMap.1 ho
    obtain ⟨r, hr, rfl⟩ := Option.map_eq_some_iff.1 ho
    exact ⟨c, hc, r, hr, hk⟩
  · rintro ⟨c, hc, r, hr, hk⟩
    exact ⟨(c, r), List.mem_filterMap.2 ⟨c, hc, by rw [hr]; rfl⟩, hk⟩

end Container

namespace Host

/-- What is given for a container is the route to which it is resolved. -/
theorem resolveOne_gives {σ : Type} (h : Host σ) (ports : List String) (c : Container) :
    Spec (fun _ => True) (h.resolveOne ports c)
      (fun o _ => ∃ resolution, c.resolve ports = .ok resolution ∧ resolution.route? = o)
      fun _ _ => True := by
  unfold resolveOne
  refine Spec.bind (R := fun resolution _ => c.resolve ports = .ok resolution)
    (Spec.ofExcept (fun _ hres _ _ => hres) fun _ _ _ _ => trivial) fun resolution => ?_
  refine Spec.bind (R := fun _ _ => c.resolve ports = .ok resolution)
    (Spec.ofExcept (fun _ _ _ hres => hres) fun _ _ _ _ => trivial) fun entry => ?_
  cases entry with
  | none => exact Spec.pure fun _ hres => ⟨resolution, hres, rfl⟩
  | some e =>
    refine Spec.bind (R := fun _ _ => c.resolve ports = .ok resolution)
      (Spec.intro (fun _ _ _ hres _ => hres) fun _ _ _ _ _ => trivial) fun _ => ?_
    exact Spec.pure fun _ hres => ⟨resolution, hres, rfl⟩

/-- More fallback ports change nothing about a container that is routed. -/
theorem resolveOne_append {σ : Type} {h : Host σ} {fs : List String} {c : Container} {r : Route}
    {s s' : Surroundings σ} (ho : (h.resolveOne fs c).outcome s = (.ok (some r), s'))
    (gs : List String) : (h.resolveOne (fs ++ gs) c).outcome s = (.ok (some r), s') := by
  obtain ⟨resolution, hres, hr⟩ := (h.resolveOne_gives fs c).of_ok trivial ho
  have hsame : c.resolve (fs ++ gs) = c.resolve fs := by
    rw [hres]
    exact Container.resolve_append_of_route? hres hr gs
  rw [← ho, resolveOne, resolveOne, hsame]

/-- **More fallback ports only add hosts.** A container that is routed keeps its route. If a pass with
some fallback ports and a pass with more of them after those both give a table, then every host of the
first is a host of the second; of plain containers both do. -/
theorem more_ports_keep_hosts {σ σ' : Type} {h : Host σ} {h' : Host σ'} {client client' : ClientId}
    {listing : List Inspection} {P : Surroundings σ → Prop} {P' : Surroundings σ' → Prop}
    {K : List Inspection → List Log.Entry → Surroundings σ → Prop}
    {K' : List Inspection → List Log.Entry → Surroundings σ' → Prop}
    (w : Tells h client listing P K) (w' : Tells h' client' listing P' K')
    (hids : ∀ i ∈ listing, IsText i.id) (fs gs : List String) (workers workers' : Workers)
    {s : Surroundings σ} {u : Surroundings σ'} (hs : P s) (hu : P' u) :
    (∀ c x y r, (h.resolveOne fs c).outcome x = (.ok (some r), y) →
        (h.resolveOne (fs ++ gs) c).outcome x = (.ok (some r), y)) ∧
      (∀ t t', ((h.enumerate fs workers client).outcome s).1 = .ok t →
        ((h'.enumerate (fs ++ gs) workers' client').outcome u).1 = .ok t' → t.keys ⊆ t'.keys) ∧
      ((∀ c ∈ found listing, c.IsPlain) →
        (∃ t, ((h.enumerate fs workers client).outcome s).1 = .ok t) ∧
          ∃ t', ((h'.enumerate (fs ++ gs) workers' client').outcome u).1 = .ok t') := by
  refine ⟨fun c x y r ho => ?_, fun t t' ht ht' k hk => ?_, fun hplain => ⟨?_, ?_⟩⟩
  · exact resolveOne_append ho gs
  · obtain ⟨-, rfl⟩ := (w.enumerate_eq_ok_iff hids fs workers hs).1 ht
    obtain ⟨-, rfl⟩ := (w'.enumerate_eq_ok_iff hids (fs ++ gs) workers' hu).1 ht'
    rw [Container.mem_keys_ofRoutes_offered] at hk ⊢
    obtain ⟨c, hc, r, hr, hk⟩ := hk
    exact ⟨c, hc, r, Container.route?_append hr gs, hk⟩
  · exact w.exists_enumerate_eq_ok hids hplain fs workers hs
  · exact w'.exists_enumerate_eq_ok hids hplain (fs ++ gs) workers' hu

/-- A container that asks for a host and declares no port, but exposes one. -/
def exposing (id host ip port : String) : Container where
  id := .str id
  name := id
  env := [.str ("VIRTUAL_HOST=" ++ host)]
  ports := [(Container.tcp port, [])]
  ip := .str ip

theorem exposing_isPlain (id host ip port : String) : (exposing id host ip port).IsPlain where
  id := ⟨_, rfl⟩
  env := by simp [exposing, IsText]
  ip := ⟨_, rfl⟩
  bindings := by simp [exposing]
  networks := by simp [exposing]

/-- The containers `a` and `c` expose a port that is not tried at first; `b` declares its port. -/
def overlooked : List Inspection :=
  [⟨.str "a", .ok (exposing "a" "one" "10.0.0.2" "8080")⟩,
    ⟨.str "b", .ok (lodger "b" "one" "10.0.0.3")⟩,
    ⟨.str "c", .ok (exposing "c" "two" "10.0.0.4" "8080")⟩]

/-- With one more fallback port `a` takes its host from `b`, and `c` brings another host. -/
theorem more_ports_keep_hosts_overlooked :
    (∀ i ∈ overlooked, IsText i.id) ∧ (∀ c ∈ found overlooked, c.IsPlain) ∧
      ((recital ["80"] overlooked).map fun t => t.routes.map fun r =>
        (r.host, r.endpoint.containerName)) = .ok [("one", "b")] ∧
      ((recital (["80"] ++ ["8080"]) overlooked).map fun t => t.routes.map fun r =>
        (r.host, r.endpoint.containerName)) = .ok [("one", "a"), ("two", "c")] ∧
      (∃ t t', recital ["80"] overlooked = .ok t ∧
        recital (["80"] ++ ["8080"]) overlooked = .ok t' ∧ t.keys ⊆ t'.keys) ∧
      ∃ r y, ((reciting overlooked).resolveOne ["80"] (lodger "b" "one" "10.0.0.3")).outcome
          { rest := ([], []) } = (.ok (some r), y) ∧
        ((reciting overlooked).resolveOne (["80"] ++ ["8080"]) (lodger "b" "one" "10.0.0.3")).outcome
          { rest := ([], []) } = (.ok (some r), y) := by
  have hord : ∀ i ∈ overlooked, Ordinary i.result := by
    simp only [overlooked, List.forall_mem_cons]
    exact ⟨.ok _, .ok _, .ok _, by simp⟩
  have hids : ∀ i ∈ overlooked, IsText i.id := by simp [overlooked, IsText]
  have hplain : ∀ c ∈ found overlooked, c.IsPlain := by
    simp [overlooked, found, Except.toOption, lodger_isPlain, exposing_isPlain]
  obtain ⟨hroute, hkeys, hgives⟩ := more_ports_keep_hosts (reciting_tells hord 0)
    (reciting_tells hord 0) hids ["80"] ["8080"] {} {} (s := { rest := (overlooked, []) })
    (u := { rest := (overlooked, []) }) rfl rfl
  obtain ⟨⟨t, ht⟩, t', ht'⟩ := hgives hplain
  refine ⟨hids, hplain, by decide +kernel, by decide +kernel, ⟨t, t', ht, ht', hkeys t t' ht ht'⟩, ?_⟩
  have hfirst : (((reciting overlooked).resolveOne ["80"] (lodger "b" "one" "10.0.0.3")).outcome
      { rest := ([], []) }).1 = .ok (some ⟨"one", ⟨.str "10.0.0.3", .str "80", "b"⟩⟩) := by
    decide +kernel
  have hb := Prod.ext hfirst rfl
  exact ⟨_, _, hb, hroute _ _ _ _ hb⟩

end Host

end HostRouting
