import HostRouting.Proofs.Precedence

/-!
# The roll of a listing

A pass over the containers of a listing gives the table of the first container with each host. The
containers that could not be inspected and those without a route leave no mark on it, and the others
that lost their host to an earlier one are warned of, one after the other.
-/

namespace HostRouting

open Act (Spec failing never)

/-- A warning. -/
def Log.Entry.isWarning (e : Log.Entry) : Bool := e.level == "WARN"

/-! ## Listings and what they come to -/

/-- The id of a container in a listing, and what inspecting it comes to. -/
structure Inspection where
  id : Json
  result : Except Fault Container

namespace Inspection

/-- The containers that are found, in the order of the listing. -/
def found (listing : List Inspection) : List Container :=
  listing.filterMap fun i => i.result.toOption

/-- The container is found and has a route. -/
def isRouted (ports : List String) (i : Inspection) : Bool :=
  (i.result.toOption.bind (Container.route? ports)).isSome

end Inspection

namespace Container

variable (ports : List String)

/-- The containers that have a route, with it. -/
def offered (cs : List Container) : List (Container × Route) :=
  cs.filterMap fun c => (c.route? ports).map (c, ·)

/-- The first offer of each host, as it stands in a table. -/
def roll (cs : List Container) : List (String × Route) :=
  (firsts (fun o => o.2.host) (offered ports cs)).map fun o => (o.2.host, o.2)

/-- The offers of hosts that were offered before. -/
def rivals (cs : List Container) : List (Container × Route) :=
  repeats (fun o => o.2.host) (offered ports cs)

variable {ports} {cs : List Container} {c : Container} {r : Route}

theorem offered_cons_of_none (h : c.route? ports = none) :
    offered ports (c :: cs) = offered ports cs :=
  List.filterMap_cons_none (by rw [h]; rfl)

theorem offered_cons_of_some (h : c.route? ports = some r) :
    offered ports (c :: cs) = (c, r) :: offered ports cs :=
  List.filterMap_cons_some (by rw [h]; rfl)

/-- What is offered is valid. -/
theorem isValid_of_mem_offered {o : Container × Route} (h : o ∈ offered ports cs) :
    o.2.isValid = true := by
  obtain ⟨c, -, ho⟩ := List.mem_filterMap.1 h
  obtain ⟨r, hr, rfl⟩ := Option.map_eq_some_iff.1 ho
  exact isValid_of_route? hr

/-- The routes that are offered are valid. -/
theorem isValid_of_mem_routes {r : Route} (h : r ∈ (offered ports cs).map Prod.snd) :
    r.isValid = true := by
  obtain ⟨o, ho, rfl⟩ := List.mem_map.1 h
  exact isValid_of_mem_offered ho

/-- Leaving out the rivals does not change the table. -/
theorem ofRoutes_firsts_offered :
    Table.ofRoutes ((firsts (fun o => o.2.host) (offered ports cs)).map Prod.snd) =
      .ofRoutes ((offered ports cs).map Prod.snd) := by
  rw [← firsts_map Route.host Prod.snd,
    Table.ofRoutes_firsts fun _ => isValid_of_mem_routes]

/-- The entries of the table of what is offered. -/
theorem entries_ofRoutes_offered :
    (Table.ofRoutes ((offered ports cs).map Prod.snd)).entries = roll ports cs := by
  rw [Table.entries_ofRoutes, List.filter_eq_self.2 fun _ => isValid_of_mem_routes, firsts_map Route.host,
    List.map_map]
  rfl

/-- Containers that are not found or have no route may be left out of a listing. -/
theorem offered_found_filter (listing : List Inspection) :
    offered ports (Inspection.found (listing.filter (Inspection.isRouted ports))) =
      offered ports (Inspection.found listing) := by
  unfold offered Inspection.found
  rw [List.filterMap_filterMap, List.filterMap_filterMap, List.filterMap_filter]
  refine congrArg (fun f => listing.filterMap f) (funext fun i => ?_)
  cases hi : i.isRouted ports with
  | true => rfl
  | false =>
    -- what is left out offers nothing
    unfold Inspection.isRouted at hi
    cases hc : i.result.toOption with
    | none => rfl
    | some c =>
      rw [hc, Option.bind_some, Option.isSome_eq_false_iff, Option.isNone_iff_eq_none] at hi
      rw [Option.bind_some, hi]
      rfl

end Container

namespace Host

open Container (IsText offered roll rivals)
open Inspection (found)

/-! ## Assembling -/

/-- The routes `rs` and the warnings `ws` that come of containers after those of `earlier` offers. -/
structure Assembled (ports : List String) (earlier : List (Container × Route))
    (cs : List Container) (rs : List Route) (ws : List Log.Entry) : Prop where
  resolved : ∀ c ∈ cs, ∃ o, resolved ports c = .ok o
  routes : (firsts (fun o => o.2.host) (earlier ++ offered ports cs)).map Prod.snd =
    (firsts (fun o => o.2.host) earlier).map Prod.snd ++ rs
  warnings : ∃ later, repeats (fun o => o.2.host) (earlier ++ offered ports cs) =
      repeats (fun o => o.2.host) earlier ++ later ∧
    (later.mapM fun o => rivalEntry o.2.host o.1) = .ok ws

/-- The first container whose resolution cannot be reported, for the fault `f`. -/
def Obstructed (ports : List String) (cs : List Container) (f : Fault) : Prop :=
  ∃ before c after, cs = before ++ c :: after ∧ resolved ports c = .error f ∧
    ∀ b ∈ before, ∃ o, resolved ports b = .ok o

section

variable {ports : List String} {earlier : List (Container × Route)} {cs : List Container}
  {rs : List Route} {ws : List Log.Entry} {c : Container} {r : Route} {f : Fault}

/-- A container that was resolved is no obstruction. -/
theorem Obstructed.cons {o : Option Route} (h : Obstructed ports cs f)
    (hc : Host.resolved ports c = .ok o) : Obstructed ports (c :: cs) f := by
  obtain ⟨before, d, after, rfl, hd, hbefore⟩ := h
  refine ⟨c :: before, d, after, rfl, hd, fun b hb => ?_⟩
  rcases List.mem_cons.1 hb with rfl | hb
  · exact ⟨o, hc⟩
  · exact hbefore b hb

namespace Assembled

theorem cons_resolved (h : ∀ c ∈ cs, ∃ o, Host.resolved ports c = .ok o) {o : Option Route}
    (hc : Host.resolved ports c = .ok o) : ∀ d ∈ c :: cs, ∃ o, Host.resolved ports d = .ok o := by
  intro d hd
  rcases List.mem_cons.1 hd with rfl | hd
  · exact ⟨o, hc⟩
  · exact h d hd

/-- Nothing comes of no containers. -/
theorem nil : Assembled ports earlier [] [] [] where
  resolved := by simp
  routes := by simp [offered]
  warnings := ⟨[], by simp [offered], rfl⟩

/-- A container without a route is passed over. -/
theorem skip (h : Assembled ports earlier cs rs ws) (hc : Host.resolved ports c = .ok none) :
    Assembled ports earlier (c :: cs) rs ws where
  resolved := cons_resolved h.resolved hc
  routes := by
    rw [Container.offered_cons_of_none (route?_of_resolved hc)]
    exact h.routes
  warnings := by
    rw [Container.offered_cons_of_none (route?_of_resolved hc)]
    exact h.warnings

/-- A new host goes to the container. -/
theorem first (h : Assembled ports (earlier ++ [(c, r)]) cs rs ws)
    (hc : Host.resolved ports c = .ok (some r))
    (hr : r.host ∉ earlier.map fun o => o.2.host) :
    Assembled ports earlier (c :: cs) (r :: rs) ws where
  resolved := cons_resolved h.resolved hc
  routes := by
    rw [Container.offered_cons_of_some (route?_of_resolved hc), List.append_cons, h.routes,
      firsts_concat_of_not_mem (fun o : Container × Route => o.2.host) hr]
    simp
  warnings := by
    rw [Container.offered_cons_of_some (route?_of_resolved hc), List.append_cons]
    have hsame : repeats (fun o => o.2.host) (earlier ++ [(c, r)]) =
        repeats (fun o => o.2.host) earlier := repeats_concat_of_not_mem _ hr
    rw [← hsame]
    exact h.warnings

/-- A host that is taken brings a warning. -/
theorem rival {e : Log.Entry} (h : Assembled ports (earlier ++ [(c, r)]) cs rs ws)
    (hc : Host.resolved ports c = .ok (some r)) (hr : r.host ∈ earlier.map fun o => o.2.host)
    (he : rivalEntry r.host c = .ok e) : Assembled ports earlier (c :: cs) rs (e :: ws) where
  resolved := cons_resolved h.resolved hc
  routes := by
    rw [Container.offered_cons_of_some (route?_of_resolved hc), List.append_cons, h.routes,
      firsts_concat_of_mem (fun o : Container × Route => o.2.host) hr]
  warnings := by
    obtain ⟨later, hlater, hws⟩ := h.warnings
    refine ⟨(c, r) :: later, ?_, ?_⟩
    · rw [Container.offered_cons_of_some (route?_of_resolved hc), List.append_cons, hlater,
        repeats_concat_of_mem (fun o : Container × Route => o.2.host) hr]
      simp
    · rw [List.mapM_cons, he, hws]
      rfl

end Assembled

end

/-! ## A pass over a listing -/

/-- What is known while a client makes a pass over a listing: `P` before it, and then `K left
warnings`, where `left` are the inspections that are still to be made and `warnings` those entries
among the reported ones. -/
structure Tells {σ : Type} (h : Host σ) (client : ClientId) (listing : List Inspection)
    (P : Surroundings σ → Prop) (K : List Inspection → List Log.Entry → Surroundings σ → Prop) :
    Prop where
  list : Spec P (h.list client)
    (fun ids s => ids = listing.map Inspection.id ∧ K listing [] s) never
  inspect : ∀ i left warnings, Spec (K (i :: left) warnings) (h.inspect client i.id)
    (fun c s => i.result = .ok c ∧ K left warnings s)
    (failing fun f s => i.result = .error f ∧ K left warnings s)
  report : ∀ left warnings e, Spec (K left warnings) (h.report e)
    (fun _ => K left (warnings ++ [e].filter Log.Entry.isWarning)) never

namespace Tells

variable {σ : Type} {h : Host σ} {client : ClientId} {listing : List Inspection}
  {P : Surroundings σ → Prop} {K : List Inspection → List Log.Entry → Surroundings σ → Prop}
  {left : List Inspection} {warnings : List Log.Entry}

/-- An entry that is no warning. -/
theorem mention (w : Tells h client listing P K) {e : Log.Entry} (he : e.isWarning = false) :
    Spec (K left warnings) (h.report e) (fun _ => K left warnings) never := by
  refine (w.report left warnings e).post (fun _ s hs => ?_) fun _ _ hf => hf
  rw [List.filter_cons_of_neg (by simp [he]), List.filter_nil, List.append_nil] at hs
  exact hs

/-- A warning. -/
theorem warn (w : Tells h client listing P K) {e : Log.Entry} (he : e.isWarning = true) :
    Spec (K left warnings) (h.report e) (fun _ => K left (warnings ++ [e])) never := by
  refine (w.report left warnings e).post (fun _ s hs => ?_) fun _ _ hf => hf
  rw [List.filter_cons_of_pos he, List.filter_nil] at hs
  exact hs

/-! ### Inspecting -/

/-- One inspection. -/
theorem inspectOne (w : Tells h client listing P K) {i : Inspection} (hi : IsText i.id) :
    Spec (K (i :: left) warnings) (h.inspectOne client i.id)
      (fun o s => o = i.result.toOption ∧ K left warnings s) never := by
  unfold Host.inspectOne
  refine Spec.bind (w.inspect i left warnings).attempt fun r => ?_
  cases r with
  | ok c =>
    refine Spec.pure fun s hs => ⟨?_, hs.2⟩
    rw [hs.1]
    rfl
  | error f =>
    refine Spec.of_fact fun hf => ?_
    obtain ⟨short, hs⟩ := Json.short_of_isText hi
    refine Spec.ofExcept_bind hs ?_
    refine Spec.bind (w.mention rfl) fun _ => Spec.pure fun s hs => ⟨?_, hs⟩
    rw [hf]
    rfl

/-- Inspections that are made one after the other. -/
theorem mapM_result (w : Tells h client listing P K) (now left : List Inspection)
    (warnings : List Log.Entry) (hnow : ∀ i ∈ now, IsText i.id) :
    Spec (K (now ++ left) warnings)
      ((now.map Inspection.id).mapM fun id => (h.inspectOne client id).result)
      (fun rs s => rs = now.map (fun i => .ok i.result.toOption) ∧ K left warnings s) never := by
  induction now with
  | nil => exact Spec.pure fun _ hs => ⟨rfl, hs⟩
  | cons i now ih =>
    rw [List.map_cons, List.mapM_cons]
    refine Spec.bind (w.inspectOne (hnow i (by simp))).result fun r => ?_
    cases r with
    | error f => exact fun _ hs => hs.elim
    | ok o =>
      refine Spec.of_fact fun ho => ?_
      refine Spec.bind (ih fun j hj => hnow j (by simp [hj])) fun rs => Spec.pure fun s hs => ?_
      exact ⟨by rw [List.map_cons, hs.1, ho], hs.2⟩

/-- All inspections, whatever the number that is made at a time. -/
theorem inspectAll (w : Tells h client listing P K) (size : Nat) (l : List Inspection)
    (hl : ∀ i ∈ l, IsText i.id) :
    Spec (K l warnings) (h.inspectAll client size (l.map Inspection.id))
      (fun rs s => rs = l.map (fun i => .ok i.result.toOption) ∧ K [] warnings s) never := by
  generalize hids : l.map Inspection.id = ids
  fun_induction Host.inspectAll h client size ids generalizing l with
  | case1 =>
    rw [List.map_eq_nil_iff] at hids
    subst hids
    exact Spec.pure fun _ hs => ⟨rfl, hs⟩
  | case2 id rest ih =>
    cases l with
    | nil => cases hids
    | cons i l =>
      obtain ⟨rfl, rfl⟩ := List.cons.inj hids
      -- the inspections are parted as their ids are
      have hparts : i :: l = (i :: l.take (size - 1)) ++ l.drop (size - 1) := by simp
      have now := w.mapM_result (i :: l.take (size - 1)) (l.drop (size - 1)) warnings fun j hj =>
        hl j (by rw [hparts]; exact List.mem_append_left _ hj)
      rw [List.map_cons, List.map_take, ← hparts] at now
      refine Spec.bind now fun rs => Spec.of_fact fun hrs => ?_
      refine Spec.bind (ih (l.drop (size - 1)) (fun j hj => hl j ?_) List.map_drop) fun later => ?_
      · exact List.mem_cons_of_mem _ (List.mem_of_mem_drop hj)
      · refine Spec.pure fun s hs => ⟨?_, hs.2⟩
        rw [hrs, hs.1, ← List.map_append, ← hparts]

/-! ### Resolving -/

variable {ports : List String} {c : Container}

/-- A resolution that can be reported. -/
theorem resolveOne (w : Tells h client listing P K) {o : Option Route}
    (hc : resolved ports c = .ok o) :
    Spec (K left warnings) (h.resolveOne ports c) (fun p s => p = o ∧ K left warnings s) never := by
  obtain ⟨resolution, hr, hc⟩ := bind_eq_ok hc
  obtain ⟨entry, he, hc⟩ := bind_eq_ok hc
  cases hc
  unfold Host.resolveOne
  refine Spec.ofExcept_bind hr (Spec.ofExcept_bind he ?_)
  cases entry with
  | none => exact Spec.pure fun _ hs => ⟨rfl, hs⟩
  | some e =>
    have hmention : e.isWarning = false := by
      unfold Resolution.entry? at he
      split at he
      · cases he
      · obtain ⟨short, -, he⟩ := bind_eq_ok he
        cases he
        rfl
    exact Spec.bind (w.mention hmention) fun _ => Spec.pure fun _ hs => ⟨rfl, hs⟩

end Tells

/-- A resolution that cannot be reported. -/
theorem resolveOne_of_error {σ : Type} {h : Host σ} {P : Surroundings σ → Prop}
    {Q : Option Route → Surroundings σ → Prop} {E : Fault → Surroundings σ → Prop}
    {ports : List String} {c : Container} {f : Fault} (hc : resolved ports c = .error f)
    (hE : ∀ s, P s → E f s) : Spec P (h.resolveOne ports c) Q E := by
  unfold Host.resolveOne
  cases hr : c.resolve ports with
  | error g =>
    have : g = f := by
      rw [resolved, hr] at hc
      exact Except.error.inj hc
    exact Spec.ofExcept_fail rfl (this ▸ hE)
  | ok resolution =>
    refine Spec.ofExcept_bind rfl ?_
    cases he : resolution.entry? c with
    | error g =>
      have : g = f := by
        rw [resolved, hr] at hc
        simp only [he, bind, Except.bind] at hc
        exact Except.error.inj hc
      exact Spec.ofExcept_fail rfl (this ▸ hE)
    | ok entry =>
      rw [resolved, hr] at hc
      simp only [he, bind, Except.bind] at hc
      cases hc

namespace Tells

variable {σ : Type} {h : Host σ} {client : ClientId} {listing : List Inspection}
  {P : Surroundings σ → Prop} {K : List Inspection → List Log.Entry → Surroundings σ → Prop}
  {left : List Inspection} {warnings : List Log.Entry}

/-- All resolutions: each new host goes to its container, and each rival is warned of. -/
theorem assemble (w : Tells h client listing P K) (ports : List String) (cs : List Container)
    (earlier : List (Container × Route)) {seen : List String}
    (hseen : ∀ k, k ∈ seen ↔ k ∈ earlier.map fun o => o.2.host) :
    Spec (K left warnings) (h.assemble ports seen cs)
      (fun rs s => ∃ ws, Assembled ports earlier cs rs ws ∧ K left (warnings ++ ws) s)
      (failing fun f _ => Obstructed ports cs f) := by
  induction cs generalizing seen earlier warnings with
  | nil => exact Spec.pure fun s hs => ⟨[], .nil, by simpa using hs⟩
  | cons c cs ih =>
    rw [Host.assemble]
    cases hc : resolved ports c with
    | error f =>
      refine Spec.bind (R := fun _ _ => False) ?_ fun _ _ hs => hs.elim
      refine resolveOne_of_error hc fun s _ => ?_
      exact ⟨resolved_ordinary ports c f hc, [], c, cs, rfl, hc, by simp⟩
    | ok o =>
      refine Spec.bind (w.resolveOne hc).safe fun p => Spec.of_fact fun hp => ?_
      subst hp
      have obstructed (f : Fault) (s : Surroundings σ)
          (hf : failing (fun f _ => Obstructed ports cs f) f s) :
          failing (fun f _ => Obstructed ports (c :: cs) f) f s := ⟨hf.1, hf.2.cons hc⟩
      cases p with
      | none =>
        refine (ih _ hseen).post (fun rs s hs => ?_) obstructed
        obtain ⟨ws, hrs, hs⟩ := hs
        exact ⟨ws, hrs.skip hc, hs⟩
      | some r =>
        dsimp only
        by_cases hr : r.host ∈ seen
        · rw [if_pos hr]
          obtain ⟨e, he⟩ := rivalEntry_of_resolved hc r.host
          have hwarn : e.isWarning = true := by
            obtain ⟨short, -, he⟩ := bind_eq_ok he
            cases he
            rfl
          refine Spec.ofExcept_bind he (Spec.bind (w.warn hwarn).safe fun _ => ?_)
          have hseen' : ∀ k, k ∈ seen ↔ k ∈ (earlier ++ [(c, r)]).map fun o => o.2.host := by
            intro k
            rw [hseen, List.map_append, List.mem_append, List.map_singleton, List.mem_singleton]
            exact ⟨.inl, fun hk => hk.elim id fun hk => hk ▸ (hseen _).1 hr⟩
          refine (ih _ hseen').post (fun rs s hs => ?_) obstructed
          obtain ⟨ws, hrs, hs⟩ := hs
          exact ⟨e :: ws, hrs.rival hc ((hseen _).1 hr) he, by simpa using hs⟩
        · rw [if_neg hr]
          have hseen' : ∀ k, k ∈ r.host :: seen ↔
              k ∈ (earlier ++ [(c, r)]).map fun o => o.2.host := by
            intro k
            rw [List.mem_cons, hseen, List.map_append, List.mem_append, List.map_singleton,
              List.mem_singleton, or_comm]
          refine Spec.bind ((ih _ hseen').post (fun _ _ hs => hs) obstructed) fun rs => ?_
          refine Spec.pure fun s hs => ?_
          obtain ⟨ws, hrs, hs⟩ := hs
          exact ⟨ws, hrs.first hc (mt (hseen _).2 hr), hs⟩

/-- **A pass gives the table of the first offers, unless the resolution of some container cannot be
reported.** -/
theorem enumerate (w : Tells h client listing P K) (hids : ∀ i ∈ listing, IsText i.id)
    (ports : List String) (workers : Workers) :
    Spec P (h.enumerate ports workers client)
      (fun t s => (∀ c ∈ found listing, ∃ o, resolved ports c = .ok o) ∧
        t = .ofRoutes ((firsts (fun o => o.2.host) (offered ports (found listing))).map Prod.snd) ∧
        ∃ ws, ((rivals ports (found listing)).mapM fun o => rivalEntry o.2.host o.1) = .ok ws ∧
          K [] ws s)
      (failing fun f _ => Obstructed ports (found listing) f) := by
  unfold Host.enumerate
  refine Spec.bind w.list.safe fun ids => Spec.of_fact fun hlist => ?_
  subst hlist
  refine Spec.bind (w.inspectAll _ listing hids).safe fun rs => Spec.of_fact fun hrs => ?_
  subst hrs
  have reading : ((listing.map fun i => Except.ok i.result.toOption).mapM
      (Act.ofExcept : Except Fault (Option Container) → Act (Surroundings σ) (Option Container))) =
      pure (listing.map fun i => i.result.toOption) := by
    rw [List.mapM_map]
    exact List.mapM_pure
  rw [reading, pure_bind, List.filterMap_map]
  refine Spec.bind (w.assemble ports (found listing) [] (by simp)) fun routes => ?_
  refine Spec.pure fun s hs => ?_
  obtain ⟨ws, hroutes, hs⟩ := hs
  obtain ⟨later, hlater, hws⟩ := hroutes.warnings
  have hfirsts := hroutes.routes
  simp only [List.nil_append] at hlater hfirsts hs
  refine ⟨hroutes.resolved, ?_, ws, ?_, hs⟩
  · rw [hfirsts]
    rfl
  · rw [rivals, hlater]
    exact hws

end Tells

/-- A pass gives a table if and only if the resolution of every container can be reported, and then it
is the table of all offers. -/
theorem Tells.enumerate_eq_ok_iff {σ : Type} {h : Host σ} {client : ClientId}
    {listing : List Inspection} {P : Surroundings σ → Prop}
    {K : List Inspection → List Log.Entry → Surroundings σ → Prop} (w : Tells h client listing P K)
    (hids : ∀ i ∈ listing, IsText i.id) (ports : List String) (workers : Workers)
    {s : Surroundings σ} (hs : P s) {t : Table} :
    ((h.enumerate ports workers client).outcome s).1 = .ok t ↔
      (∀ c ∈ found listing, ∃ o, resolved ports c = .ok o) ∧
        t = .ofRoutes ((offered ports (found listing)).map Prod.snd) := by
  have hpass := w.enumerate hids ports workers
  match ho : (h.enumerate ports workers client).outcome s with
  | (.ok u, v) =>
    obtain ⟨hresolved, hu, -⟩ := hpass.of_ok hs ho
    rw [Container.ofRoutes_firsts_offered] at hu
    constructor
    · intro ht
      cases ht
      exact ⟨hresolved, hu⟩
    · rintro ⟨-, rfl⟩
      rw [hu]
  | (.error f, v) =>
    -- some container is an obstruction
    obtain ⟨-, before, c, after, hcs, hc, -⟩ := hpass.of_error hs ho
    constructor
    · rintro ⟨⟩
    · rintro ⟨hresolved, -⟩
      obtain ⟨o, ho⟩ := hresolved c (by simp [hcs])
      rw [ho] at hc
      cases hc

/-! ## Plain containers -/

/-- Of plain containers a pass gives a table. -/
theorem Tells.exists_enumerate_eq_ok {σ : Type} {h : Host σ} {client : ClientId}
    {listing : List Inspection} {P : Surroundings σ → Prop}
    {K : List Inspection → List Log.Entry → Surroundings σ → Prop} (w : Tells h client listing P K)
    (hids : ∀ i ∈ listing, IsText i.id) (hplain : ∀ c ∈ found listing, c.IsPlain)
    (ports : List String) (workers : Workers) {s : Surroundings σ} (hs : P s) :
    ∃ t, ((h.enumerate ports workers client).outcome s).1 = .ok t :=
  ⟨_, (w.enumerate_eq_ok_iff hids ports workers hs).2
    ⟨fun c hc => resolved_of_isPlain (hplain c hc) ports, rfl⟩⟩

/-- A host that lists some containers and then answers one inspection after the other. It keeps the
inspections that are still to be made, and the entries that were reported. -/
def reciting (listing : List Inspection) : Host (List Inspection × List Log.Entry) where
  connect := pure 0
  list _ := pure (listing.map Inspection.id)
  inspect _ _ := .ofOutcome fun s => match s.rest with
    | ([], _) => (.error .pingRefused, s)
    | (i :: left, entries) => (i.result, { s with rest := (left, entries) })
  ping _ := pure ()
  addListener _ _ := pure ()
  removeListener _ _ := pure ()
  close _ := pure ()
  sleep _ := pure ()
  publish _ := pure ()
  report e := Act.update fun s => { s with rest := (s.rest.1, s.rest.2 ++ [e]) }

/-- Such a host tells its listing, if the inspections fail in ordinary ways only. -/
theorem reciting_tells {listing : List Inspection} (hl : ∀ i ∈ listing, Ordinary i.result)
    (client : ClientId) :
    Tells (reciting listing) client listing (fun s => s.rest = (listing, []))
      fun left warnings s => (∀ i ∈ left, Ordinary i.result) ∧ s.rest.1 = left ∧
        s.rest.2.filter Log.Entry.isWarning = warnings where
  list := Spec.pure fun s hs => ⟨rfl, hl, by simp [hs], by simp [hs]⟩
  inspect i left warnings := by
    rintro ⟨mailboxes, control, todo, entries⟩ ⟨hord, rfl, hw⟩
    have hrest : ∀ j ∈ left, Ordinary j.result := fun j hj => hord j (by simp [hj])
    have hanswer : ((reciting listing).inspect client i.id).outcome
        ⟨mailboxes, control, i :: left, entries⟩ = (i.result, ⟨mailboxes, control, left, entries⟩) :=
      rfl
    rw [hanswer]
    cases hi : i.result with
    | ok c => exact ⟨rfl, hrest, rfl, hw⟩
    | error f => exact ⟨hord i (by simp) f hi, rfl, hrest, rfl, hw⟩
  report left warnings e := Spec.update fun s hs =>
    ⟨hs.1, hs.2.1, by rw [List.filter_append, hs.2.2]⟩

/-- What becomes of a pass over a listing that a host tells. -/
def recital (ports : List String) (listing : List Inspection) : Except Fault Table :=
  (((reciting listing).enumerate ports {} 0).outcome { rest := (listing, []) }).1

/-- A container that asks for a host. -/
def lodger (id host ip : String) : Container where
  id := .str id
  name := id
  env := [.str ("VIRTUAL_HOST=" ++ host), .str "VIRTUAL_PORT=80"]
  ip := .str ip

theorem lodger_isPlain (id host ip : String) : (lodger id host ip).IsPlain where
  id := ⟨_, rfl⟩
  env := by simp [lodger, IsText]
  ip := ⟨_, rfl⟩
  bindings := by simp [lodger]
  networks := by simp [lodger]

/-- Of these, `b` cannot be inspected, `c` comes too late, and `d` has no address. -/
def contested : List Inspection :=
  [⟨.str "a", .ok (lodger "a" "one" "10.0.0.2")⟩, ⟨.str "b", .error .pingRefused⟩,
    ⟨.str "c", .ok (lodger "c" "one" "10.0.0.3")⟩, ⟨.str "d", .ok (lodger "d" "two" "")⟩,
    ⟨.str "e", .ok (lodger "e" "three" "10.0.0.4")⟩]

end Host

end HostRouting
