import HostRouting.Container.Resolution
import HostRouting.Proofs.Declared

/-!
# Where a container is reached

Which port is picked for a container and which endpoint leads to it can be said without a search: by
what is last among its declarations and first among the ports, the bindings and the addresses. What a
container is resolved to depends on nothing else.
-/

namespace HostRouting

open Declaration (Declares hostName portName)

/-- Texts are always taken apart. -/
theorem Declaration.ofValues_of_isText (d : Declaration) {vs : List Json}
    (h : ∀ v ∈ vs, Container.IsText v) :
    d.ofValues vs = .ok (d.addAll (vs.filterMap Json.text?)) := by
  induction vs generalizing d with
  | nil => rfl
  | cons v vs ih =>
    obtain ⟨s, rfl⟩ := h v (by simp)
    exact ih (d.add s) fun w hw => h w (by simp [hw])

/-- A route between texts is valid when none of them is empty. -/
theorem Route.isValid_iff_of_texts {host ip port name : String} :
    (Route.mk host ⟨.str ip, .str port, name⟩).isValid = true ↔ host ≠ "" ∧ ip ≠ "" ∧ port ≠ "" := by
  simp [Route.isValid, Json.isTruthy, and_assoc]

/-- The binding is to one specific address. -/
def Binding.IsSpecific (b : Binding) : Prop := ∀ w ∈ Container.wildcards, b.hostIp ≠ .str w

instance : DecidablePred Binding.IsSpecific := fun b =>
  inferInstanceAs (Decidable (∀ w ∈ Container.wildcards, b.hostIp ≠ .str w))

/-- A specific address is not empty. -/
theorem Binding.IsSpecific.ne_empty {b : Binding} (h : b.IsSpecific) : b.hostIp ≠ .str "" :=
  h "" (by decide)

namespace Container

variable {c : Container} {fallback : List String} {p q ip ip' port port' host : String}

/-! ## The environment -/

/-- The entries of the environment, as far as they are texts. -/
def entries (c : Container) : List String := c.env.filterMap Json.text?

/-! ## The port -/

/-- The port that is picked: the declared one, or else the first fallback port that is exposed. -/
inductive Picks (c : Container) (fallback : List String) : String → Prop
  | declared {p : String} (h : Declares c.entries portName p) : Picks c fallback p
  | exposed {p : String} (hnone : ∀ q, ¬ Declares c.entries portName q)
      (h : IsFirst (fun q => c.exposes q = true) fallback p) : Picks c fallback p

/-- One port is picked. -/
theorem Picks.unique (hp : c.Picks fallback p) (hq : c.Picks fallback q) : p = q := by
  cases hp with
  | declared hp =>
    cases hq with
    | declared hq => exact Declaration.port_tracks.unique hp hq
    | exposed hnone => exact absurd hp (hnone p)
  | exposed hnone hp =>
    cases hq with
    | declared hq => exact absurd hq (hnone q)
    | exposed _ hq => exact hp.unique hq

/-- A declared port is chosen. -/
theorem chosenPort?_of_declared (h : p ≠ "") : c.chosenPort? p fallback = some p := by
  unfold chosenPort?
  simp [h]

/-- Without one the fallback ports are looked through. -/
theorem chosenPort?_of_none :
    c.chosenPort? "" fallback = (fallback.find? c.exposes).filter (· ≠ "") := by
  unfold chosenPort?
  cases fallback.find? c.exposes with
  | none => rfl
  | some q => by_cases hq : q = "" <;> simp [hq, Option.filter_some]

/-- The port that is picked is chosen, unless it is empty. -/
theorem Picks.chosenPort?_eq (h : c.Picks fallback p) :
    c.chosenPort? (Declaration.ofEntries c.entries).port fallback = (some p).filter (· ≠ "") := by
  cases h with
  | declared h =>
    obtain ⟨hport, hp⟩ := Declaration.port_tracks.declares_iff.1 h
    rw [hport, chosenPort?_of_declared hp, Option.filter_some_pos (by simpa using hp)]
  | exposed hnone h =>
    rw [Declaration.port_tracks.eq_empty_iff.2 hnone, chosenPort?_of_none,
      (find?_eq_some_iff_isFirst fun _ _ => Iff.rfl).2 h]

/-- The port that is chosen was picked. -/
theorem picks_of_chosenPort?
    (h : c.chosenPort? (Declaration.ofEntries c.entries).port fallback = some p) :
    c.Picks fallback p ∧ p ≠ "" := by
  by_cases hd : (Declaration.ofEntries c.entries).port = ""
  · rw [hd, chosenPort?_of_none, Option.filter_eq_some_iff] at h
    obtain ⟨hfind, hp⟩ := h
    refine ⟨.exposed (Declaration.port_tracks.eq_empty_iff.1 hd) ?_, by simpa using hp⟩
    exact (find?_eq_some_iff_isFirst fun _ _ => Iff.rfl).1 hfind
  · rw [chosenPort?_of_declared hd] at h
    cases h
    exact ⟨.declared (Declaration.port_tracks.declares_iff.2 ⟨rfl, hd⟩), hd⟩

/-! ## The endpoint -/

/-- The addresses of the container itself, in the order in which they count: on the bridge, and then
in the networks in the order of attachment. -/
def addresses (c : Container) : List Json := c.ip :: c.networks.map Prod.snd

/-- An address and a port lead to the container on the port `p`. The first binding of `p` to a specific
address does. If there is none and the container is on this host, the first of its own addresses that
is not empty does, with the port `p` itself. -/
inductive Leads (c : Container) (p : String) : String → String → Prop
  | published {ip port : String}
      (h : IsFirst Binding.IsSpecific (c.bindings p) ⟨.str ip, .str port⟩) : Leads c p ip port
  | own {ip : String} (hnone : ∀ b ∈ c.bindings p, ¬ b.IsSpecific) (hlocal : c.isRemote = false)
      (h : IsFirst (· ≠ .str "") c.addresses (.str ip)) : Leads c p ip p

/-- An address that leads to a container is not empty. -/
theorem Leads.ip_ne_empty (h : c.Leads p ip port) : ip ≠ "" := by
  rintro rfl
  cases h with
  | published h => exact h.holds.ne_empty rfl
  | own _ _ h => exact h.holds rfl

/-- The bindings of a port are among all bindings. -/
theorem IsPlain.bindings_isText (hc : c.IsPlain) {b : Binding} (hb : b ∈ c.bindings p) :
    IsText b.hostIp ∧ IsText b.hostPort := by
  unfold Container.bindings at hb
  cases hl : c.ports.lookup (tcp p) with
  | none => simp [hl] at hb
  | some bs =>
    obtain ⟨before, after, hports, -⟩ := List.lookup_eq_some_iff.1 hl
    rw [hl] at hb
    exact hc.bindings (tcp p, bs) (by simp [hports]) b hb

/-- Among bindings to addresses that are texts, the first specific one is found. -/
theorem specificBinding_of_isText {bs : List Binding} (h : ∀ b ∈ bs, IsText b.hostIp) :
    specificBinding? bs = .ok (bs.find? fun b => b.IsSpecific) := by
  induction bs with
  | nil => rfl
  | cons b bs ih =>
    obtain ⟨s, hs⟩ := h b (by simp)
    have hspecific : b.IsSpecific ↔ s ∉ wildcards := by
      unfold Binding.IsSpecific
      rw [hs]
      exact ⟨fun hb hw => hb s hw rfl, fun hw w hmem heq => hw (Json.str.inj heq ▸ hmem)⟩
    unfold specificBinding?
    rw [hs]
    simp only [Json.isOneOf, bind, Except.bind]
    by_cases hb : b.IsSpecific
    · rw [if_neg (by simpa using hspecific.1 hb), List.find?_cons_of_pos (by simpa using hb)]
      rfl
    · rw [if_pos (by simpa using mt hspecific.2 hb), List.find?_cons_of_neg (by simpa using hb)]
      exact ih fun a ha => h a (by simp [ha])

/-- A text says something unless it is empty. -/
theorem isTruthy_iff_of_isText {v : Json} (h : IsText v) : v.isTruthy = true ↔ v ≠ .str "" := by
  obtain ⟨s, rfl⟩ := h
  simp [Json.isTruthy]

/-- The addresses of a plain container are texts. -/
theorem IsPlain.addresses_isText (hc : c.IsPlain) {v : Json} (hv : v ∈ c.addresses) : IsText v := by
  rcases List.mem_cons.1 hv with rfl | hv
  · exact hc.ip
  · obtain ⟨n, hn, rfl⟩ := List.mem_map.1 hv
    exact hc.networks n hn

/-- The address of a container on this host is the first one that says something. -/
theorem orLocal_eq_find? (hlocal : c.isRemote = false) :
    c.orLocal (c.orLocal (.str "") c.ip) c.networkAddress =
      (c.addresses.find? Json.isTruthy).getD (.str "") := by
  have hbridge : c.orLocal (.str "") c.ip = c.ip := by simp [orLocal, hlocal, Json.isTruthy]
  rw [hbridge, addresses, List.find?_cons]
  cases hip : c.ip.isTruthy <;> simp [orLocal, hlocal, hip, networkAddress]

/-- A container on another host has none of its own. -/
theorem orLocal_of_isRemote (hremote : c.isRemote = true) :
    c.orLocal (c.orLocal (.str "") c.ip) c.networkAddress = .str "" := by
  simp [orLocal, hremote]

/-- The endpoint is given by the first specific binding. -/
theorem IsPlain.endpoint_of_first (hc : c.IsPlain) {b : Binding}
    (h : IsFirst Binding.IsSpecific (c.bindings p) b) :
    c.endpoint p = .ok (b.hostIp, b.hostPort) := by
  have hfind : (c.bindings p).find? (fun b => b.IsSpecific) = some b :=
    (find?_eq_some_iff_isFirst (by simp)).2 h
  have hip : b.hostIp.isTruthy = true :=
    (isTruthy_iff_of_isText (hc.bindings_isText h.mem).1).2 h.holds.ne_empty
  unfold Container.endpoint
  rw [specificBinding_of_isText fun a ha => (hc.bindings_isText ha).1, hfind]
  simp [bind, Except.bind, pure, Except.pure, orLocal, hip]

/-- Without one it is the address of the container itself. -/
theorem IsPlain.endpoint_of_none (hc : c.IsPlain) (h : ∀ b ∈ c.bindings p, ¬ b.IsSpecific) :
    c.endpoint p = .ok (c.orLocal (c.orLocal (.str "") c.ip) c.networkAddress, .str p) := by
  have hfind : (c.bindings p).find? (fun b => b.IsSpecific) = none := by simpa using h
  unfold Container.endpoint
  rw [specificBinding_of_isText fun a ha => (hc.bindings_isText ha).1, hfind]
  rfl

/-- What leads to a container is its endpoint. -/
theorem Leads.endpoint (hc : c.IsPlain) (h : c.Leads p ip port) :
    c.endpoint p = .ok (.str ip, .str port) := by
  cases h with
  | published h => exact hc.endpoint_of_first h
  | own hnone hlocal h =>
    have hfind : c.addresses.find? Json.isTruthy = some (.str ip) :=
      (find?_eq_some_iff_isFirst fun v hv => isTruthy_iff_of_isText (hc.addresses_isText hv)).2 h
    rw [hc.endpoint_of_none hnone, orLocal_eq_find? hlocal, hfind]
    rfl

/-- One endpoint leads to a container. -/
theorem Leads.unique (hc : c.IsPlain) (h : c.Leads p ip port) (h' : c.Leads p ip' port') :
    ip = ip' ∧ port = port' := by
  have heq := (h.endpoint hc).symm.trans (h'.endpoint hc)
  simpa using heq

/-- An endpoint leads to the container if there is a specific binding, or an address of its own on
this host. -/
theorem IsPlain.exists_leads_iff (hc : c.IsPlain) :
    (∃ ip port, c.Leads p ip port) ↔ (∃ b ∈ c.bindings p, b.IsSpecific) ∨
      c.isRemote = false ∧ ∃ v ∈ c.addresses, v ≠ .str "" := by
  constructor
  · rintro ⟨ip, port, h | ⟨-, hlocal, h⟩⟩
    · exact .inl ⟨_, h.mem, h.holds⟩
    · exact .inr ⟨hlocal, _, h.mem, h.holds⟩
  · intro h
    -- a specific binding comes before the addresses of the container
    by_cases hs : ∃ b ∈ c.bindings p, b.IsSpecific
    · obtain ⟨⟨hostIp, hostPort⟩, hb⟩ := exists_isFirst hs
      obtain ⟨⟨ip, rfl⟩, ⟨port, rfl⟩⟩ := hc.bindings_isText hb.mem
      exact ⟨ip, port, .published hb⟩
    · obtain ⟨hlocal, hown⟩ := h.resolve_left hs
      obtain ⟨v, hv⟩ := exists_isFirst hown
      obtain ⟨ip, rfl⟩ := hc.addresses_isText hv.mem
      exact ⟨ip, p, .own (fun b hb h => hs ⟨b, hb, h⟩) hlocal hv⟩

/-- If nothing leads to a container, its endpoint has no address. -/
theorem IsPlain.endpoint_of_not_leads (hc : c.IsPlain) (h : ¬ ∃ ip port, c.Leads p ip port) :
    c.endpoint p = .ok (.str "", .str p) := by
  rw [hc.exists_leads_iff, not_or] at h
  rw [hc.endpoint_of_none fun b hb hs => h.1 ⟨b, hb, hs⟩]
  cases hlocal : c.isRemote with
  | true => rw [orLocal_of_isRemote hlocal]
  | false =>
    have hfind : c.addresses.find? Json.isTruthy = none := by
      rw [List.find?_eq_none]
      intro v hv htruthy
      exact h.2 ⟨hlocal, v, hv, (isTruthy_iff_of_isText (hc.addresses_isText hv)).1 htruthy⟩
    rw [orLocal_eq_find? hlocal, hfind]
    rfl

/-! ## The resolution -/

/-- The route that a container gets: from the declared host to the endpoint that leads to it on the
port that is picked. -/
inductive Warrants (c : Container) (fallback : List String) : Route → Prop
  | intro {p ip port host : String} (hp : c.Picks fallback p) (hne : p ≠ "") (h : c.Leads p ip port)
      (hport : port ≠ "") (hhost : Declares c.entries hostName host) :
      Warrants c fallback ⟨host, ⟨.str ip, .str port, c.name⟩⟩

/-- What a container lacks that gets no route: a declared host, a port, or an endpoint that leads to
it and has a port. -/
inductive Lacks (c : Container) (fallback : List String) : Prop
  | host (h : ∀ host, ¬ Declares c.entries hostName host)
  | port (h : ∀ p, c.Picks fallback p → p = "")
  | endpoint {p : String} (hp : c.Picks fallback p) (h : ∀ ip port, c.Leads p ip port → port = "")

/-- A container that lacks something gets no route. -/
theorem Warrants.not_lacks {r : Route} (h : c.Warrants fallback r) : ¬ c.Lacks fallback := by
  obtain ⟨hp, hne, hl, hport, hhost⟩ := h
  rintro (h | h | ⟨hq, h⟩)
  · exact h _ hhost
  · exact hne (h _ hp)
  · exact hport (h _ _ (hp.unique hq ▸ hl))

/-- A container gets one route. -/
theorem Warrants.unique (hc : c.IsPlain) {r r' : Route} (h : c.Warrants fallback r)
    (h' : c.Warrants fallback r') : r = r' := by
  obtain ⟨hp, -, hl, -, hhost⟩ := h
  obtain ⟨hq, -, hl', -, hhost'⟩ := h'
  obtain rfl := hp.unique hq
  obtain ⟨rfl, rfl⟩ := hl.unique hc hl'
  obtain rfl := Declaration.host_tracks.unique hhost hhost'
  rfl

/-- What the container is resolved to, and why. -/
inductive Verdict (c : Container) (fallback : List String) : Resolution → Prop
  | noPort (h : ∀ p, c.Picks fallback p → p = "") : Verdict c fallback .noPort
  | noAddress {p : String} (hp : c.Picks fallback p) (hne : p ≠ "")
      (h : ¬ ∃ ip port, c.Leads p ip port) : Verdict c fallback .noAddress
  | incomplete {p ip port : String} (hp : c.Picks fallback p) (hne : p ≠ "")
      (h : c.Leads p ip port)
      (hlack : port = "" ∨ ∀ host, ¬ Declares c.entries hostName host) :
      Verdict c fallback .incomplete
  | routed {r : Route} (h : c.Warrants fallback r) : Verdict c fallback (.routed r)

/-- The resolution of a plain container, once its port is looked for. -/
theorem IsPlain.resolve_eq (hc : c.IsPlain) (fallback : List String) :
    c.resolve fallback =
      match c.chosenPort? (Declaration.ofEntries c.entries).port fallback with
      | none => .ok .noPort
      | some p => do
        let (ip, port) ← c.endpoint p
        if !ip.isTruthy then
          return .noAddress
        let route : Route := ⟨(Declaration.ofEntries c.entries).host, ⟨ip, port, c.name⟩⟩
        return if route.isValid then .routed route else .incomplete := by
  unfold resolve
  rw [Declaration.ofValues_of_isText {} hc.env]
  rfl

/-- The resolution of a container to which an endpoint leads. -/
theorem IsPlain.resolve_of_leads (hc : c.IsPlain) (hp : c.Picks fallback p) (hne : p ≠ "")
    (h : c.Leads p ip port) :
    let route : Route := ⟨(Declaration.ofEntries c.entries).host, ⟨.str ip, .str port, c.name⟩⟩
    c.resolve fallback = .ok (if route.isValid then .routed route else .incomplete) := by
  have hchosen := hp.chosenPort?_eq
  rw [Option.filter_some_pos (by simpa using hne)] at hchosen
  rw [hc.resolve_eq, hchosen]
  dsimp only
  rw [h.endpoint hc]
  exact if_neg (by simpa [Json.isTruthy] using h.ip_ne_empty)

/-- **A plain container is resolved**, and to what follows from its declarations, its bindings and
its addresses. -/
theorem IsPlain.resolve_verdict (hc : c.IsPlain) (fallback : List String) :
    ∃ resolution, c.resolve fallback = .ok resolution ∧ c.Verdict fallback resolution := by
  cases hchosen : c.chosenPort? (Declaration.ofEntries c.entries).port fallback with
  | none =>
    refine ⟨.noPort, by rw [hc.resolve_eq, hchosen], .noPort fun p hp => ?_⟩
    simpa [hchosen, Option.filter_some] using hp.chosenPort?_eq
  | some p =>
    obtain ⟨hp, hne⟩ := picks_of_chosenPort? hchosen
    by_cases hleads : ∃ ip port, c.Leads p ip port
    · obtain ⟨ip, port, hl⟩ := hleads
      refine ⟨_, hc.resolve_of_leads hp hne hl, ?_⟩
      split
      · rename_i hvalid
        obtain ⟨hhost, -, hport⟩ := Route.isValid_iff_of_texts.1 hvalid
        exact .routed (.intro hp hne hl hport (Declaration.host_tracks.declares_iff.2 ⟨rfl, hhost⟩))
      · rename_i hvalid
        rw [Route.isValid_iff_of_texts] at hvalid
        refine .incomplete hp hne hl ?_
        by_cases hport : port = ""
        · exact .inl hport
        · refine .inr (Declaration.host_tracks.eq_empty_iff.1 ?_)
          by_contra hhost
          exact hvalid ⟨hhost, hl.ip_ne_empty, hport⟩
    · refine ⟨.noAddress, ?_, .noAddress hp hne hleads⟩
      rw [hc.resolve_eq, hchosen]
      dsimp only
      rw [hc.endpoint_of_not_leads hleads]
      rfl

/-- A container is resolved to a route or lacks something. -/
theorem Verdict.warrants_or_lacks (hc : c.IsPlain) {resolution : Resolution}
    (h : c.Verdict fallback resolution) :
    (∃ r, resolution.route? = some r ∧ c.Warrants fallback r) ∨
      resolution.route? = none ∧ c.Lacks fallback := by
  cases h with
  | noPort h => exact .inr ⟨rfl, .port h⟩
  | noAddress hp _ h => exact .inr ⟨rfl, .endpoint hp fun ip port hl => absurd ⟨ip, port, hl⟩ h⟩
  | incomplete hp _ h hlack =>
    refine .inr ⟨rfl, ?_⟩
    rcases hlack with hport | hhost
    · exact .endpoint hp fun ip port hl => (hl.unique hc h).2.trans hport
    · exact .host hhost
  | routed h => exact .inl ⟨_, rfl, h⟩

variable {resolution : Resolution} {r : Route}

/-- It is resolved to the route that it gets. -/
theorem Verdict.route?_eq_some_iff (hc : c.IsPlain) (h : c.Verdict fallback resolution) :
    resolution.route? = some r ↔ c.Warrants fallback r := by
  rcases h.warrants_or_lacks hc with ⟨r', hr', hw⟩ | ⟨hnone, hlacks⟩
  · rw [hr', Option.some_inj]
    exact ⟨fun heq => heq ▸ hw, fun hw' => hw.unique hc hw'⟩
  · exact iff_of_false (by simp [hnone]) fun hw => hw.not_lacks hlacks

/-- It is resolved to none if it lacks something. -/
theorem Verdict.route?_eq_none_iff (hc : c.IsPlain) (h : c.Verdict fallback resolution) :
    resolution.route? = none ↔ c.Lacks fallback := by
  rcases h.warrants_or_lacks hc with ⟨r, hr, hw⟩ | ⟨hnone, hlacks⟩
  · exact iff_of_false (by simp [hr]) hw.not_lacks
  · exact iff_of_true hnone hlacks

/-- **A plain container is resolved to the route that it gets**, and to none if it lacks something.
The address and the port of the route come from one endpoint: from a specific binding, or, on this
host and if the port has no such binding, from the container itself. -/
theorem route_follows_priorities (hc : c.IsPlain) (fallback : List String) :
    ∃ resolution, c.resolve fallback = .ok resolution ∧
      (∀ r, resolution.route? = some r ↔ c.Warrants fallback r) ∧
      (∀ r, resolution.route? = some r →
        r.host ≠ "" ∧ r.endpoint.ip ≠ .str "" ∧ r.endpoint.port ≠ .str "" ∧
          r.endpoint.containerName = c.name ∧
          ∃ p, c.Picks fallback p ∧
            ((∃ b ∈ c.bindings p, b.IsSpecific ∧ r.endpoint.ip = b.hostIp ∧
                r.endpoint.port = b.hostPort) ∨
              c.isRemote = false ∧ (∀ b ∈ c.bindings p, ¬ b.IsSpecific) ∧
                r.endpoint.ip ∈ c.addresses ∧ r.endpoint.port = .str p)) ∧
      (resolution.route? = none ↔ c.Lacks fallback) := by
  obtain ⟨resolution, hres, hverdict⟩ := hc.resolve_verdict fallback
  refine ⟨resolution, hres, fun r => hverdict.route?_eq_some_iff hc, fun r hr => ?_,
    hverdict.route?_eq_none_iff hc⟩
  obtain ⟨hp, -, hl, hport, hhost⟩ := (hverdict.route?_eq_some_iff hc).1 hr
  refine ⟨hhost.ne_empty, by simpa using hl.ip_ne_empty, by simpa using hport, rfl, _, hp, ?_⟩
  cases hl with
  | published h => exact .inl ⟨_, h.mem, h.holds, rfl, rfl⟩
  | own hnone hlocal h => exact .inr ⟨hlocal, hnone, h.mem, rfl⟩

/-- A container without an address on the bridge that is attached to three networks. -/
def adjoined : Container where
  id := .str "c0ffee000001aaaa"
  name := "web"
  env := [.str "VIRTUAL_HOST=old.example.com", .str " VIRTUAL_HOST = foo.example.com ",
    .str "VIRTUAL_HOST= "]
  ports := [("8080/tcp", [⟨.str "0.0.0.0", .str "32700"⟩])]
  networks := [("empty", .str ""), ("backend", .str "10.1.0.3"), ("frontend", .str "10.2.0.3")]

/-- It is routed to its first address in a network. -/
theorem route_follows_priorities_adjoined :
    adjoined.IsPlain ∧ ∃ resolution, adjoined.resolve ["80", "8080"] = .ok resolution ∧
      resolution.route? =
        some ⟨"foo.example.com", ⟨.str "10.1.0.3", .str "8080", "web"⟩⟩ := by
  have hc : adjoined.IsPlain :=
    { id := ⟨_, rfl⟩
      env := by simp [adjoined, IsText]
      ip := ⟨_, rfl⟩
      bindings := by simp [adjoined, IsText]
      networks := by simp [adjoined, IsText] }
  obtain ⟨resolution, hres, hroute, -⟩ := route_follows_priorities hc ["80", "8080"]
  refine ⟨hc, resolution, hres, (hroute _).2 (.intro (p := "8080") ?_ (by decide) ?_ (by decide) ?_)⟩
  · refine .exposed (Declaration.port_tracks.eq_empty_iff.1 (by decide +kernel)) ?_
    exact ⟨["80"], [], rfl, by decide +kernel, by decide +kernel⟩
  · refine .own (by decide +kernel) rfl ⟨[.str "", .str ""], [.str "10.2.0.3"], rfl, by decide, ?_⟩
    simp
  · exact Declaration.host_tracks.declares_iff.2 (by decide +kernel)

/-! ## Complete endpoints -/

/-- The endpoints of the container for a port that have both an address and a port, in the order in
which they count. -/
def completeEndpoints (c : Container) (p : String) : List (Json × Json) :=
  ((c.bindings p).filter fun b => b.IsSpecific ∧ b.hostPort ≠ .str "").map
      (fun b => (b.hostIp, b.hostPort)) ++
    if c.isRemote then [] else (c.addresses.filter (· ≠ .str "")).map fun ip => (ip, .str p)

/-- The endpoint that leads to a container is the first complete one if it has a port. -/
theorem Leads.head?_completeEndpoints (h : c.Leads p ip port) (hport : port ≠ "") :
    (c.completeEndpoints p).head? = some (.str ip, .str port) := by
  cases h with
  | published h =>
    have hfind : (c.bindings p).find? (fun b => b.IsSpecific ∧ b.hostPort ≠ .str "") =
        some ⟨.str ip, .str port⟩ := by
      obtain ⟨before, after, hpart, hb, hbefore⟩ := h
      rw [find?_eq_some_iff_isFirst fun b _ => decide_eq_true_iff]
      exact ⟨before, after, hpart, ⟨hb, by simpa using hport⟩, fun b hb hs => hbefore b hb hs.1⟩
    rw [completeEndpoints, List.head?_append, List.head?_map, List.head?_filter, hfind]
    rfl
  | own hnone hlocal h =>
    have hbindings : (c.bindings p).filter (fun b => b.IsSpecific ∧ b.hostPort ≠ .str "") = [] := by
      rw [List.filter_eq_nil_iff]
      exact fun b hb hs => hnone b hb (decide_eq_true_iff.1 hs).1
    have hfind : c.addresses.find? (· ≠ .str "") = some (.str ip) :=
      (find?_eq_some_iff_isFirst fun b _ => decide_eq_true_iff).2 h
    rw [completeEndpoints, hbindings, hlocal, List.map_nil, List.nil_append, if_neg (by simp),
      List.head?_map, List.head?_filter, hfind]
    rfl

/-- If nothing leads to a container, no endpoint is complete. -/
theorem IsPlain.completeEndpoints_eq_nil (hc : c.IsPlain) (h : ¬ ∃ ip port, c.Leads p ip port) :
    c.completeEndpoints p = [] := by
  rw [hc.exists_leads_iff, not_or] at h
  rw [completeEndpoints, List.append_eq_nil_iff, List.map_eq_nil_iff, List.filter_eq_nil_iff]
  refine ⟨fun b hb hs => h.1 ⟨b, hb, (decide_eq_true_iff.1 hs).1⟩, ?_⟩
  cases hlocal : c.isRemote with
  | true => rfl
  | false =>
    rw [if_neg (by simp), List.map_eq_nil_iff, List.filter_eq_nil_iff]
    exact fun v hv hne => h.2 ⟨hlocal, v, hv, decide_eq_true_iff.1 hne⟩

/-- A port that is picked is not empty if no fallback port is. -/
theorem Picks.ne_empty (hp : c.Picks fallback p) (h : ∀ q ∈ fallback, q ≠ "") : p ≠ "" := by
  cases hp with
  | declared hp => exact hp.ne_empty
  | exposed _ hp => exact h p hp.mem

/-- **A container with a host and a port is routed to the first complete endpoint**, if the first
binding to a specific address, where there is one, has a port. If that binding has none, the container
gets no route, whatever other endpoints it has. -/
theorem first_complete_endpoint_used (hc : c.IsPlain) (hports : ∀ q ∈ fallback, q ≠ "")
    (hhost : Declares c.entries hostName host) (hp : c.Picks fallback p) :
    ∃ resolution, c.resolve fallback = .ok resolution ∧
      ((∀ b, IsFirst Binding.IsSpecific (c.bindings p) b → b.hostPort ≠ .str "") →
        resolution.route? =
          (c.completeEndpoints p).head?.map fun e => ⟨host, ⟨e.1, e.2, c.name⟩⟩) ∧
      ((∃ b, IsFirst Binding.IsSpecific (c.bindings p) b ∧ b.hostPort = .str "") →
        resolution.route? = none) := by
  have hne := hp.ne_empty hports
  obtain ⟨resolution, hres, hverdict⟩ := hc.resolve_verdict fallback
  refine ⟨resolution, hres, fun hfirst => ?_, ?_⟩
  · by_cases hleads : ∃ ip port, c.Leads p ip port
    · obtain ⟨ip, port, hl⟩ := hleads
      have hport : port ≠ "" := by
        cases hl with
        | published h => simpa using hfirst _ h
        | own => exact hne
      rw [hl.head?_completeEndpoints hport]
      exact (hverdict.route?_eq_some_iff hc).2 (.intro hp hne hl hport hhost)
    · rw [hc.completeEndpoints_eq_nil hleads]
      exact (hverdict.route?_eq_none_iff hc).2
        (.endpoint hp fun ip port hl => absurd ⟨ip, port, hl⟩ hleads)
  · rintro ⟨b, hb, hempty⟩
    refine (hverdict.route?_eq_none_iff hc).2 (.endpoint hp fun ip port hl => ?_)
    cases hl with
    | published h =>
      cases h.unique hb
      simpa using hempty
    | own hnone => exact absurd hb.holds (hnone b hb.mem)

/-- A container with some complete endpoints and some others. -/
def moored : Container where
  id := .str "c0ffee000001aaaa"
  name := "web"
  env := [.str "VIRTUAL_HOST=foo.example.com", .str "VIRTUAL_PORT=8080"]
  ports := [("8080/tcp", [⟨.str "::", .str "32700"⟩, ⟨.str "10.0.0.5", .str "32768"⟩,
    ⟨.str "10.0.0.6", .str ""⟩])]
  ip := .str "172.17.0.2"

/-- Its second binding is the first of them. -/
theorem first_complete_endpoint_used_moored :
    moored.IsPlain ∧ Declares moored.entries hostName "foo.example.com" ∧
      moored.Picks ["80"] "8080" ∧
      moored.completeEndpoints "8080" =
        [(.str "10.0.0.5", .str "32768"), (.str "172.17.0.2", .str "8080")] ∧
      ∃ resolution, moored.resolve ["80"] = .ok resolution ∧
        resolution.route? =
          some ⟨"foo.example.com", ⟨.str "10.0.0.5", .str "32768", "web"⟩⟩ := by
  have hc : moored.IsPlain :=
    { id := ⟨_, rfl⟩
      env := by simp [moored, IsText]
      ip := ⟨_, rfl⟩
      bindings := by simp [moored, IsText]
      networks := by simp [moored] }
  have hhost : Declares moored.entries hostName "foo.example.com" :=
    Declaration.host_tracks.declares_iff.2 (by decide +kernel)
  have hp : moored.Picks ["80"] "8080" :=
    .declared (Declaration.port_tracks.declares_iff.2 (by decide +kernel))
  have hcomplete : moored.completeEndpoints "8080" =
      [(.str "10.0.0.5", .str "32768"), (.str "172.17.0.2", .str "8080")] := by decide +kernel
  obtain ⟨resolution, hres, hroute, -⟩ :=
    first_complete_endpoint_used hc (by decide) hhost hp
  refine ⟨hc, hhost, hp, hcomplete, resolution, hres, ?_⟩
  rw [hroute, hcomplete]
  · rfl
  · intro b hb
    have hfirst : IsFirst Binding.IsSpecific (moored.bindings "8080")
        ⟨.str "10.0.0.5", .str "32768"⟩ :=
      ⟨[⟨.str "::", .str "32700"⟩], [⟨.str "10.0.0.6", .str ""⟩], by decide +kernel,
        by decide +kernel, by decide +kernel⟩
    rw [hb.unique hfirst]
    decide

/-- A container that is bound to a specific address without a port. -/
def unported : Container where
  id := .str "c0ffee000001aaaa"
  name := "web"
  env := [.str "VIRTUAL_HOST=foo.example.com"]
  ports := [("8080/tcp", [⟨.str "10.0.0.5", .str ""⟩])]
  ip := .str "172.17.0.2"

/-- It has a complete endpoint for its port, and no route. -/
theorem unported_has_no_route :
    unported.IsPlain ∧ Declares unported.entries hostName "foo.example.com" ∧
      unported.Picks ["8080"] "8080" ∧
      unported.completeEndpoints "8080" = [(.str "172.17.0.2", .str "8080")] ∧
      unported.resolve ["8080"] = .ok .incomplete := by
  refine ⟨⟨⟨_, rfl⟩, by simp [unported, IsText], ⟨_, rfl⟩, by simp [unported, IsText],
    by simp [unported]⟩, Declaration.host_tracks.declares_iff.2 (by decide +kernel), ?_,
    by decide +kernel, by decide +kernel⟩
  refine .exposed (Declaration.port_tracks.eq_empty_iff.1 (by decide +kernel)) ?_
  exact ⟨[], [], rfl, by decide +kernel, by simp⟩

end Container

end HostRouting
