import HostRouting.Proofs.Admission
import HostRouting.Proofs.Glimpse

/-!
# The views of the published table

The published table can be seen in three ways: rendered as a whole, as a list of routes, and route by
route under its key. As long as nothing is published in between the three show the same. A table that
was published before is not seen in any of them.
-/

namespace HostRouting

open Container (IsText)

/-! ## Tables that can be shown -/

/-- The address and the port of a route are texts. -/
structure Route.IsPlain (r : Route) : Prop where
  ip : IsText r.endpoint.ip
  port : IsText r.endpoint.port

/-- A rendered route tells its host. -/
theorem Route.field_toJson (r : Route) : r.toJson.field "host_key" = .ok (.str r.host) := rfl

namespace Table

variable {t : Table} {rs : List Route} {k : String} {body : Json}

/-- Each route of the table stands under its own host, and it can be shown. -/
def IsPlain (t : Table) : Prop := ∀ e ∈ t.entries, e.1 = e.2.host ∧ e.2.IsPlain

theorem empty_isPlain : empty.IsPlain := by
  intro e he
  cases he

/-- A table of plain routes is plain. -/
theorem ofRoutes_isPlain (h : ∀ r ∈ rs, r.IsPlain) : (ofRoutes rs).IsPlain := by
  intro e he
  refine ⟨(host_of_mem_ofRoutes he).1, ?_⟩
  have hroute : e.2 ∈ (ofRoutes rs).routes := List.mem_map_of_mem he
  rw [routes_ofRoutes] at hroute
  apply h
  exact (List.mem_filter.1 (mem_of_mem_firsts hroute)).1

theorem IsPlain.of_get? (h : t.IsPlain) {r : Route} (hr : t.get? k = some r) :
    k = r.host ∧ r.IsPlain :=
  h (k, r) (get?_eq_some_iff.1 hr)

/-- The routes of a list are those that the table gives for some key. -/
theorem mem_listing_iff {r : Route} : r ∈ t.listing ↔ ∃ k, t.get? k = some r := by
  unfold listing
  rw [List.mem_map]
  constructor
  · rintro ⟨⟨k, r⟩, he, rfl⟩
    exact ⟨k, get?_eq_some_iff.2 (t.sorted_perm.mem_iff.1 he)⟩
  · rintro ⟨k, hr⟩
    exact ⟨(k, r), t.sorted_perm.mem_iff.2 (get?_eq_some_iff.1 hr), rfl⟩

/-- The list shows for a key just the route that the table gives for it. -/
theorem IsPlain.shown_iff (h : t.IsPlain) :
    (body ∈ t.listing.map Route.toJson ∧ body.field "host_key" = .ok (.str k)) ↔
      ∃ r, t.get? k = some r ∧ body = r.toJson := by
  constructor
  · rintro ⟨hbody, hkey⟩
    obtain ⟨r, hr, rfl⟩ := List.mem_map.1 hbody
    obtain ⟨l, hl⟩ := mem_listing_iff.1 hr
    rw [r.field_toJson] at hkey
    obtain rfl : r.host = k := Json.str.inj (Except.ok.inj hkey)
    obtain rfl : l = r.host := (h.of_get? hl).1
    exact ⟨r, hl, rfl⟩
  · rintro ⟨r, hr, rfl⟩
    refine ⟨List.mem_map_of_mem (mem_listing_iff.2 ⟨k, hr⟩), ?_⟩
    rw [r.field_toJson, (h.of_get? hr).1]

/-- A route that is shown is one of the table. -/
theorem IsPlain.mem_of_shown (h : t.IsPlain) {r : Route}
    (hr : r.toJson ∈ t.listing.map Route.toJson) : (r.host, r) ∈ t.entries := by
  obtain ⟨r', hr', hsame⟩ := List.mem_map.1 hr
  obtain rfl := Route.toJson_injective hsame
  obtain ⟨k, hk⟩ := mem_listing_iff.1 hr'
  obtain rfl : k = r'.host := (h.of_get? hk).1
  exact get?_eq_some_iff.1 hk

end Table

/-! ## Publishing lists of routes -/

namespace Board

/-- The board after tables of routes were published, each at its time. -/
def ofLists (lists : List (String × List Route)) : Board :=
  after (lists.map fun p => (p.1, Table.ofRoutes p.2))

/-- The last one is shown. -/
theorem ofLists_concat (lists : List (String × List Route)) (now : String) (rs : List Route) :
    ofLists (lists ++ [(now, rs)]) = (ofLists lists).publish now (Table.ofRoutes rs) := by
  rw [ofLists, List.map_append]
  exact after_concat ..

/-- Whatever was published can be shown. -/
theorem ofLists_isPlain {lists : List (String × List Route)}
    (h : ∀ p ∈ lists, ∀ r ∈ p.2, r.IsPlain) : (ofLists lists).table.IsPlain := by
  rcases List.eq_nil_or_concat lists with rfl | ⟨earlier, ⟨now, rs⟩, rfl⟩
  · exact Table.empty_isPlain
  · rw [List.concat_eq_append, ofLists_concat]
    apply Table.ofRoutes_isPlain
    exact h (now, rs) (by simp)

end Board

/-! ## The answers -/

namespace Api

variable {b : Board} {r : Route} {k : String}

/-- A plain route can be shown. -/
theorem routeBody_of_isPlain (h : r.IsPlain) : routeBody r = .ok r.toJson := by
  obtain ⟨ip, hip⟩ := h.ip
  obtain ⟨port, hport⟩ := h.port
  simp [routeBody, hip, hport, Json.text?]

variable (phase? : Option Phase) (query : String) (log : EventLog)

/-- The answer to who asks for all routes. -/
theorem outcome_answer_routes (h : b.table.IsPlain) :
    (answer b phase? query .routes).outcome log =
      (.ok { status := 200, body := routesAnswer b.generation b.updatedAt b.table.listing },
        log) := by
  have hlisted : ∀ r ∈ b.table.listing, r.IsPlain := by
    intro r hr
    obtain ⟨k, hk⟩ := Table.mem_listing_iff.1 hr
    exact (h.of_get? hk).2
  have hbodies : b.table.listing.mapM routeBody = .ok (b.table.listing.map Route.toJson) :=
    mapM_eq_map fun r hr => routeBody_of_isPlain (hlisted r hr)
  have hbody : routesBody b b b =
      .ok (routesAnswer b.generation b.updatedAt b.table.listing) :=
    routesBody_eq_ok_iff.2 ⟨⟨_, hbodies⟩, rfl⟩
  rw [answer, hbody]
  rfl

/-- The answer to who asks for the route under a key that is there. -/
theorem outcome_answer_route_some (hk : b.get? k = some r) (hr : r.IsPlain) :
    (answer b phase? query (.route k)).outcome log =
      (.ok { status := 200, body := r.toJson }, log) := by
  simp only [answer, hk, routeBody_of_isPlain hr]
  rfl

/-- The answer to who asks for one that is not. -/
theorem outcome_answer_route_none (hk : b.get? k = none) :
    (answer b phase? query (.route k)).outcome log = (.ok (noRoute k), log) := by
  simp [answer, hk]

/-- That there is no route is no answer with a route. -/
theorem noRoute_ne (k : String) (body : Json) :
    noRoute k ≠ { status := 200, body } := by
  simp [noRoute, detail]

/-- What is answered for a key is the entry of the list with this host, or that there is none. -/
theorem exists_answer_route (h : b.table.IsPlain) (k : String) :
    ∃ response, (answer b phase? query (.route k)).outcome log = (.ok response, log) ∧
      (∀ body, response = { status := 200, body } ↔
        body ∈ b.table.listing.map Route.toJson ∧ body.field "host_key" = .ok (.str k)) ∧
      (response = noRoute k ↔
        ∀ body ∈ b.table.listing.map Route.toJson, body.field "host_key" ≠ .ok (.str k)) := by
  cases hk : b.get? k with
  | none =>
    have hunlisted : ∀ body ∈ b.table.listing.map Route.toJson,
        body.field "host_key" ≠ .ok (.str k) := by
      intro body hbody hkey
      obtain ⟨r, hr, -⟩ := h.shown_iff.1 ⟨hbody, hkey⟩
      exact absurd (hk.symm.trans hr) (by simp)
    refine ⟨_, outcome_answer_route_none phase? query log hk, ?_, iff_of_true rfl hunlisted⟩
    intro body
    refine iff_of_false (noRoute_ne k body) ?_
    rintro ⟨hbody, hkey⟩
    exact hunlisted body hbody hkey
  | some r =>
    have hlisted := h.shown_iff.2 ⟨r, hk, rfl⟩
    refine ⟨_, outcome_answer_route_some phase? query log hk (h.of_get? hk).2, ?_, ?_⟩
    · intro body
      rw [h.shown_iff]
      constructor
      · intro hbody
        exact ⟨r, hk, by simpa using hbody.symm⟩
      · rintro ⟨r', hr', rfl⟩
        rw [Option.some.inj (hk.symm.trans hr')]
    · refine iff_of_false (noRoute_ne k _).symm ?_
      intro hnone
      exact hnone _ hlisted.1 hlisted.2

/-- A route to a port of an address. -/
def toAddress (host ip : String) : Route := ⟨host, ⟨.str ip, .str "80", "web"⟩⟩

theorem toAddress_isPlain (host ip : String) : (toAddress host ip).IsPlain :=
  ⟨⟨ip, rfl⟩, "80", rfl⟩

/-- Two routes, and then another two, one of them for the same host. -/
def succession : List (String × List Route) :=
  [("2024-05-01T10:00:00Z", [toAddress "b" "10.0.0.2", toAddress "a" "10.0.0.3"]),
    ("2024-05-01T10:00:05Z", [toAddress "c" "10.0.0.4", toAddress "b" "10.0.0.5"])]

end Api

end HostRouting
