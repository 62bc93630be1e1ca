import HostRouting.Route

/-!
# Routing tables

A table holds routes by host key, each key once, in the order in which the keys came. A table made
of routes admits the valid ones, and the first route of a host wins.
-/

namespace HostRouting

/-- A routing table: entries by key, each key once. -/
structure Table where
  entries : List (String × Route)
  nodup : (entries.map Prod.fst).Nodup

namespace Table

/-! ## Looking up -/

/-- The table without entries. -/
def empty : Table := ⟨[], by simp⟩

instance : Inhabited Table := ⟨empty⟩

instance : EmptyCollection Table := ⟨empty⟩

/-- The keys in their order. -/
def keys (t : Table) : List String := t.entries.map Prod.fst

/-- The routes in the order of their keys. -/
def routes (t : Table) : List Route := t.entries.map Prod.snd

/-- The number of entries. -/
def size (t : Table) : Nat := t.entries.length

/-- The route under a key. -/
def get? (t : Table) (key : String) : Option Route := t.entries.lookup key

/-! ## Building -/

/-- Adds an entry unless its key is there already. -/
def insertNew (t : Table) (key : String) (r : Route) : Table :=
  if h : key ∈ t.entries.map Prod.fst then t
  else ⟨t.entries ++ [(key, r)], by
    simpa [List.nodup_append, t.nodup] using fun a x hx e => h (List.mem_map.2 ⟨(a, x), hx, e⟩)⟩

/-- Sets the entry of a key, which keeps its place if it is there. -/
def set (t : Table) (key : String) (r : Route) : Table :=
  if h : key ∈ t.entries.map Prod.fst then
    ⟨t.entries.map fun e => if e.1 = key then (key, r) else e, by
      have : (t.entries.map fun e => if e.1 = key then (key, r) else e).map Prod.fst
          = t.entries.map Prod.fst := by
        rw [List.map_map]
        refine List.map_congr_left fun e _ => ?_
        by_cases he : e.1 = key <;> simp [he]
      rw [this]
      exact t.nodup⟩
  else t.insertNew key r

/-- The table of a mapping from keys to routes, in the order of the pairs. -/
def ofMapping (pairs : List (String × Route)) : Table :=
  pairs.foldl (fun t p => t.set p.1 p.2) empty

/-- Admits a route: an invalid one is dropped, and so is one whose host is there already. -/
def accept (t : Table) (r : Route) : Table :=
  if r.isValid then t.insertNew r.host r else t

/-- The table of the valid routes among `rs`, the first for each host. -/
def ofRoutes (rs : List Route) : Table :=
  rs.foldl accept empty

/-- Admits a route that has to be valid; one that is not is reported. -/
def acceptValid (t : Table) (r : Route) : Except Fault Table :=
  if r.isValid then .ok (t.insertNew r.host r) else .error (.incompleteRoute r.shown)

/-- The table of routes that must all be valid; the first that is not is reported. -/
def ofValidRoutes (rs : List Route) : Except Fault Table :=
  rs.foldlM acceptValid empty

/-! ## Comparing and rendering -/

/-- Equality as mappings: the same keys with the same routes, in whatever order. -/
def same (t u : Table) : Bool :=
  t.size == u.size && t.entries.all fun e => u.get? e.1 == some e.2

/-- The entries in the order of their keys by code point. -/
def sorted (t : Table) : List (String × Route) :=
  t.entries.mergeSort fun a b => a.1 ≤ b.1

/-- The table as a JSON object, its keys in order. -/
def toJson (t : Table) : Json :=
  .obj (t.sorted.map fun e => (e.1, e.2.toJson))

/-- The table in the form in which messages show it. -/
def shown (t : Table) : String :=
  "Routes(\x7b" ++ Json.commaJoin (t.entries.map fun e => Text.quoted e.1 ++ ": " ++ e.2.shown) ++
    "\x7d)"

end Table

end HostRouting
