import HostRouting.Container.Resolution
import HostRouting.Host

/-!
# Enumerating the routes

One pass over the running containers gives a complete table. All containers are inspected first, a
few at a time, and then resolved in the order of the listing. A container that cannot be inspected
or has no route is skipped, and so is one whose host has a route already.
-/

namespace HostRouting

/-! ## How many at a time -/

/-- How many containers may be inspected at a time: as asked for, or as configured, where zero
means all of them. -/
structure Workers where
  asked : Option Int := none
  configured : Int := 0

/-- The number for a listing of `n` containers: at least one, and not more than there are. -/
def Workers.count (w : Workers) (n : Nat) : Nat :=
  let wanted := w.asked.getD (if w.configured = 0 then n else w.configured)
  (max 1 (min wanted n)).toNat

namespace Host

variable {σ : Type} (h : Host σ)

/-! ## Inspecting -/

/-- The container with an id; a failure to inspect it is reported and gives none. -/
def inspectOne (client : ClientId) (id : Json) : Act (Surroundings σ) (Option Container) := do
  match ← (h.inspect client id).attempt with
  | .ok c => return some c
  | .error f =>
    let short ← Act.ofExcept id.short
    h.report (.aboutId "ERROR" ("Failed inspecting container: " ++ f.describe) short)
    return none

/-- The results for all ids, `size` of them at a time. Whatever one gives, the others are inspected
as well. -/
def inspectAll (client : ClientId) (size : Nat) (ids : List Json) :
    Act (Surroundings σ) (List (Except Fault (Option Container))) :=
  match ids with
  | [] => return []
  | id :: rest => do
    let now ← (id :: rest.take (size - 1)).mapM fun id => (h.inspectOne client id).result
    return now ++ (← inspectAll client size (rest.drop (size - 1)))
termination_by ids.length
decreasing_by simp only [List.length_drop, List.length_cons]; omega

/-! ## Assembling -/

/-- The resolution of a container, reported to the log. -/
def resolveOne (ports : List String) (c : Container) : Act (Surroundings σ) (Option Route) := do
  let r ← Act.ofExcept (c.resolve ports)
  match ← Act.ofExcept (r.entry? c) with
  | some e => h.report e
  | none => pure ()
  return r.route?

/-- The entry about a container whose host has a route already. -/
def rivalEntry (host : String) (c : Container) : Except Fault Log.Entry := do
  return .about "WARN" ("Host " ++ host ++ " already routed, ignoring container") c.name (← c.shortId)

/-- The routes of the containers in their order, but for hosts that were seen before. -/
def assemble (ports : List String) (seen : List String) :
    List Container → Act (Surroundings σ) (List Route)
  | [] => return []
  | c :: cs => do
    match ← h.resolveOne ports c with
    | none => assemble ports seen cs
    | some r =>
      if r.host ∈ seen then
        h.report (← Act.ofExcept (rivalEntry r.host c))
        assemble ports seen cs
      else return r :: (← assemble ports (r.host :: seen) cs)

/-! ## The whole pass -/

/-- The table of the running containers. A failure to list them is a failure of the pass. -/
def enumerate (ports : List String) (workers : Workers) (client : ClientId) :
    Act (Surroundings σ) Table := do
  let ids ← h.list client
  let results ← h.inspectAll client (workers.count ids.length) ids
  let inspected ← results.mapM Act.ofExcept
  return .ofRoutes (← h.assemble ports [] (inspected.filterMap id))

end Host

end HostRouting
