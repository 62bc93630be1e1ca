import HostRouting.Json.Access

/-!
# Events of the daemon

What the daemon tells about a container, such as that it was started. The daemon has two ways to
write an event; both are read.
-/

namespace HostRouting

/-- A change of a container. -/
structure Event where
  status : Json
  containerId : Json
  deriving DecidableEq, Repr, Inhabited

namespace Event

/-- The statuses after which the table of routes may be another one. -/
def lifecycle : List String := ["start", "stop", "die"]

/-- The id of the container that a message is about. -/
def containerIdOf (message : Json) : Except Fault Json := do
  let id ← message.field "id"
  if id.isTruthy then
    return id
  return (← ((← message.field "Actor").orElse (.obj [])).field "ID").orElse (.str "")

/-- The event of a message from the daemon. A message about something else than a container, or
without a status, is no event. -/
def ofMessage (message : Json) : Except Fault (Option Event) := do
  let kind ← message.field "Type"
  if kind ≠ .null ∧ kind ≠ .str "container" then
    return none
  let status := (← message.field "status").orElse ((← message.field "Action").orElse (.str ""))
  let containerId ← containerIdOf message
  return if status.isTruthy then some ⟨status, containerId⟩ else none

end Event

end HostRouting
