import HostRouting.Api.Resource
import HostRouting.Api.Limit
import HostRouting.Api.Query
import HostRouting.Board
import HostRouting.EventLog
import HostRouting.Watcher

/-!
# The HTTP API

The read-only view of the published table, of the watcher's phase and of the event log.
-/

namespace HostRouting.Api

/-- A request. -/
structure Request where
  method : String := "GET"
  /-- The host that is asked, for redirections. -/
  host : String
  path : String
  query : String := ""

/-- A response. -/
structure Response where
  status : Nat
  location? : Option String := none
  body : Json

/-! ## Refusals -/

/-- The response that says only why there is no other one. -/
def detail (status : Nat) (text : String) : Response :=
  { status, body := .obj [("detail", .str text)] }

/-- There is nothing at the path. -/
def notFound : Response := detail 404 "Not Found"

/-- The resource cannot be asked in this way. -/
def methodNotAllowed : Response := detail 405 "Method Not Allowed"

/-- No route has the key. -/
def noRoute (key : String) : Response := detail 404 ("No route for host '" ++ key ++ "'.")

/-- The limit is refused. -/
def refuseLimit (r : LimitRefusal) : Response :=
  { status := 422
    body := .obj [("detail", .arr [.obj [("type", .str r.kind),
      ("loc", .arr [.str "query", .str "limit"]), ("msg", .str r.message)]])] }

/-! ## Answers -/

/-- A text, or nothing. -/
def optional : Option String → Json
  | some s => .str s
  | none => .null

/-- A route as the API shows it; address and port must be texts. -/
def routeBody (r : Route) : Except Fault Json :=
  let parts := [("ip", r.endpoint.ip), ("port", r.endpoint.port)].filter fun p => p.2.text?.isNone
  if parts.isEmpty then .ok r.toJson else .error (.unanswerable parts)

/-- The table as the API shows it: the table, its number and its time are read from the board one
after the other. -/
def routesBody (current numbered timed : Board) : Except Fault Json := do
  let routes ← current.table.sorted.mapM fun e => routeBody e.2
  return .obj [("generation", .int numbered.generation), ("updated_at", optional timed.updatedAt),
    ("routes", .arr routes)]

/-- The state of the service as the API shows it. -/
def healthBody (b : Board) (phase? : Option Phase) : Json :=
  .obj [("status", .str "healthy"), ("generation", .int b.generation),
    ("watcher", optional (phase?.map Phase.name))]

/-- A row of the event log as the API shows it. -/
def rowBody (r : EventLog.Row) : Json :=
  .obj [("id", .int r.id), ("ts", .str r.time), ("level", .str r.level),
    ("container_name", optional r.containerName), ("container_id", optional r.containerId),
    ("message", .str r.message)]

/-- The latest rows of the event log. -/
def eventsResponse (query : String) : Act EventLog Response := do
  match ((parameter? "limit" query).map limit).getD (.ok defaultLimit) with
  | .error r => return refuseLimit r
  | .ok n => return { status := 200, body := .arr ((← EventLog.latest n).map rowBody) }

/-- The response to a request for a resource. -/
def answer (b : Board) (phase? : Option Phase) (query : String) : Resource → Act EventLog Response
  | .health => return { status := 200, body := healthBody b phase? }
  | .routes => do return { status := 200, body := ← Act.ofExcept (routesBody b b b) }
  | .route key => match b.get? key with
    | none => return noRoute key
    | some r => do return { status := 200, body := ← Act.ofExcept (routeBody r) }
  | .events => eventsResponse query

/-- The response to a request, while the board shows `b` and the watcher, if there is one, is in the
given phase. -/
def respond (b : Board) (phase? : Option Phase) (r : Request) : Act EventLog Response :=
  match Resource.ofPath? r.path with
  | some e => if r.method = "GET" then answer b phase? r.query e else return methodNotAllowed
  | none => match redirection? r.host r.path r.query with
    | some location => return { status := 307, location? := some location, body := .null }
    | none => return notFound

end HostRouting.Api
