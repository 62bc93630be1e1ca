import HostRouting.Fault

/-!
# Routes

A route says at which endpoint the container behind a published host is reached. A route is valid
when it has a host, an address and a port. Addresses and ports are kept as the daemon reports them,
so they are JSON values; those of a well-formed report are texts.
-/

namespace HostRouting

/-- The endpoint behind a host, and the container that serves it. -/
structure Endpoint where
  ip : Json := .str ""
  port : Json := .str ""
  containerName : String := ""
  deriving DecidableEq, Repr, Inhabited

/-- A published host and its endpoint. -/
structure Route where
  host : String := ""
  endpoint : Endpoint := {}
  deriving DecidableEq, Repr, Inhabited

namespace Route

/-! ## Validity -/

/-- A route is valid when its host, address and port are all there. -/
def isValid (r : Route) : Bool :=
  r.host != "" && r.endpoint.ip.isTruthy && r.endpoint.port.isTruthy

/-! ## Changes -/

/-- A change of one field of an endpoint. -/
inductive Change where
  | ip (value : Json)
  | port (value : Json)
  | containerName (value : String)

/-- The endpoint after a change. -/
def Change.apply : Change → Endpoint → Endpoint
  | .ip v, e => { e with ip := v }
  | .port v, e => { e with port := v }
  | .containerName v, e => { e with containerName := v }

/-- The change of the field with the given name. -/
def Change.ofField (name value : String) : Except Fault Change :=
  if name = "ip" then .ok (.ip (.str value))
  else if name = "port" then .ok (.port (.str value))
  else if name = "container_name" then .ok (.containerName value)
  else .error (.unknownField name)

/-- The route with changes made to its endpoint, one after the other. -/
def withEndpoint (r : Route) (changes : List Change) : Route :=
  { r with endpoint := changes.foldl (fun e c => c.apply e) r.endpoint }

/-! ## Renderings -/

/-- The route as a JSON object. -/
def toJson (r : Route) : Json :=
  .obj [("host_key", .str r.host),
    ("upstream", .obj [("ip", r.endpoint.ip), ("port", r.endpoint.port),
      ("container_name", .str r.endpoint.containerName)])]

/-- The endpoint in the form in which messages show it. -/
def shownEndpoint (e : Endpoint) : String :=
  "Upstream(ip=" ++ e.ip.literal ++ ", port=" ++ e.port.literal ++
    ", container_name=" ++ Text.quoted e.containerName ++ ")"

/-- The route in the form in which messages show it. -/
def shown (r : Route) : String :=
  "Route(host_key=" ++ Text.quoted r.host ++ ", upstream=" ++ shownEndpoint r.endpoint ++ ")"

end Route

end HostRouting
