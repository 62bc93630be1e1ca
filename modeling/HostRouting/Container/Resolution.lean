import HostRouting.Container
import HostRouting.Declaration
import HostRouting.Log.Entry

/-!
# The route of a container

How an inspected container becomes a route. The port is the declared one, or else the first
fallback port that the container exposes. The endpoint is the first binding of that port to one
specific address of the host; for a container on this host it is otherwise the address on the
bridge, or else the first address in a network.
-/

namespace HostRouting

/-- What becomes of a container. -/
inductive Resolution where
  /-- It has a route. -/
  | routed (route : Route)
  /-- No port is declared and no fallback port is exposed. -/
  | noPort
  /-- No address leads to the container. -/
  | noAddress
  /-- The route lacks its host or its port. -/
  | incomplete
  deriving DecidableEq, Repr

namespace Container

/-! ## The port -/

/-- The name under which a port is exposed for TCP. -/
def tcp (port : String) : String := port ++ "/tcp"

/-- The container exposes the port for TCP. -/
def exposes (c : Container) (port : String) : Bool :=
  c.ports.any fun p => p.1 == tcp port

/-- The port to route to: the declared one, or else the first fallback port that is exposed. -/
def chosenPort? (c : Container) (declared : String) (fallback : List String) : Option String :=
  let port := if declared ≠ "" then declared else (fallback.find? c.exposes).getD ""
  if port = "" then none else some port

/-! ## The endpoint -/

/-- The host addresses that stand for no specific endpoint. -/
def wildcards : List String := ["0.0.0.0", "::", ""]

/-- The first binding to a specific address. -/
def specificBinding? : List Binding → Except Fault (Option Binding)
  | [] => .ok none
  | b :: bs => do
    if ← b.hostIp.isOneOf wildcards then specificBinding? bs else return some b

/-- The bindings of a port for TCP. -/
def bindings (c : Container) (port : String) : List Binding :=
  (c.ports.lookup (tcp port)).getD []

/-- The first address in a network. -/
def networkAddress (c : Container) : Json :=
  ((c.networks.map Prod.snd).find? Json.isTruthy).getD (.str "")

/-- An address that is there or that a remote container has to do without; or else another one. -/
def orLocal (c : Container) (ip other : Json) : Json :=
  if ip.isTruthy || c.isRemote then ip else other

/-- The endpoint for a port, whose address may be missing. -/
def endpoint (c : Container) (port : String) : Except Fault (Json × Json) := do
  let (ip, port) ← match ← specificBinding? (c.bindings port) with
    | some b => pure (b.hostIp, b.hostPort)
    | none => pure (.str "", .str port)
  return (c.orLocal (c.orLocal ip c.ip) c.networkAddress, port)

/-! ## The route -/

/-- The resolution of a container. -/
def resolve (fallback : List String) (c : Container) : Except Fault Resolution := do
  let declared ← Declaration.ofValues {} c.env
  match c.chosenPort? declared.port fallback with
  | none => return .noPort
  | some port =>
    let (ip, port) ← c.endpoint port
    if !ip.isTruthy then
      return .noAddress
    let route := declared.route.withEndpoint [.ip ip, .port port, .containerName c.name]
    return if route.isValid then .routed route else .incomplete

end Container

namespace Resolution

/-- The route, if there is one. -/
def route? : Resolution → Option Route
  | routed r => some r
  | _ => none

/-- What is reported about a resolution. -/
def message? : Resolution → Option String
  | routed r => some ("Adding route " ++ r.host ++ " -> " ++ r.endpoint.ip.display ++ ":" ++
      r.endpoint.port.display)
  | noPort => some "Couldn't find a port to expose"
  | noAddress => some "Couldn't find an IP to access container"
  | incomplete => none

/-- The log entry about the resolution of a container. -/
def entry? (r : Resolution) (c : Container) : Except Fault (Option Log.Entry) :=
  match r.message? with
  | none => .ok none
  | some message => do return some (.about "DEBUG" message c.name (← c.shortId))

end Resolution

end HostRouting
