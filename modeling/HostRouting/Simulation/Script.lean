import HostRouting.Cli
import HostRouting.Simulation.World

/-!
# Reading scripts

How the containers, the faults and the actions of a simulated world are written in JSON. A part that
is missing or of another type counts as its default.
-/

namespace HostRouting.Simulation.Script

/-! ## Parts of a value -/

/-- The field of an object; `null` if there is none. -/
def part (v : Json) (key : String) : Json :=
  match v with
  | .obj fields => Json.lookup key fields
  | _ => .null

/-- The items of a list. -/
def listed : Json → List Json
  | .arr items => items
  | _ => []

/-- A text, or else the default. -/
def textOr (default : String) (v : Json) : String := v.text?.getD default

/-- A value, or else the default for `null`. -/
def valueOr (default : Json) : Json → Json
  | .null => default
  | v => v

/-- The fields of a list of pairs of keys and values. -/
def paired (v : Json) : List (String × Json) :=
  ((listed v).map fun p => match p with
    | .arr (.str key :: value :: _) => (key, value)
    | _ => ("", .null)).foldl (fun acc f => Json.setField f.1 f.2 acc) []

/-! ## Faults and containers -/

/-- The fault of a kind with a message. -/
def faultOf (kind message : String) : Fault :=
  if kind = "AlreadySubscribed" then .alreadySubscribed message
  else if kind = "KeyboardInterrupt" then .interrupt message
  else .reported kind message

/-- The fault that is written as a pair of kind and message. -/
def fault? : Json → Option Fault
  | .arr [.str kind, .str message] => some (faultOf kind message)
  | _ => none

/-- The fault that is written, whatever it is. -/
def fault (v : Json) : Fault := (fault? v).getD (.reported "RuntimeError" "")

/-- The binding that is written as a pair of address and port. -/
def binding : Json → Binding
  | .arr [hostIp, hostPort] => { hostIp, hostPort }
  | _ => { hostIp := .null, hostPort := .null }

/-- The container that is described. -/
def container (v : Json) : Container :=
  { id := valueOr (.str "c0ffee000001aaaa") (part v "id")
    name := textOr "web" (part v "name")
    env := listed (part v "env")
    ports := (paired (part v "ports")).map fun p => (p.1, (listed p.2).map binding)
    ip := valueOr (.str "") (part v "ip")
    networks := paired (part v "networks")
    isRemote := (part v "remote").isTruthy }

/-- The container that is reported or described. -/
def specimen (v : Json) : Specimen :=
  match v with
  | .obj fields => if fields.any fun f => f.1 == "payload" then .reported (part v "payload")
      else .described (container v)
  | v => .described (container v)

/-! ## Actions -/

/-- The entries that listing shall give; `null` for those of the running containers. -/
def entries? : Json → Option (List Json)
  | .arr items => some items
  | _ => none

/-- The action that is written; nothing for a word that is none. -/
def action? (v : Json) : Option Action :=
  match part v "do" with
  | .str "containers" => some (.containers ((listed (part v "containers")).map specimen))
  | .str "listing" => some (.listing (entries? (part v "entries")))
  | .str "fail" => (Call.ofName? (textOr "" (part v "on"))).map fun call =>
      .arm call (fault? (part v "error"))
  | .str "inspect_fail" =>
    some (.armInspection (textOr "" (part v "id")) (fault? (part v "error")))
  | .str "notify_fail" => some (.arm .publish (fault? (part v "error")))
  | .str "ping_value" => some (.pingAnswer (part v "value"))
  | .str "emit" => some (.emit (listed (part v "events")))
  | .str "stream_fail" => some (.breakStream (fault (part v "error")))
  | .str "start" => some .start
  | .str "stop" => some .stop
  | .str "raise" => some (.raise (fault (part v "error")))
  | _ => none

/-- The script that is written as a list of lists of actions. -/
def script (v : Json) : List (List Action) := (listed v).map fun call => (listed call).filterMap action?

/-! ## Replies -/

/-- A status. -/
def statusOr (default : Nat) : Json → Nat
  | .int n => n.toNat
  | _ => default

/-- The reply that is written, or the fault that takes its place. -/
def reply (v : Json) : Except Fault Cli.Reply :=
  match fault? (part v "raise") with
  | some f => .error f
  | none => .ok { status := statusOr 200 (part v "status"), body := part v "body" }

end HostRouting.Simulation.Script
