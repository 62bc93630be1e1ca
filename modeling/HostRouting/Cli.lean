import HostRouting.Cli.Invocation
import HostRouting.Json.Printer
import HostRouting.Watcher

/-!
# The command line program

What the program does when it is invoked: it asks the service and prints the answer, or it watches
the daemon until the user interrupts it.
-/

namespace HostRouting.Cli

/-! ## Asking the service -/

/-- A request to the service. -/
structure Request where
  url : String
  params? : Option (List (String × String)) := none
  /-- How long to wait for a reply, in seconds. -/
  timeout : Nat := 10
  deriving DecidableEq, Repr

/-- The reply of the service. -/
structure Reply where
  status : Nat
  body : Json

/-- An address without the slashes at its end. -/
def baseUrl (api : String) : String :=
  String.ofList (api.toList.reverse.dropWhile (· == '/')).reverse

/-- The text of a limit in a request. -/
def limitText : Option Int → String
  | some n => toString n
  | none => "[]"

/-- The address that is asked; one that is missing cannot be. -/
def Invocation.api (i : Invocation) : Except Fault String :=
  match i.api? with
  | some api => .ok api
  | none => .error (.noMember "list" "rstrip")

/-- The request of a command; watching asks nobody. -/
def request? (api : String) : Command → Option Request
  | .routes => some { url := baseUrl api ++ "/routes" }
  | .route host => some { url := baseUrl api ++ "/routes/" ++ host }
  | .events limit =>
    some { url := baseUrl api ++ "/events", params? := some [("limit", limitText limit)] }
  | .watch _ => none

/-- The reply to a request for one route tells whether there is one. -/
def Command.status (c : Command) (r : Reply) : Nat :=
  match c with
  | .route _ => if r.status < 400 then 0 else 1
  | _ => 0

/-- What is printed for a reply. -/
def printed (r : Reply) : String := r.body.pretty ++ "\n"

/-! ## Watching the daemon -/

section Watch

variable {σ : Type}

/-- The ports that options give; missing ones cannot be tried. -/
def WatchOptions.ports (o : WatchOptions) : Except Fault (List String) :=
  match o.ports? with
  | some ports => .ok ports
  | none => .error (.noMember "list" "split")

/-- The configuration of a watcher with the given options. -/
def watchConfig (s : Settings) (o : WatchOptions) : Except Fault WatchConfig := do
  return .ofSettings s (some (← o.ports)) (some o.pingInterval) (some o.reconnectInterval) none

/-- Asks the watcher to stop. -/
def requestStop : Act (Machine σ) Unit :=
  Act.update fun m => { m with outside := { m.outside with control := m.outside.control.stop } }

/-- Watches the daemon until the watcher stops or the user interrupts it. The level of the log must
be known, and the event log must be there; `openLog` makes sure of that. -/
def watch (h : Host σ) (openLog : Act (Surroundings σ) Unit) (s : Settings) (o : WatchOptions)
    (rounds : Nat) : Act (Machine σ) Nat := do
  let _ ← Act.ofExcept (Log.threshold o.logLevel? s.logLevel)
  Watcher.call openLog
  let c ← Act.ofExcept (watchConfig s o)
  match ← (Watcher.run h c rounds).result with
  | .ok _ => return 0
  | .error (.interrupt _) =>
    requestStop
    return 0
  | .error f => Act.fail f

end Watch

end HostRouting.Cli
