import HostRouting.Enumeration
import HostRouting.Settings

/-!
# The watcher

The watcher keeps the published table in step with the running containers. It connects to the
daemon, enumerates and publishes the routes, subscribes to the daemon's events, and enumerates
again whenever a container is started or stopped. Each call of `step` makes one transition between
three phases; after a failure the watcher waits before it tries again.
-/

namespace HostRouting

/-! ## Configuration and state -/

/-- Where the watcher is in its work. -/
inductive Phase where
  /-- There is no client. -/
  | disconnected
  /-- A table was published, but no events are received yet. -/
  | idle
  /-- Events are received. -/
  | watching
  deriving DecidableEq, Repr, Inhabited

/-- The name of a phase. -/
def Phase.name : Phase → String
  | disconnected => "disconnected"
  | idle => "connected_idle"
  | watching => "watching"

/-- The phase with a name. -/
def Phase.ofName? (s : String) : Option Phase :=
  [disconnected, idle, watching].find? fun p => p.name == s

/-- How the watcher works. -/
structure WatchConfig where
  ports : List String
  pingInterval : Interval
  reconnectInterval : Interval
  queueSize : Nat
  workers : Workers := {}

/-- The configuration as asked for, completed by the settings. A queue has room for one item at
least. -/
def WatchConfig.ofSettings (s : Settings) (ports : Option (List String))
    (ping reconnect : Option Interval) (queueSize : Option Int) : WatchConfig :=
  let asked := queueSize.getD 0
  { ports := ports.getD s.ports
    pingInterval := ping.getD (.seconds s.pingInterval)
    reconnectInterval := reconnect.getD (.seconds s.reconnectInterval)
    queueSize := (max 1 (if asked = 0 then s.eventQueueSize else asked)).toNat
    workers := { configured := s.inspectWorkers } }

/-- The state of the watcher itself. -/
structure Watcher where
  phase : Phase := .disconnected
  client? : Option ClientId := none
  queue? : Option QueueId := none
  subscribed : Bool := false
  deriving DecidableEq, Repr, Inhabited

/-- The watcher in its surroundings. -/
structure Machine (σ : Type) where
  watcher : Watcher := {}
  outside : Surroundings σ

namespace Watcher

variable {σ α : Type} (h : Host σ) (c : WatchConfig)

/-! ## Parts of the transitions -/

/-- A call to the surroundings. -/
def call (act : Act (Surroundings σ) α) : Act (Machine σ) α :=
  act.within Machine.outside fun s m => { m with outside := s }

/-- Reports an entry to the log. -/
def report (e : Log.Entry) : Act (Machine σ) Unit := call (h.report e)

/-- Reports a failure to the log. -/
def reportFault (level what : String) (f : Fault) : Act (Machine σ) Unit :=
  report h (.plain level (what ++ ": " ++ f.describe))

/-- The state of the watcher. -/
def state : Act (Machine σ) Watcher := Act.gets Machine.watcher

/-- Changes the state of the watcher. -/
def change (f : Watcher → Watcher) : Act (Machine σ) Unit :=
  Act.update fun m => { m with watcher := f m.watcher }

/-- Waits before the next attempt. -/
def backOff : Act (Machine σ) Unit := call (h.sleep c.reconnectInterval)

/-- Makes one enumeration pass and publishes its table; gives nothing if there is no client or the
pass failed. -/
def refresh : Act (Machine σ) (Option Table) := do
  match (← state).client? with
  | none => return none
  | some client =>
    match ← (call (h.enumerate c.ports c.workers client)).attempt with
    | .error f =>
      reportFault h "ERROR" "Error enumerating routes" f
      return none
    | .ok table =>
      report h (.plain "DEBUG" ("Publishing " ++ toString table.size ++ " route(s)"))
      call (h.publish table)
      return some table

/-- Takes the watcher's mailbox off its client, if it was registered there. -/
def unsubscribe : Act (Machine σ) Unit := do
  match ← state with
  | { client? := some client, queue? := some queue, subscribed := true, .. } =>
    match ← (call (h.removeListener client queue)).attempt with
    | .ok () => pure ()
    | .error f => reportFault h "DEBUG" "Error removing docker event listener" f
  | _ => pure ()

/-- Closes the client, if there is one. -/
def closeClient : Act (Machine σ) Unit := do
  match (← state).client? with
  | none => pure ()
  | some client =>
    match ← (call (h.close client)).attempt with
    | .ok () => pure ()
    | .error f => reportFault h "DEBUG" "Error closing docker client" f

/-- Gives up the client and the mailbox. -/
def dropClient : Act (Machine σ) Unit := do
  unsubscribe h
  closeClient h
  change fun w => { w with client? := none, queue? := none, subscribed := false }

/-- Asks whether the daemon is there; a client that fails is given up. -/
def ping (client : ClientId) : Act (Machine σ) Bool := do
  match ← (call (h.ping client)).attempt with
  | .ok () => return true
  | .error f =>
    reportFault h "ERROR" "Unable to ping docker daemon" f
    dropClient h
    backOff h c
    return false

/-! ## The transitions -/

/-- Connects, and publishes a first table. A pass that fails is reported, and the events are
subscribed to all the same. -/
def fromDisconnected : Act (Machine σ) Phase := do
  match ← (call h.connect).attempt with
  | .error f =>
    reportFault h "ERROR" "Unable to connect to docker daemon" f
    backOff h c
    return .disconnected
  | .ok client =>
    dropClient h
    let queue ← call (Surroundings.openMailbox c.queueSize)
    change fun w => { w with client? := some client, queue? := some queue, subscribed := false }
    report h (.plain "INFO" "Connected to docker daemon")
    let _ ← refresh h c
    return .idle

/-- Subscribes to the events. -/
def subscribe (client : ClientId) (queue : QueueId) : Act (Machine σ) Phase := do
  match ← (call (h.addListener client queue)).attempt with
  | .ok () | .error (.alreadySubscribed _) =>
    change fun w => { w with subscribed := true }
    report h (.plain "INFO" "Watching docker events")
    return .watching
  | .error f =>
    reportFault h "ERROR" "Error registering docker event listener" f
    backOff h c
    return .idle

/-- Subscribes to the events of a daemon that is there. -/
def fromIdle : Act (Machine σ) Phase := do
  match ← state with
  | { client? := some client, queue? := some queue, .. } =>
    if ← ping h c client then subscribe h c client queue else return .disconnected
  | _ => return .disconnected

/-- Deals with what came out of the mailbox: nothing, the end of the stream, or an event. -/
def receive : Option (Option Event) → Act (Machine σ) Phase
  | none => return .watching
  | some none => do
    report h (.plain "WARN" "Docker event stream closed, reconnecting")
    dropClient h
    return .disconnected
  | some (some e) => do
    if ← Act.ofExcept (e.status.isOneOf Event.lifecycle) then
      let short ← Act.ofExcept e.containerId.short
      report h (.aboutId "DEBUG" ("Received event " ++ e.status.display) short)
      let _ ← refresh h c
    return .watching

/-- Waits for an event, but not longer than till the next ping. -/
def fromWatching : Act (Machine σ) Phase := do
  match ← state with
  | { client? := some client, queue? := some queue, .. } =>
    if ← ping h c client then
      receive h c (← call (h.take queue c.pingInterval))
    else return .disconnected
  | _ => return .disconnected

/-- One transition; gives the new phase. -/
def step : Act (Machine σ) Phase := do
  let phase ← match (← state).phase with
    | .disconnected => fromDisconnected h c
    | .idle => fromIdle h c
    | .watching => fromWatching h c
  change fun w => { w with phase }
  return phase

/-! ## Running -/

/-- A transition whose failure is reported and followed by a wait. -/
def round : Act (Machine σ) Unit := do
  match ← (step h c).attempt with
  | .ok _ => pure ()
  | .error f =>
    reportFault h "ERROR" "Event watcher step failed" f
    backOff h c

/-- Makes transitions until a stop is requested, but not more than `rounds`; says whether the
request was seen. -/
def loop : (rounds : Nat) → Act (Machine σ) Bool
  | 0 => Act.gets fun m => m.outside.control.stopRequested
  | n + 1 => do
    if (← Act.read).outside.control.stopRequested then return true
    round h c
    loop n

/-- Works until a stop is requested and then gives everything up. Says whether that came about
within the given number of transitions. -/
def run (rounds : Nat) : Act (Machine σ) Bool := do
  report h (.plain "INFO" "Event watcher started")
  if ← loop h c rounds then
    dropClient h
    change fun w => { w with phase := .disconnected }
    report h (.plain "INFO" "Event watcher stopped")
    return true
  return false

end Watcher

end HostRouting
