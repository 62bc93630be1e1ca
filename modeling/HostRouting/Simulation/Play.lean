import HostRouting.Fleet.Host
import HostRouting.Json.Printer
import HostRouting.Simulation.World

/-!
# Playing a script

How the simulated daemon answers. A call is recorded first; if it takes its time, the next list of
actions of the script is performed, or the ending when the script is used up; then the call fails if
a fault is armed for it.
-/

namespace HostRouting.Simulation.Scene

/-! ## What happens to the latest client -/

/-- A message comes in for the listeners of a client to which the daemon talks directly. -/
def feedDirect (c : ClientId) : Json → Act Scene Unit
  | .null => Act.update (Harbour.announceEnd report c)
  | message => Harbour.receive report c message

/-- A message comes in on the latest stream of a client. -/
def feedStream (c : ClientId) (message : Json) : Act Scene Unit := do
  match (← Act.read).latestStream? c with
  | none => pure ()
  | some stream => match message with
    | .null => Act.update (Harbour.finish report stream none)
    | message => Act.update (Harbour.feed report stream message)

/-- A message comes in for the latest client, if there is one. -/
def feed (message : Json) : Act Scene Unit := do
  let s ← Act.read
  match s.latestClient? with
  | none => pure ()
  | some c => match s.world.kind with
    | .direct => feedDirect c message
    | .streaming => feedStream c message

/-- The latest stream of the latest client breaks. -/
def breakStream (f : Fault) (s : Scene) : Scene :=
  match s.latestClient?.bind s.latestStream? with
  | none => s
  | some stream => Harbour.finish report stream (some f) s

/-! ## Actions -/

/-- Sets or removes the value of a key. -/
def setKey {κ α : Type} [BEq κ] (key : κ) (value : Option α) (entries : List (κ × α)) :
    List (κ × α) :=
  let others := entries.filter fun e => !(e.1 == key)
  match value with
  | some v => (key, v) :: others
  | none => others

/-- Changes the request to stop and the watcher's thread. -/
def steer (f : Control → Control) (s : Scene) : Scene := { s with control := f s.control }

/-- Performs an action. -/
def perform : Action → Act Scene Unit
  | .containers running => Act.update (change fun w => { w with running })
  | .listing entries => Act.update (change fun w => { w with listing := entries })
  | .arm call fault =>
    Act.update (change fun w => { w with faults := setKey call fault w.faults })
  | .armInspection id fault =>
    Act.update (change fun w => { w with inspectionFaults := setKey id fault w.inspectionFaults })
  | .pingAnswer answer => Act.update (change fun w => { w with pingAnswer := answer })
  | .emit messages => messages.forM feed
  | .breakStream fault => Act.update (breakStream fault)
  | .start => Act.update (steer Control.start)
  | .stop => Act.update (steer Control.stop)
  | .raise fault => Act.fail fault

/-! ## Calls -/

/-- What happens when the script is used up. -/
def performEnding : Ending → Act Scene Unit
  | .stop => Act.update (steer Control.stop)
  | .interrupt => Act.fail (.interrupt "")

/-- The script goes on. -/
def advance : Act Scene Unit := do
  let w := (← Act.read).world
  match w.script with
  | none => pure ()
  | some [] => performEnding w.ending
  | some (actions :: rest) =>
    Act.update (change fun w => { w with script := some rest })
    actions.forM perform

/-- The fault that is armed for a call. -/
def failIfArmed (call : Call) : Act Scene Unit := do
  match (← Act.read).world.faults.lookup call with
  | some f => Act.fail f
  | none => pure ()

/-- A call that is written into the journal in the given way. -/
def callAs (item : Item) (call : Call) : Act Scene Unit := do
  Act.update (note item)
  if call.takesTime then advance
  failIfArmed call

/-- A call. -/
def call (c : Call) : Act Scene Unit := callAs (.called c) c

/-! ## Inspecting and listing -/

/-- The entries of the running containers. -/
def entries (w : World) : List Json :=
  w.listing.getD (w.running.map fun x => .obj [("Id", x.id)])

/-- The container with an id. Lists and objects are no ids at all. -/
def specimen (id : Json) : Act Scene Specimen := do
  let w := (← Act.read).world
  match id with
  | .arr _ | .obj _ => Act.fail (.notKey id.typeName)
  | id => match id.text?.bind fun s => w.inspectionFaults.lookup s with
    | some f => Act.fail f
    | none => match w.running.find? fun x => x.id == id with
      | some x => return x
      | none => Act.fail (.unknownContainer id)

/-- The simulated daemon. -/
def daemon : Daemon Scene where
  containers _ := do
    call .list
    return entries (← Act.read).world
  inspect _ id := do Act.ofExcept (← specimen id).report
  ping _ := do
    call .ping
    return (← Act.read).world.pingAnswer
  openStream _ := call .openStream
  -- the simulated stream is over even if closing it is made to fail
  closeStream _ stream := do
    Act.update (Harbour.endReading stream)
    call .closeStream
  close _ := call .close

/-! ## Waiting and publishing -/

/-- Waits for some time, or until the watcher is asked to stop. -/
def sleep (time : Interval) : Act Scene Unit := do
  let s ← Act.read
  if s.world.recordsSleep then
    callAs (.slept time) .sleep
  else unless s.control.stopRequested do
    match time with
    | .missing => Act.fail (.incomparable ">")
    | .seconds x =>
      if x.exceeds Interval.longest then
        Act.fail .endlessWait

/-- Puts a table on the board. -/
def post (t : Table) : Scene → Scene :=
  change fun w => { w with board := w.board.publish w.now t }

/-- Prints a table. -/
def print (t : Table) : Scene → Scene :=
  change fun w => { w with printed := w.printed ++ [t.toJson.pretty] }

/-- Hands a table to the consumer. -/
def publish (t : Table) : Act Scene Unit := do
  match (← Act.read).world.consumer with
  | .recordedBoard =>
    callAs (.published t) .publish
    Act.update (post t)
  | .board => Act.update (post t)
  | .printer => Act.update (print t)
  | .nobody => pure ()

/-! ## Hosts -/

/-- The calls of a watcher whose clients read streams. -/
def streamingHost : Host (Fleet World) :=
  Harbour.host daemon (call .connect) sleep publish report

/-- Registers a listener to which the daemon talks directly. -/
def addDirect (c : ClientId) (q : QueueId) : Act Scene Unit := do
  call .addListener
  if q ∈ ((← Act.read).hub c).listeners then
    Act.fail (.alreadySubscribed "")
  Act.update (Harbour.changeHub c fun hub => { hub with listeners := hub.listeners ++ [q] })

/-- Takes off a listener to which the daemon talks directly. -/
def removeDirect (c : ClientId) (q : QueueId) : Act Scene Unit := do
  Act.update (Harbour.changeHub c fun hub =>
    { hub with listeners := hub.listeners.filter (· ≠ q) })
  call .removeListener

/-- The calls of a watcher to whose clients the daemon talks directly. -/
def directHost : Host (Fleet World) :=
  { streamingHost with
    inspect := fun _ id => do Act.ofExcept (← specimen id).container
    ping := fun _ => call .ping
    addListener := addDirect
    removeListener := removeDirect
    close := fun _ => call .close }

/-- The calls of a watcher in a world with clients of a kind. -/
def host : ClientKind → Host (Fleet World)
  | .direct => directHost
  | .streaming => streamingHost

end HostRouting.Simulation.Scene
