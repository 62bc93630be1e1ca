import HostRouting.Daemon

/-!
# The fleet of clients

Every connection makes a client. A client reads the daemon's stream of events once and hands each
event to all its listeners: the stream is opened for the first listener and closed after the last
one. A client that is closed has no listeners and holds no stream any more.
-/

namespace HostRouting

/-- The listeners of a client, and the stream that it holds. -/
structure Hub where
  listeners : List QueueId := []
  stream? : Option StreamId := none
  deriving DecidableEq, Repr, Inhabited

/-- A stream of events that a client opened, and whether it is still read. -/
structure Stream where
  client : ClientId
  isRead : Bool := true
  deriving DecidableEq, Repr, Inhabited

/-- The clients and the streams by number, in the order in which they came, and the rest of the
state. -/
structure Fleet (σ : Type) where
  hubs : List Hub := []
  streams : List Stream := []
  rest : σ

/-- The surroundings of a watcher whose clients make a fleet. -/
abbrev Harbour (σ : Type) : Type := Surroundings (Fleet σ)

namespace Harbour

variable {σ : Type}

/-! ## Clients and streams -/

/-- The hub of a client. -/
def hub (s : Harbour σ) (c : ClientId) : Hub := s.rest.hubs[c]?.getD {}

/-- Changes the hub of a client. -/
def changeHub (c : ClientId) (f : Hub → Hub) (s : Harbour σ) : Harbour σ :=
  s.mapRest fun fleet => { fleet with hubs := fleet.hubs.set c (f (s.hub c)) }

/-- Adds a client without listeners. -/
def addClient (s : Harbour σ) : Harbour σ :=
  s.mapRest fun fleet => { fleet with hubs := fleet.hubs ++ [{}] }

/-- The latest client. -/
def latestClient? (s : Harbour σ) : Option ClientId :=
  if s.rest.hubs.isEmpty then none else some (s.rest.hubs.length - 1)

/-- The latest stream of a client. -/
def latestStream? (s : Harbour σ) (c : ClientId) : Option StreamId :=
  (List.range s.rest.streams.length).reverse.find? fun i =>
    s.rest.streams[i]?.map Stream.client == some c

/-- The client that reads a stream, while it does. -/
def reader? (s : Harbour σ) (stream : StreamId) : Option ClientId :=
  match s.rest.streams[stream]? with
  | some st => if st.isRead then some st.client else none
  | none => none

/-- Begins to read a stream that a client opened, and has the client hold it. -/
def beginReading (c : ClientId) (s : Harbour σ) : Harbour σ :=
  (s.changeHub c fun hub => { hub with stream? := some s.rest.streams.length }).mapRest
    fun fleet => { fleet with streams := fleet.streams ++ [{ client := c }] }

/-- Ends the reading of a stream. -/
def endReading (stream : StreamId) (s : Harbour σ) : Harbour σ :=
  s.mapRest fun fleet =>
    { fleet with streams := fleet.streams.modify stream fun st => { st with isRead := false } }

/-! ## Listeners -/

variable (d : Daemon (Harbour σ))

/-- Registers a listener of a client; the stream is opened unless one is held. -/
def addListener (c : ClientId) (q : QueueId) : Act (Harbour σ) Unit := do
  if q ∈ ((← Act.read).hub c).listeners then
    Act.fail (.alreadySubscribed "")
  if ((← Act.read).hub c).stream? = none then
    d.openStream c
    Act.update (beginReading c)
  Act.update (changeHub c fun hub => { hub with listeners := hub.listeners ++ [q] })

/-- Closes a stream, which then is not read any more. If the daemon fails at that, whoever reads the
stream reads on. -/
def closeStream (c : ClientId) (stream : StreamId) : Act (Harbour σ) Unit := do
  d.closeStream c stream
  Act.update (endReading stream)

/-- Takes a listener off a client; the stream is closed after the last one. -/
def removeListener (c : ClientId) (q : QueueId) : Act (Harbour σ) Unit := do
  Act.update (changeHub c fun hub => { hub with listeners := hub.listeners.filter (· ≠ q) })
  match (← Act.read).hub c with
  | { listeners := [], stream? := some stream } =>
    Act.update (changeHub c fun hub => { hub with stream? := none })
    closeStream d c stream
  | _ => pure ()

/-- Takes all listeners off a client, closes its stream and gives up the connection. -/
def closeClient (c : ClientId) : Act (Harbour σ) Unit := do
  let held := ((← Act.read).hub c).stream?
  Act.update (changeHub c fun _ => {})
  match held with
  | some stream => closeStream d c stream
  | none => pure ()
  d.close c

end Harbour

end HostRouting
