import HostRouting.Board
import HostRouting.EventLog
import HostRouting.Fleet.Reader

/-!
# A simulated daemon

The state of a daemon that answers from memory, with faults that are armed in advance and a script
of what happens around the watcher while its calls are under way. Everything that the watcher does
to its surroundings is written into a journal.
-/

namespace HostRouting.Simulation

/-! ## Calls and the journal -/

/-- The calls that the world records. -/
inductive Call where
  | connect
  | list
  | ping
  | addListener
  | removeListener
  | openStream
  | closeStream
  | close
  | sleep
  | publish
  deriving DecidableEq, Repr, Inhabited

namespace Call

/-- The name of a call in the journal. -/
def name : Call → String
  | connect => "connect"
  | list => "list"
  | ping => "ping"
  | addListener => "add_listener"
  | removeListener => "remove_listener"
  | openStream => "events"
  | closeStream => "stream_close"
  | close => "close"
  | sleep => "sleep"
  | publish => "notify"

/-- All calls. -/
def all : List Call :=
  [connect, list, ping, addListener, removeListener, openStream, closeStream, close, sleep, publish]

/-- The call with a name. -/
def ofName? (s : String) : Option Call := all.find? fun c => c.name == s

/-- The script goes on during the calls that take their time. -/
def takesTime : Call → Bool
  | connect | ping | sleep => true
  | _ => false

end Call

/-- What the journal holds. -/
inductive Item where
  /-- A call to the daemon. -/
  | called (call : Call)
  /-- A wait. -/
  | slept (time : Interval)
  /-- A table was handed to the consumer. -/
  | published (table : Table)
  /-- A line for the reader of the log. -/
  | logged (line : Log.Line)

/-! ## Containers -/

/-- A container of the simulated daemon: by its inspection report, or as inspecting it gives. -/
inductive Specimen where
  | reported (report : Json)
  | described (container : Container)

namespace Specimen

/-- The id under which the container is listed. -/
def id : Specimen → Json
  | reported (.obj fields) => Json.lookup "Id" fields
  | reported _ => .null
  | described c => c.id

/-- The inspection report, which a container that is only described does not have. -/
def report : Specimen → Except Fault Json
  | reported r => .ok r
  | described _ => .error (.missingField "payload")

/-- The outcome of inspecting the container. -/
def container : Specimen → Except Fault Container
  | reported r => Container.ofInspection r
  | described c => .ok c

end Specimen

/-! ## The script -/

/-- Something that happens around the watcher. -/
inductive Action where
  /-- Other containers are running now. -/
  | containers (running : List Specimen)
  /-- Listing gives these entries, whatever is running. -/
  | listing (entries : Option (List Json))
  /-- A call fails from now on, or does not fail any more. -/
  | arm (call : Call) (fault : Option Fault)
  /-- Inspecting an id fails from now on, or does not fail any more. -/
  | armInspection (id : String) (fault : Option Fault)
  /-- A ping is answered in this way. -/
  | pingAnswer (answer : Json)
  /-- Messages come in on the stream of events; `null` ends the stream. -/
  | emit (messages : List Json)
  /-- The stream of events breaks. -/
  | breakStream (fault : Fault)
  /-- The watcher is started. -/
  | start
  /-- The watcher is asked to stop. -/
  | stop
  /-- The call under way fails. -/
  | raise (fault : Fault)

/-- What happens in a call when the script is used up. -/
inductive Ending where
  /-- The watcher is asked to stop. -/
  | stop
  /-- The user interrupts the call. -/
  | interrupt
  deriving DecidableEq, Repr, Inhabited

/-! ## The world -/

/-- The directory in which the service works. -/
def home : EventLog.Path := ["work"]

/-- The storage at the beginning: an empty directory to work in, and a device that takes
nothing. -/
def storage : EventLog.Storage :=
  ⟨[(home, .directory), (["dev"], .directory), (["dev", "null"], .device)]⟩

/-- The kind of clients that connecting makes. -/
inductive ClientKind where
  /-- The daemon puts events into the mailboxes by itself. -/
  | direct
  /-- The client reads a stream of events. -/
  | streaming
  deriving DecidableEq, Repr, Inhabited

/-- What becomes of a published table. -/
inductive Consumer where
  /-- It is recorded and goes to the board. -/
  | recordedBoard
  /-- It goes to the board. -/
  | board
  /-- It is printed. -/
  | printer
  /-- There is no consumer. -/
  | nobody
  deriving DecidableEq, Repr, Inhabited

/-- The state of the simulated daemon and of what else is around the watcher. -/
structure World where
  kind : ClientKind := .direct
  consumer : Consumer := .recordedBoard
  /-- Waits are recorded as calls; otherwise they are over at once. -/
  recordsSleep : Bool := true
  running : List Specimen := []
  listing : Option (List Json) := none
  faults : List (Call × Fault) := []
  inspectionFaults : List (String × Fault) := []
  pingAnswer : Json := .bool true
  /-- What happens in the calls that take their time, one list of actions for each call. -/
  script : Option (List (List Action)) := none
  ending : Ending := .stop
  /-- The time that the clock shows. -/
  now : String := ""
  eventLog : EventLog := {}
  board : Board := {}
  /-- The tables that were printed. -/
  printed : List String := []
  journal : List Item := []

instance : Inhabited World := ⟨{}⟩

/-- The surroundings of a watcher in a simulated world. -/
abbrev Scene : Type := Harbour World

namespace Scene

/-- The simulated world. -/
def world (s : Scene) : World := s.rest.rest

/-- Changes the simulated world. -/
def change (f : World → World) (s : Scene) : Scene :=
  s.mapRest fun fleet => { fleet with rest := f fleet.rest }

/-- A scene without clients in a world. -/
def ofWorld (w : World) : Scene := { rest := { rest := w } }

/-- Writes an item into the journal. -/
def note (i : Item) : Scene → Scene :=
  change fun w => { w with journal := w.journal ++ [i] }

/-- Shows an entry and keeps it in the event log. -/
def report (e : Log.Entry) : Act Scene Unit :=
  .ofOutcome fun s =>
    let r := EventLog.record s.world.now e s.world.eventLog
    (r.outcome, s.change fun w =>
      { w with eventLog := r.log, journal := w.journal ++ r.lines.map .logged })

/-- An act on the event log. -/
def onEventLog {α : Type} (act : Act EventLog α) : Act Scene α :=
  act.within (fun s => s.world.eventLog) fun l => change fun w => { w with eventLog := l }

end Scene

end HostRouting.Simulation
