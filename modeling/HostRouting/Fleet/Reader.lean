import HostRouting.Fleet

/-!
# Reading streams of events

What becomes of a message on a stream: its event goes to all listeners of the client that reads the
stream. When the stream ends, or a message on it cannot be read, the client gives the stream up and
every listener gets the marker for the end.
-/

namespace HostRouting.Harbour

variable {σ : Type} (report : Log.Entry → Act (Harbour σ) Unit)

/-- Offers an item to a listener; a refused event is reported. -/
def deliver (item : Option Event) (q : QueueId) : Act (Harbour σ) Unit := do
  let d := ((← Act.read).mailbox q).offer item
  Act.update (Surroundings.setMailbox q d.mailbox)
  match item with
  | some e => unless d.taken do
      report (← Act.ofExcept (Mailbox.refusal e))
  | none => pure ()

/-- Hands the event of a message to the listeners of a client in their order. -/
def receive (c : ClientId) (message : Json) : Act (Harbour σ) Unit := do
  match ← Act.ofExcept (Event.ofMessage message) with
  | none => pure ()
  | some e => ((← Act.read).hub c).listeners.forM (deliver report (some e))

/-- Offers the marker for the end to the listeners of a client in their order. -/
def announceEnd (c : ClientId) (s : Harbour σ) : Harbour σ :=
  (s.hub c).listeners.foldl (fun s q => ((deliver report none q).outcome s).2) s

/-- The entry about a stream whose reading failed. -/
def brokenEntry (f : Fault) : Log.Entry :=
  .plain "DEBUG" ("Docker event stream ended: " ++ f.describe)

/-- The client gives up a stream if it still holds it. -/
def giveUp (c : ClientId) (stream : StreamId) : Harbour σ → Harbour σ :=
  changeHub c fun hub => if hub.stream? = some stream then { hub with stream? := none } else hub

/-- The reading of a stream by a client is over, because the stream ended or for a fault. A failure
is reported; nobody hears of a fault of the report. -/
def finishReading (c : ClientId) (stream : StreamId) (reason : Option Fault) (s : Harbour σ) :
    Harbour σ :=
  let s := match reason with
    | some f => if f.isFailure then ((report (brokenEntry f)).outcome s).2 else s
    | none => s
  announceEnd report c (giveUp c stream (s.endReading stream))

/-- A message comes in on a stream. Nothing happens if the stream is not read any more. -/
def feed (stream : StreamId) (message : Json) (s : Harbour σ) : Harbour σ :=
  match s.reader? stream with
  | none => s
  | some c => match (receive report c message).outcome s with
    | (.ok (), s) => s
    | (.error f, s) => finishReading report c stream (some f) s

/-- A stream ends, or breaks with a fault. Nothing happens if it is not read any more. -/
def finish (stream : StreamId) (reason : Option Fault) (s : Harbour σ) : Harbour σ :=
  match s.reader? stream with
  | none => s
  | some c => finishReading report c stream reason s

end HostRouting.Harbour
