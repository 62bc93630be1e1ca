import HostRouting.Act
import HostRouting.Container
import HostRouting.Control
import HostRouting.Mailbox
import HostRouting.Table

/-!
# The watcher's surroundings

What the watcher finds around itself: mailboxes for events, the request to stop, and a daemon with
which it talks through clients. Nothing is said here about how the daemon answers, so that what is
proved about the watcher holds for every daemon, consumer and log.
-/

namespace HostRouting

/-- The number of a client; every connection gets its own. -/
abbrev ClientId := Nat

/-- The number of a mailbox. -/
abbrev QueueId := Nat

/-- The state around the watcher: the mailboxes by number, the request to stop, and the rest. -/
structure Surroundings (σ : Type) where
  mailboxes : List Mailbox := []
  control : Control := {}
  rest : σ

namespace Surroundings

variable {σ : Type}

/-- The mailbox with a number; an unknown number is an empty mailbox. -/
def mailbox (s : Surroundings σ) (q : QueueId) : Mailbox := s.mailboxes[q]?.getD ⟨0, []⟩

/-- Replaces a mailbox. -/
def setMailbox (q : QueueId) (m : Mailbox) (s : Surroundings σ) : Surroundings σ :=
  { s with mailboxes := s.mailboxes.set q m }

/-- Adds a mailbox. -/
def addMailbox (m : Mailbox) (s : Surroundings σ) : Surroundings σ :=
  { s with mailboxes := s.mailboxes ++ [m] }

/-- Changes the rest. -/
def mapRest (f : σ → σ) (s : Surroundings σ) : Surroundings σ := { s with rest := f s.rest }

/-- Takes the oldest item of a mailbox, waiting as long as told. -/
def take (q : QueueId) (wait : Interval) : Act (Surroundings σ) (Option (Option Event)) :=
  .ofOutcome fun s =>
    let (r, m) := (s.mailbox q).take wait
    (r, s.setMailbox q m)

/-- Makes an empty mailbox and gives its number. -/
def openMailbox (capacity : Nat) : Act (Surroundings σ) QueueId :=
  .ofOutcome fun s => (.ok s.mailboxes.length, s.addMailbox { capacity })

end Surroundings

/-- The calls that the watcher makes. Each of them may change the surroundings in any way and may
fail in any way. -/
structure Host (σ : Type) where
  /-- Connects to the daemon. -/
  connect : Act (Surroundings σ) ClientId
  /-- The ids of the running containers. -/
  list : ClientId → Act (Surroundings σ) (List Json)
  /-- A container by its id. -/
  inspect : ClientId → Json → Act (Surroundings σ) Container
  /-- Asks whether the daemon is there. -/
  ping : ClientId → Act (Surroundings σ) Unit
  /-- Has the events of the daemon put into a mailbox. -/
  addListener : ClientId → QueueId → Act (Surroundings σ) Unit
  /-- Ends that. -/
  removeListener : ClientId → QueueId → Act (Surroundings σ) Unit
  /-- Closes a client. -/
  close : ClientId → Act (Surroundings σ) Unit
  /-- Takes the oldest item of a mailbox, waiting as long as told. -/
  take : QueueId → Interval → Act (Surroundings σ) (Option (Option Event)) := Surroundings.take
  /-- Waits for some time. -/
  sleep : Interval → Act (Surroundings σ) Unit
  /-- Hands a table to the consumer. -/
  publish : Table → Act (Surroundings σ) Unit
  /-- Takes a log entry. -/
  report : Log.Entry → Act (Surroundings σ) Unit

end HostRouting
