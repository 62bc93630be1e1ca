import HostRouting.Container.Inspection
import HostRouting.Host

/-!
# Calls to the daemon

The calls that a client makes to the container daemon, and what a client makes of their answers.
Nothing is said about how the daemon answers: each call may fail in any way and change the state in
any way.
-/

namespace HostRouting

/-- The number of a stream of events; every stream gets its own. -/
abbrev StreamId := Nat

/-- The calls that clients make to the daemon. -/
structure Daemon (τ : Type) where
  /-- The entries of the running containers. -/
  containers : ClientId → Act τ (List Json)
  /-- The report on a container. -/
  inspect : ClientId → Json → Act τ Json
  /-- The answer to a ping. -/
  ping : ClientId → Act τ Json
  /-- Opens a stream of events. -/
  openStream : ClientId → Act τ Unit
  /-- Closes a stream of events. -/
  closeStream : ClientId → StreamId → Act τ Unit
  /-- Gives up the connection. -/
  close : ClientId → Act τ Unit

namespace Daemon

variable {τ : Type} (d : Daemon τ)

/-- The ids of the running containers. -/
def listRunning (c : ClientId) : Act τ (List Json) := do
  (← d.containers c).mapM fun e => Act.ofExcept (e.required "Id")

/-- A container by its id. -/
def inspectContainer (c : ClientId) (id : Json) : Act τ Container := do
  Act.ofExcept (Container.ofInspection (← d.inspect c id))

/-- Asks whether the daemon is there; an answer that says nothing is a refusal. -/
def checkAlive (c : ClientId) : Act τ Unit := do
  unless (← d.ping c).isTruthy do
    Act.fail .pingRefused

end Daemon

end HostRouting
