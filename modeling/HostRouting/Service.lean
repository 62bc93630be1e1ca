import HostRouting.Control
import HostRouting.EventLog
import HostRouting.Settings

/-!
# The service

Starting the service makes sure that the event log is there and then starts the watcher, if there
is one; shutting it down asks the watcher to stop.
-/

namespace HostRouting

/-- The event log of a service, and the control of its watcher, if it has one. -/
structure Service where
  eventLog : EventLog
  watcher? : Option Control

namespace Service

/-- The weight from which on the service shows lines; the configured level must be known. -/
def threshold (s : Settings) : Except Fault Nat := Log.threshold (some s.logLevel) s.logLevel

/-- Changes the control of the watcher. -/
def steer (f : Control → Control) (s : Service) : Service :=
  { s with watcher? := s.watcher?.map f }

/-- Starts the service. -/
def startup : Act Service Unit := do
  EventLog.init.within Service.eventLog fun l s => { s with eventLog := l }
  Act.update (steer Control.start)

/-- Shuts the service down. -/
def shutdown : Act Service Unit := Act.update (steer Control.stop)

end Service

end HostRouting
