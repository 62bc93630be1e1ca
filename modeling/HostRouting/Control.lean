/-!
# Starting and stopping

The watcher works in a thread of its own until it is asked to stop. A thread that is still at work
is not started a second time.
-/

namespace HostRouting

/-- How far the watcher's thread is. -/
inductive Thread where
  | absent
  | running
  | ended
  deriving DecidableEq, Repr, Inhabited

/-- The request to stop, and the watcher's thread. -/
structure Control where
  stopRequested : Bool := false
  thread : Thread := .absent
  deriving DecidableEq, Repr, Inhabited

namespace Control

/-- Starts a thread unless one is at work; a new thread begins without a request to stop. -/
def start (c : Control) : Control :=
  if c.thread = .running then c else { stopRequested := false, thread := .running }

/-- Asks the watcher to stop. -/
def stop (c : Control) : Control := { c with stopRequested := true }

/-- The thread has come to its end. -/
def finish (c : Control) : Control :=
  if c.thread = .running then { c with thread := .ended } else c

/-- Starting makes a new thread. -/
def startsThread (c : Control) : Bool := c.thread != .running

/-- Waiting for the thread would end at once. -/
def joinReturns (c : Control) : Bool := c.thread != .running

end Control

end HostRouting
