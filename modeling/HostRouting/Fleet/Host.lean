import HostRouting.Fleet.Reader

/-!
# The watcher's host over a fleet

The calls of the watcher, made through the clients of a fleet.
-/

namespace HostRouting.Harbour

variable {σ : Type}

/-- Makes a client after a connection was made. -/
def connect (dial : Act (Harbour σ) Unit) : Act (Harbour σ) ClientId := do
  dial
  let c := (← Act.read).rest.hubs.length
  Act.update addClient
  return c

/-- The host whose clients talk to the daemon `d`. What it is to connect, to wait, to hand on a
table and to report is given. -/
def host (d : Daemon (Harbour σ)) (dial : Act (Harbour σ) Unit)
    (sleep : Interval → Act (Harbour σ) Unit) (publish : Table → Act (Harbour σ) Unit)
    (report : Log.Entry → Act (Harbour σ) Unit) : Host (Fleet σ) where
  connect := connect dial
  list := d.listRunning
  inspect := d.inspectContainer
  ping := d.checkAlive
  addListener := addListener d
  removeListener := removeListener d
  close := closeClient d
  sleep := sleep
  publish := publish
  report := report

end HostRouting.Harbour
