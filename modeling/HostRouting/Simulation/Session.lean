import HostRouting.Api
import HostRouting.Service
import HostRouting.Simulation.Play

/-!
# Sessions in a simulated world

What can be done with a watcher and a service whose daemon is simulated.
-/

namespace HostRouting.Simulation

/-- A watcher in a simulated world. -/
abbrev Stage : Type := Machine (Fleet World)

namespace Stage

/-! ## The parts of a stage -/

/-- A stage without clients in a world. -/
def ofWorld (w : World) : Stage := { outside := Scene.ofWorld w }

/-- The simulated world. -/
def world (m : Stage) : World := Scene.world m.outside

/-- Changes the surroundings of the watcher. -/
def change (f : Scene → Scene) (m : Stage) : Stage := { m with outside := f m.outside }

/-- The calls of the watcher. -/
def host (m : Stage) : Host (Fleet World) := Scene.host m.world.kind

/-- An act on the surroundings of the watcher. -/
def onScene {α : Type} (act : Act Scene α) : Act Stage α := Watcher.call act

/-- Plays an act while the script is played, after which there is none any more. -/
def withScript {α : Type} (script : List (List Action)) (act : Act Stage α) : Act Stage α := do
  Act.update (change (Scene.change fun w => { w with script := some script }))
  let result ← act.result
  Act.update (change (Scene.change fun w => { w with script := none }))
  Act.ofExcept result

/-- More transitions than the watcher can make before a script of this length is used up and the
ending came about: no two transitions in a row are without a call that takes its time. -/
def roundsFor (script : List (List Action)) : Nat := 2 * script.length + 10

/-! ## The watcher -/

variable (c : WatchConfig)

/-- Makes one transition. -/
def step : Act Stage Phase := do Watcher.step (← Act.read).host c

/-- Enumerates and publishes the routes. -/
def refresh : Act Stage (Option Table) := do Watcher.refresh (← Act.read).host c

/-- Works until the script is used up. -/
def run (script : List (List Action)) : Act Stage Unit :=
  withScript script do
    let _ ← Watcher.run (← Act.read).host c (roundsFor script)

/-- Plays the watcher's thread if there is one; a fault ends it silently. -/
def playThread (script : List (List Action)) : Act Stage Unit := do
  if (← Act.read).outside.control.thread = .running then
    let _ ← (run c script).result
    Act.update (change (Scene.steer Control.finish))

/-- Starts the watcher and waits for the end of its thread; says whether that came. -/
def startAndJoin (script : List (List Action)) : Act Stage Bool := do
  Act.update (change (Scene.steer Control.start))
  playThread c script
  Act.gets fun m => m.outside.control.joinReturns

/-- Registers the watcher's mailbox with its client. -/
def subscribe : Act Stage Unit := do
  let m ← Act.read
  match m.watcher.client?, m.watcher.queue? with
  | some client, some queue => onScene (m.host.addListener client queue)
  | _, _ => pure ()

/-! ## The service -/

/-- An act of the service, which has a watcher or not. -/
def asService {α : Type} (watched : Bool) (act : Act Service α) : Act Stage α :=
  act.within
    (fun m => { eventLog := m.world.eventLog,
                watcher? := if watched then some m.outside.control else none })
    fun s => change fun scene =>
      let scene := Scene.change (fun w => { w with eventLog := s.eventLog }) scene
      { scene with control := s.watcher?.getD scene.control }

/-- Starts the service, plays the watcher's thread, and shuts the service down. A service that cannot
start says so to nobody but its server. -/
def serve (watched : Bool) (script : List (List Action)) : Act Stage Unit := do
  match ← (asService watched Service.startup).attempt with
  | .ok () =>
    playThread c script
    asService watched Service.shutdown
  | .error _ => pure ()

/-- Answers a request to the service. -/
def respond (watched : Bool) (r : Api.Request) : Act Stage Api.Response := do
  let m ← Act.read
  let phase? := if watched then some m.watcher.phase else none
  onScene (Scene.onEventLog (Api.respond m.world.board phase? r))

end Stage

end HostRouting.Simulation
