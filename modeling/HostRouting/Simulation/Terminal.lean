import HostRouting.Cli
import HostRouting.Simulation.Script
import HostRouting.Simulation.Session

/-!
# The program at a simulated terminal

The command line program, whose service gives replies that were written down beforehand and whose
daemon is simulated.
-/

namespace HostRouting.Simulation

/-- A terminal at which the program is invoked: the replies that the service will give, the requests
that were made, what was printed, and the surroundings for watching. -/
structure Terminal where
  replies : List (Except Fault Cli.Reply) := []
  requests : List Cli.Request := []
  printed : String := ""
  stage : Stage

namespace Terminal

/-! ## The terminal of a session -/

/-- The world around the program, as a session describes it: the time and the running containers. -/
def world (s : Settings) (session : Json) : World :=
  { kind := .streaming
    consumer := .printer
    recordsSleep := false
    ending := .interrupt
    running := (Script.listed (Script.part session "containers")).map Script.specimen
    now := Script.textOr "" (Script.part session "now")
    eventLog := { storage, home, place := s.dbPath } }

/-- The terminal that a session describes: the replies of the service, and the world. -/
def ofJson (s : Settings) (session : Json) : Terminal :=
  { replies := (Script.listed (Script.part session "responses")).map Script.reply
    stage := Stage.ofWorld (world s session) }

/-! ## Running the program -/

/-- Makes a request. -/
def ask (r : Cli.Request) : Act Terminal Cli.Reply := do
  let t ← Act.read
  Act.update fun t => { t with requests := t.requests ++ [r], replies := t.replies.tail }
  Act.ofExcept (t.replies.headD (.error (.reported "ConnectionError" "no reply")))

/-- Prints a text. -/
def print (s : String) : Act Terminal Unit := Act.update fun t => { t with printed := t.printed ++ s }

/-- Watches the simulated daemon; the tables are printed, also those before a fault. -/
def watch (s : Settings) (o : Cli.WatchOptions) (script : List (List Action)) :
    Act Terminal Nat := do
  let act : Act Stage Nat := Stage.withScript script do
    Cli.watch (← Act.read).host (Scene.onEventLog EventLog.init) s o (Stage.roundsFor script)
  let result ← (act.within Terminal.stage fun m t => { t with stage := m }).result
  (← Act.read).stage.world.printed.forM fun table => print (table ++ "\n")
  Act.ofExcept result

/-- Carries out what the program is asked to do; gives the status with which it ends. -/
def perform (s : Settings) (script : List (List Action)) (i : Cli.Invocation) :
    Act Terminal Nat := do
  match i.command with
  | .watch o => watch s o script
  | command =>
    match Cli.request? (← Act.ofExcept i.api) command with
    | none => return 2
    | some request =>
      let reply ← ask request
      print (Cli.printed reply)
      return command.status reply

/-- Runs the program on a session: the outcome, and the terminal after it. -/
def run (s : Settings) (session : Json) (i : Cli.Invocation) : Except Fault Nat × Terminal :=
  (perform s (Script.script (Script.part session "script")) i).outcome (ofJson s session)

end Terminal

end HostRouting.Simulation
