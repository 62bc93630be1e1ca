import HostRouting.Cli.Arguments
import HostRouting.Interval
import HostRouting.Settings

/-!
# The commands of the program

What can be asked of the program on the command line: to show the table, one route, or the events
that the service answers with, or to watch the daemon itself.
-/

namespace HostRouting.Cli

open Number

/-- How to watch the daemon. What was given without a value is missing. -/
structure WatchOptions where
  ports? : Option (List String)
  pingInterval : Interval
  reconnectInterval : Interval
  /-- The name of the least level of the lines that are shown. -/
  logLevel? : Option String

/-- What the program is asked to do. -/
inductive Command where
  /-- Show the table. -/
  | routes
  /-- Show the route of a host. -/
  | route (host : String)
  /-- Show the latest events, as many as told, if a number was given. -/
  | events (limit? : Option Int)
  /-- Watch the daemon and print every table. -/
  | watch (options : WatchOptions)

/-- A command, and the address of the service that is asked, which may be missing. -/
structure Invocation where
  api? : Option String
  command : Command

/-! ## Flags and grammars -/

/-- The address of the service. -/
def apiFlag : Flag := { names := ["--api"], value? := some .text }

/-- The number of events. -/
def limitFlag : Flag := { names := ["--limit"], value? := some .integer }

/-- The fallback ports. -/
def portsFlag : Flag := { names := ["--ports"], value? := some .text }

/-- The interval between pings. -/
def pingFlag : Flag := { names := ["--ping-interval"], value? := some .real }

/-- The wait after a failure. -/
def reconnectFlag : Flag := { names := ["--reconnect-interval"], value? := some .real }

/-- The least level of the lines that are shown. -/
def logLevelFlag : Flag := { names := ["--log-level"], value? := some .text }

/-- The name of the program. -/
def program : String := "drd"

/-- The names of the commands. -/
def commandNames : List String := ["routes", "route", "events", "watch"]

/-- The grammar of the program. -/
def grammar : Grammar :=
  { program, flags := [.help, apiFlag], operand? := some (.command "cmd" commandNames) }

/-- The grammar of a command. -/
def commandGrammar (name : String) : Grammar :=
  let program := program ++ " " ++ name
  if name = "route" then { program, flags := [.help], operand? := some (.word "host") }
  else if name = "events" then { program, flags := [.help, limitFlag] }
  else if name = "watch" then
    { program, flags := [.help, portsFlag, pingFlag, reconnectFlag, logLevelFlag] }
  else { program, flags := [.help] }

/-! ## Defaults -/

/-- The address of the service unless another one is given. -/
def defaultApi : String := "http://localhost:8000"

/-- The number of events that are shown unless another one is asked for. -/
def defaultLimit : Int := 20

/-- The interval that a flag gives. -/
def intervalOf (r : Reading) (f : Flag) (default : Binary64) : Interval :=
  match r.valueOr f default fun s => Settings.realOr (some s) default with
  | some x => .seconds x
  | none => .missing

/-- The options of watching; the settings complete them. -/
def watchOptions (s : Settings) (r : Reading) : WatchOptions :=
  { ports? := r.valueOr portsFlag s.ports parsePorts
    pingInterval := intervalOf r pingFlag s.pingInterval
    reconnectInterval := intervalOf r reconnectFlag s.reconnectInterval
    logLevel? := r.valueOr logLevelFlag s.logLevel id }

/-- The command of a name, as its arguments tell. -/
def command (s : Settings) (name : String) (r : Reading) : Command :=
  if name = "route" then .route ((r.operand?.getD []).headD "")
  else if name = "events" then
    .events (r.valueOr limitFlag defaultLimit fun s => Settings.intOr (some s) defaultLimit)
  else if name = "watch" then .watch (watchOptions s r)
  else .routes

/-! ## Reading the command line -/

/-- Why a command line is not carried out, and the program that says so. -/
structure Refusal where
  program : String
  stop : Stop
  deriving DecidableEq, Repr

/-- The last line of what a refusal says, if it is one about a fault. -/
def Refusal.message? (r : Refusal) : Option String :=
  match r.stop with
  | .help => none
  | .wrong message => some (r.program ++ ": error: " ++ message)

/-- The status with which the program ends on a refusal. -/
def Refusal.status (r : Refusal) : Nat :=
  match r.stop with
  | .help => 0
  | .wrong _ => 2

/-- Reads a command line by a grammar. -/
def readBy (g : Grammar) (args : List String) : Except Refusal Reading :=
  (read g args).mapError fun stop => { program := g.program, stop }

/-- What a command line asks for. Arguments that nobody takes are refused. -/
def invocation (s : Settings) (args : List String) : Except Refusal Invocation := do
  let main ← readBy grammar args
  match main.operand?.getD [] with
  | [] => throw { program, stop := .help }
  | name :: rest =>
    let sub ← readBy (commandGrammar name) rest
    match main.extras ++ sub.extras with
    | [] =>
      return { api? := main.valueOr apiFlag defaultApi id, command := command s name sub }
    | extras =>
      throw { program, stop := .wrong ("unrecognized arguments: " ++ " ".intercalate extras) }

end HostRouting.Cli
