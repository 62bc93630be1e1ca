import HostRouting.Json.Reader
import HostRouting.Simulation.Terminal

/-!
# The program

The command line program. Neither the service nor the daemon is reached from here: standard input
holds the session, a JSON object with the replies of the service (`responses`), the running
containers (`containers`) and what happens while the daemon is watched (`script`).
-/

namespace HostRouting

/-- The names of the variables from which the settings are read. -/
def variableNames : List String :=
  ["DRD_PORTS", "DRD_PING_INTERVAL_S", "DRD_RECONNECT_INTERVAL_S", "DRD_INSPECT_WORKERS",
    "DRD_EVENT_QUEUE_SIZE", "DRD_DB_PATH", "DRD_LOG_LEVEL"]

/-- The settings in the environment of the program. -/
def environmentSettings : IO Settings := do
  let values ← variableNames.mapM fun name => return (name, ← IO.getEnv name)
  return .ofEnvironment fun name => (values.lookup name).join

/-- The rest of a stream. -/
partial def readAll (s : IO.FS.Stream) : IO String := do
  let line ← s.getLine
  if line.isEmpty then return "" else return line ++ (← readAll s)

/-- Runs the program on the session in standard input. -/
def runSession (s : Settings) (i : Cli.Invocation) : IO UInt32 := do
  let session := (Json.parse? (← readAll (← IO.getStdin))).getD .null
  let (result, t) := Simulation.Terminal.run s session i
  IO.print t.printed
  match result with
  | .ok status => return status.toUInt32
  | .error f =>
    IO.eprintln f.describe
    return 1

end HostRouting

open HostRouting in
/-- The entry point of the program. -/
def main (args : List String) : IO UInt32 := do
  let s ← environmentSettings
  match Cli.invocation s args with
  | .ok i => runSession s i
  | .error r =>
    r.message?.forM IO.eprintln
    return r.status.toUInt32
