import HostRouting.Number.RealText
import HostRouting.Text.Split

/-!
# Settings

The settings of the service and how they are read from environment variables. A number that cannot
be read leaves its default in force.
-/

namespace HostRouting

open Number

/-- The non-blank fields of a list of ports with commas between them, in their order. -/
def parsePorts (raw : String) : List String :=
  ((Text.fields ',' raw).map Text.strip).filter (· != "")

/-- The settings of the service. -/
structure Settings where
  /-- The ports to try for a container that declares none, with commas between them. -/
  fallbackPorts : String := "80,8080,3000,5000,8000"
  /-- How long to wait for an event before the daemon is pinged again, in seconds. -/
  pingInterval : Binary64 := .ofNat 10
  /-- How long to wait after a failure, in seconds. -/
  reconnectInterval : Binary64 := .ofNat 10
  /-- How many containers are inspected at a time; zero means all of them. -/
  inspectWorkers : Int := 0
  /-- How many events wait in the watcher's queue. -/
  eventQueueSize : Int := 100
  /-- Where the event log is kept. -/
  dbPath : String := "drd.db"
  /-- The least level of the lines that are shown. -/
  logLevel : String := "INFO"

namespace Settings

/-- The fallback ports. -/
def ports (s : Settings) : List String := parsePorts s.fallbackPorts

/-! ## Reading the environment -/

/-- The integer in a variable, or else the default. -/
def intOr (raw : Option String) (default : Int) : Int :=
  (raw.bind parseInt?).getD default

/-- The floating-point number in a variable, or else the default. -/
def realOr (raw : Option String) (default : Binary64) : Binary64 :=
  (raw.bind parseReal?).getD default

/-- The settings that an environment gives. -/
def ofEnvironment (var : String → Option String) : Settings :=
  let d : Settings := {}
  { fallbackPorts := (var "DRD_PORTS").getD d.fallbackPorts
    pingInterval := realOr (var "DRD_PING_INTERVAL_S") d.pingInterval
    reconnectInterval := realOr (var "DRD_RECONNECT_INTERVAL_S") d.reconnectInterval
    inspectWorkers := intOr (var "DRD_INSPECT_WORKERS") d.inspectWorkers
    eventQueueSize := intOr (var "DRD_EVENT_QUEUE_SIZE") d.eventQueueSize
    dbPath := (var "DRD_DB_PATH").getD d.dbPath
    logLevel := (var "DRD_LOG_LEVEL").getD d.logLevel }

end Settings

end HostRouting
