import HostRouting.Act
import HostRouting.EventLog.Storage
import HostRouting.Log.Entry

/-!
# The event log

Entries from the level of information on are kept in a database file. Keeping one may fail for all
the reasons for which storage fails; the entry is then shown only, and one more line says so. The
table is made the first time that a path is opened.
-/

namespace HostRouting

open EventLog (Storage Path Row)

/-- The event log: where it is kept, and the storage around it. -/
structure EventLog where
  storage : Storage := {}
  /-- The directory from which relative paths are seen. -/
  home : Path := []
  /-- The configured place of the log. -/
  place : String := "drd.db"
  /-- The paths at which the tables were made already. -/
  prepared : List Path := []

namespace EventLog

/-! ## The database file -/

/-- An act on the storage. -/
def onStorage {α : Type} (act : Act Storage α) : Act EventLog α :=
  act.within EventLog.storage fun storage log => { log with storage }

/-- The path of the database file. A configured directory holds the file; the directories on the
way are made. -/
def resolve : Act EventLog Path := do
  let log ← Act.read
  let p := Path.ofText log.home log.place
  let p := if log.storage.isDirectory p then p ++ ["drd.db"] else p
  unless log.storage.has p.dropLast do
    onStorage (Storage.makeDirectories (.ofPath p.dropLast))
  return p

/-- Opens the database file; the table is made the first time. -/
def connect : Act EventLog Path := do
  let p ← resolve
  onStorage (Storage.openFile p)
  unless (← Act.read).prepared.contains p do
    onStorage (Storage.makeTable p)
    Act.update fun log => { log with prepared := p :: log.prepared }
  return p

/-- Makes sure that the table is there. -/
def init : Act EventLog Unit := do
  let p ← connect
  onStorage (Storage.makeTable p)

/-! ## Keeping entries -/

/-- The id of a container as a row holds it. -/
def storedId : Json → Except Fault (Option String)
  | .null => .ok none
  | .str s => .ok (some s)
  | v => .error (.storage (.unstorable v.typeName))

/-- Adds the row of an entry. -/
def append (now : String) (e : Log.Entry) : Act EventLog Unit := do
  let p ← connect
  let db ← onStorage (Storage.table p)
  let containerId ← Act.ofExcept (storedId e.containerId)
  let id := db.lastId + 1
  let row : Row :=
    { id, time := now, level := e.levelName, containerName := e.containerName, containerId,
      message := e.message }
  onStorage (Storage.store p { rows := db.rows ++ [row], lastId := id })

/-- The line that says that an entry could not be kept. -/
def notKept : Log.Line := ⟨"ERROR", "Unable to write event log entry"⟩

/-- What becomes of an entry: the lines that are shown, the outcome, and the log after it. -/
structure Recording where
  lines : List Log.Line
  outcome : Except Fault Unit
  log : EventLog

/-- Shows an entry and keeps it if it weighs enough. A fault of the storage is no more than a line;
any other fault is a fault of the recording. -/
def record (now : String) (e : Log.Entry) (log : EventLog) : Recording :=
  let lines := e.line?.toList
  if e.isKept then
    match (append now e).outcome log with
    | (.error (.storage _), log) => ⟨lines ++ [notKept], .ok (), log⟩
    | (outcome, log) => ⟨lines, outcome, log⟩
  else ⟨lines, .ok (), log⟩

/-! ## Reading rows -/

/-- The number of rows that are read unless another one is asked for. -/
def defaultLimit : Int := 100

/-- The integer fits into a signed word of 64 bits. -/
def fitsWord (n : Int) : Bool := -9223372036854775808 ≤ n && n < 9223372036854775808

/-- The latest rows, the newest first; a negative limit is none. -/
def latest (limit : Int) : Act EventLog (List Row) := do
  let p ← connect
  let db ← onStorage (Storage.table p)
  unless fitsWord limit do
    Act.fail .integerTooLarge
  let newest := db.rows.reverse
  return if limit < 0 then newest else newest.take limit.toNat

end EventLog

end HostRouting
