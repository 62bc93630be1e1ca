import HostRouting.Json.Literal
import HostRouting.Log.Level

/-!
# Log entries

What the service reports about its work: a level, a message, and the container it is about. An
entry becomes a line for the reader of the log; entries from the level of information on are also
kept in the event log.
-/

namespace HostRouting.Log

/-- A report on the work of the service. Its texts are made of whole characters: half of a surrogate
pair, at which the encoding of an entry would fail, cannot stand in them. -/
structure Entry where
  level : String
  message : String
  /-- The name of the container it is about. -/
  containerName : Option String := none
  /-- The id of that container; `null` for none. -/
  containerId : Json := .null
  deriving DecidableEq, Repr, Inhabited

/-- A line as the reader of the log sees it. -/
structure Line where
  level : String
  text : String
  deriving DecidableEq, Repr, Inhabited

namespace Entry

/-! ## Building entries -/

/-- An entry that is about no container. -/
def plain (level message : String) : Entry := { level, message }

/-- An entry about a container. -/
def about (level message : String) (name : String) (id : Json) : Entry :=
  { level, message, containerName := some name, containerId := id }

/-- An entry about a container of which the id alone is known. -/
def aboutId (level message : String) (id : Json) : Entry :=
  { level, message, containerId := id }

/-! ## What becomes of an entry -/

/-- The name of the level as it is kept. -/
def levelName (e : Entry) : String := Text.upper e.level

/-- The weight of the level; a name of no level weighs as much as information. -/
def weight (e : Entry) : Nat := (weight? e.levelName).getD infoWeight

/-- The entry is kept in the event log. -/
def isKept (e : Entry) : Bool := infoWeight ≤ e.weight

/-- The name of the container as it is shown. -/
def shownName (e : Entry) : String := e.containerName.getD Json.null.literal

/-- The entry is about a container. -/
def hasContainer (e : Entry) : Bool :=
  e.containerName.getD "" != "" || e.containerId.isTruthy

/-- The message, with the container if there is one. -/
def text (e : Entry) : String :=
  if e.hasContainer then
    e.message ++ " [name=" ++ e.shownName ++ " id=" ++ e.containerId.display ++ "]"
  else e.message

/-- The line for the reader of the log; what weighs less than the least level is not shown. -/
def line? (e : Entry) : Option Line :=
  if debugWeight ≤ e.weight then some ⟨weightName e.weight, e.text⟩ else none

end Entry

end HostRouting.Log
