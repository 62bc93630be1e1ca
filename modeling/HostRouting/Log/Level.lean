import HostRouting.Fault
import HostRouting.Text.Upper

/-!
# Levels of the log

A level has a name, which is read in any case, and a weight. A heavier level is more urgent.
-/

namespace HostRouting.Log

/-- The weights of the named levels. -/
def levelWeights : List (String × Nat) :=
  [("CRITICAL", 50), ("FATAL", 50), ("ERROR", 40), ("WARN", 30), ("WARNING", 30), ("INFO", 20),
    ("DEBUG", 10), ("NOTSET", 0)]

/-- The weight of information, from which on entries are kept. -/
def infoWeight : Nat := 20

/-- The weight of the least level that is shown. -/
def debugWeight : Nat := 10

/-- The weight of the level with the given name; the names of levels are upper-case. -/
def weight? (name : String) : Option Nat := levelWeights.lookup name

/-- The name under which a weight is shown. -/
def weightName (w : Nat) : String :=
  if w = 50 then "CRITICAL"
  else if w = 40 then "ERROR"
  else if w = 30 then "WARNING"
  else if w = 20 then "INFO"
  else if w = 10 then "DEBUG"
  else "NOTSET"

/-- The weight from which on lines are shown, by the name of a level in any case. Without a name the
configured level counts. -/
def threshold (name : Option String) (configured : String) : Except Fault Nat :=
  let chosen := match name with
    | some n => if n = "" then configured else n
    | none => configured
  match weight? (Text.upper chosen) with
  | some w => .ok w
  | none => .error (.unknownLevel (Text.upper chosen))

end HostRouting.Log
