import HostRouting.Json.Basic
import HostRouting.Number.RealText
import HostRouting.Text.Quoted

/-!
# JSON values in messages

How a value is shown inside a log line: a text stands as it is, every other value in the literal
form, in which texts are quoted, lists and objects have brackets, and the three words are `None`,
`True` and `False`.
-/

namespace HostRouting.Json

/-- Joins texts with a comma and a blank between them. -/
def commaJoin (parts : List String) : String := ", ".intercalate parts

mutual

/-- The literal form of a value. -/
def literal : Json → String
  | null => "None"
  | bool b => if b then "True" else "False"
  | int n => toString n
  | real x => x.text .plain
  | str s => Text.quoted s
  | arr items => "[" ++ commaJoin (literalItems items) ++ "]"
  | obj fields => "\x7b" ++ commaJoin (literalFields fields) ++ "\x7d"

/-- The literal forms of the items of a list. -/
def literalItems : List Json → List String
  | [] => []
  | v :: vs => literal v :: literalItems vs

/-- The literal forms of the fields of an object. -/
def literalFields : List (String × Json) → List String
  | [] => []
  | (k, v) :: fs => (Text.quoted k ++ ": " ++ literal v) :: literalFields fs

end

/-- The form of a value inside a message. -/
def display : Json → String
  | str s => s
  | v => literal v

end HostRouting.Json
