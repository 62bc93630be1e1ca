import HostRouting.Json.Basic
import HostRouting.Number.RealText
import HostRouting.Text.Quoted

/-!
# JSON texts

The indented form of a value, two blanks a level, and the compact form on one line. Characters
beyond ASCII are written as they are.
-/

namespace HostRouting.Json

/-! ## Strings -/

/-- One character inside a JSON string. -/
def escapedChar (c : Char) : List Char :=
  if c = '"' || c = '\\' then ['\\', c]
  else if c = '\n' then ['\\', 'n']
  else if c = '\r' then ['\\', 'r']
  else if c = '\t' then ['\\', 't']
  else if c.toNat = 8 then ['\\', 'b']
  else if c.toNat = 12 then ['\\', 'f']
  else if c.toNat < 32 then '\\' :: 'u' :: Text.hexPadded 4 c.toNat
  else [c]

/-- A JSON string. -/
def stringText (s : String) : String :=
  String.ofList ('"' :: s.toList.flatMap escapedChar ++ ['"'])

/-! ## Values -/

/-- How the items of lists and objects are set: what stands before an item at a depth, and what
stands between a key and its value. -/
structure Layout where
  before : Nat → String
  colon : String

/-- Every item on a line of its own, two blanks deeper than the brackets. -/
def Layout.indented : Layout :=
  ⟨fun depth => "\n" ++ String.ofList (List.replicate (2 * depth) ' '), ": "⟩

/-- All on one line without blanks. -/
def Layout.compact : Layout := ⟨fun _ => "", ":"⟩

/-- The items of a list or an object between its brackets. -/
def Layout.enclose (layout : Layout) (depth : Nat) (opening closing : String) (items : List String) :
    String :=
  if items.isEmpty then opening ++ closing
  else
    let item := layout.before (depth + 1)
    opening ++ item ++ (("," ++ item).intercalate items) ++ layout.before depth ++ closing

mutual

/-- The text of a value at a depth of nesting. -/
def render (layout : Layout) (depth : Nat) : Json → String
  | null => "null"
  | bool b => if b then "true" else "false"
  | int n => toString n
  | real x => x.text .json
  | str s => stringText s
  | arr items => layout.enclose depth "[" "]" (renderItems layout (depth + 1) items)
  | obj fields => layout.enclose depth "\x7b" "\x7d" (renderFields layout (depth + 1) fields)

/-- The texts of the items of a list. -/
def renderItems (layout : Layout) (depth : Nat) : List Json → List String
  | [] => []
  | v :: vs => render layout depth v :: renderItems layout depth vs

/-- The texts of the fields of an object. -/
def renderFields (layout : Layout) (depth : Nat) : List (String × Json) → List String
  | [] => []
  | (k, v) :: fs =>
    (stringText k ++ layout.colon ++ render layout depth v) :: renderFields layout depth fs

end

/-- The indented text of a value. -/
def pretty (v : Json) : String := v.render .indented 0

/-- The text of a value on one line. -/
def compact (v : Json) : String := v.render .compact 0

end HostRouting.Json
