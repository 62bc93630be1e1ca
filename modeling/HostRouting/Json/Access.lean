import HostRouting.Fault

/-!
# Taking JSON values apart

Reports of the daemon are taken apart without a check of their shape beforehand. Each operation
here says what it finds in a value that fits and which fault arises from one that does not.
-/

namespace HostRouting.Json

/-- The value of a field of an object, `null` if it is missing. -/
def field (v : Json) (key : String) : Except Fault Json :=
  match v with
  | obj fields => .ok (lookup key fields)
  | v => .error (.noMember v.typeName "get")

/-- The fields of an object. -/
def fields : Json → Except Fault (List (String × Json))
  | obj fields => .ok fields
  | v => .error (.noMember v.typeName "items")

/-- What a value holds one after the other: the items of a list, the characters of a text, the keys
of an object. -/
def items : Json → Except Fault (List Json)
  | arr items => .ok items
  | str s => .ok (s.toList.map fun c => str (String.singleton c))
  | obj fields => .ok (fields.map fun f => str f.1)
  | v => .error (.notIterable v.typeName)

/-- A text without the slashes at its beginning. -/
def withoutSlashes : Json → Except Fault String
  | str s => .ok (String.ofList (s.toList.dropWhile (· == '/')))
  | v => .error (.noMember v.typeName "lstrip")

/-- The number of characters of a short id. -/
def shortLength : Nat := 12

/-- The first twelve characters of a text, or items of a list. -/
def short : Json → Except Fault Json
  | str s => .ok (str (String.ofList (s.toList.take shortLength)))
  | arr items => .ok (arr (items.take shortLength))
  | v => .error (.notSliceable v.typeName)

/-- Whether a value is among the given texts. Lists and objects cannot be looked up. -/
def isOneOf (v : Json) (texts : List String) : Except Fault Bool :=
  match v with
  | str s => .ok (texts.contains s)
  | arr _ => .error (.notKey "list")
  | obj _ => .error (.notKey "dict")
  | _ => .ok false

/-- The field that an object must have. -/
def required (v : Json) (key : String) : Except Fault Json :=
  match v with
  | obj fields => match fields.find? fun f => f.1 == key with
    | some f => .ok f.2
    | none => .error (.missingField key)
  | v => .error (.notIndexable v.typeName)

end HostRouting.Json
