import HostRouting.Text.Percent
import HostRouting.Text.Split

/-!
# Query strings

The parameters of a request are written `name=value`, with `&` between them, a plus sign for a
blank, and percent escapes. The text comes as bytes, each of which is taken for one character.
-/

namespace HostRouting.Api

/-- The text of which each character is one byte of the UTF-8 form of `s`. -/
def bytewise (s : String) : String :=
  String.ofList ((s.toList.flatMap Text.utf8Bytes).map Char.ofNat)

/-- A name or a value as it is meant. -/
def unescaped (s : String) : String :=
  Text.percentDecoded (String.ofList (s.toList.map fun c => if c = '+' then ' ' else c))

/-- The name and the value of a parameter; without a sign of equality the value is empty. -/
def parameter (s : String) : String × String :=
  match Text.cut? '=' s with
  | some (name, value) => (unescaped name, unescaped value)
  | none => (unescaped s, "")

/-- The parameters of a query. -/
def parameters (query : String) : List (String × String) :=
  ((Text.fields '&' (bytewise query)).filter (· != "")).map parameter

/-- The value of a parameter; the last one counts. -/
def parameter? (name query : String) : Option String :=
  (parameters query).reverse.lookup name

end HostRouting.Api
