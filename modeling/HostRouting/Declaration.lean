import HostRouting.Route
import HostRouting.Text.Blank
import HostRouting.Text.Split

/-!
# Declarations in the environment

A container asks to be published by entries of its environment: `VIRTUAL_HOST=host` and, if it
wants one, `VIRTUAL_PORT=port`. Blanks around names and values do not count; an entry without a
sign of equality, or with nothing after it, declares nothing. A later declaration takes the place
of an earlier one.
-/

namespace HostRouting

/-- What the entries of an environment declare so far; an empty text declares nothing. -/
structure Declaration where
  host : String := ""
  port : String := ""
  deriving DecidableEq, Repr, Inhabited

namespace Declaration

/-- The name under which the host is declared. -/
def hostName : String := "VIRTUAL_HOST"

/-- The name under which the port is declared. -/
def portName : String := "VIRTUAL_PORT"

/-! ## Entries -/

/-- The name and the value of an entry, if it has a value that is not blank. -/
def entry? (s : String) : Option (String × String) :=
  match Text.cut? '=' s with
  | none => none
  | some (name, value) =>
    if Text.strip value = "" then none else some (Text.strip name, Text.strip value)

/-- The declaration after one more entry. -/
def add (d : Declaration) (s : String) : Declaration :=
  match entry? s with
  | none => d
  | some (name, value) =>
    if name = hostName then { d with host := value }
    else if name = portName then { d with port := value }
    else d

/-- The declaration after more entries. -/
def addAll (d : Declaration) (entries : List String) : Declaration :=
  entries.foldl add d

/-- What an environment of texts declares. -/
def ofEntries (entries : List String) : Declaration := addAll {} entries

/-- What an environment declares whose entries come as the daemon sends them. An entry that is no
text cannot be taken apart. -/
def ofValues (d : Declaration) : List Json → Except Fault Declaration
  | [] => .ok d
  | .str s :: vs => ofValues (d.add s) vs
  | v :: _ => .error (.noMember v.typeName "partition")

/-! ## The declared route -/

/-- The route as far as it is declared: without an address, and maybe without host or port. -/
def route (d : Declaration) : Route :=
  { host := d.host, endpoint := { port := .str d.port } }

/-- Texts never fail to be taken apart. -/
theorem ofValues_texts (d : Declaration) (entries : List String) :
    d.ofValues (entries.map .str) = .ok (d.addAll entries) := by
  induction entries generalizing d with
  | nil => rfl
  | cons s r ih => exact ih (d.add s)

end Declaration

end HostRouting
