import HostRouting.Text.Percent
import HostRouting.Text.Split

/-!
# Resources

What the paths of the HTTP API name, and where a request is sent that has a slash too many at its
end.
-/

namespace HostRouting.Api

/-- What can be asked for. -/
inductive Resource where
  /-- Whether the service is up. -/
  | health
  /-- The published table. -/
  | routes
  /-- The route under a key. -/
  | route (key : String)
  /-- The event log. -/
  | events
  deriving DecidableEq, Repr

namespace Resource

/-- The resources with a fixed path. -/
def fixed : List (String × Resource) :=
  [("/health", health), ("/routes", routes), ("/events", events)]

/-- What the routes' paths begin with. -/
def routeStem : List Char := "/routes/".toList

/-- The resource of a path. A line break after a fixed path is overlooked; the key of a route is not
empty and has no slash. -/
def ofPath? (path : String) : Option Resource :=
  match fixed.find? fun e => path == e.1 || path == e.1 ++ "\n" with
  | some e => some e.2
  | none =>
    let key := path.toList.drop routeStem.length
    if routeStem.isPrefixOf path.toList && !key.isEmpty && !key.contains '/' then
      some (route (String.ofList key))
    else none

end Resource

/-! ## Redirection -/

/-- The path without the slashes at its end, or else with one more. -/
def counterpart (path : String) : String :=
  if path.toList.getLast? = some '/' then
    String.ofList (path.toList.reverse.dropWhile (· == '/')).reverse
  else path ++ "/"

/-- The characters that may stand in a URL as they are. -/
def isUrlChar (c : Char) : Bool :=
  Text.isUnreserved c || ":/%#?=@[]!$&'()*+,;".toList.contains c

/-- The characters that may stand in the path of a URL as they are; a question mark or a number sign
would end it. -/
def isPathChar (c : Char) : Bool := isUrlChar c && c != '?' && c != '#'

/-- The URL of a path on a host. -/
def url (host path query : String) : String :=
  "http://" ++ Text.percentEncoded isUrlChar host ++ Text.percentEncoded isPathChar path ++
    (if query = "" then "" else "?" ++ Text.percentEncoded isUrlChar query)

/-- Where a request for a path without a resource is sent instead: to the counterpart of the path,
if that has a resource. -/
def redirection? (host path query : String) : Option String :=
  if path ≠ "/" ∧ (Resource.ofPath? (counterpart path)).isSome then
    some (url host (counterpart path) query)
  else none

end HostRouting.Api
