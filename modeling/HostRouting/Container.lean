import HostRouting.Json.Access

/-!
# Containers

What the daemon reports about one container, as far as routing needs it. Ids, addresses and
entries of the environment are kept as they were reported; the predicate `IsPlain` says that they
are all texts.
-/

namespace HostRouting

/-- A place on the host to which a port of a container is published. -/
structure Binding where
  hostIp : Json
  hostPort : Json
  deriving DecidableEq, Repr, Inhabited

/-- An inspected container. -/
structure Container where
  id : Json
  name : String
  env : List Json := []
  /-- The exposed ports, such as `8080/tcp`, with their bindings; a port that is exposed only has
  none. -/
  ports : List (String × List Binding) := []
  /-- The address on the default bridge. -/
  ip : Json := .str ""
  /-- The address in each network, in the order of attachment. -/
  networks : List (String × Json) := []
  /-- The container runs on another host. -/
  isRemote : Bool := false
  deriving DecidableEq, Repr, Inhabited

namespace Container

/-- The id as the log shows it. -/
def shortId (c : Container) : Except Fault Json := c.id.short

/-- A value is a text. -/
def IsText (v : Json) : Prop := ∃ s, v = .str s

/-- All that the daemon reported about the container are texts. -/
structure IsPlain (c : Container) : Prop where
  id : IsText c.id
  env : ∀ v ∈ c.env, IsText v
  ip : IsText c.ip
  bindings : ∀ p ∈ c.ports, ∀ b ∈ p.2, IsText b.hostIp ∧ IsText b.hostPort
  networks : ∀ n ∈ c.networks, IsText n.2

end Container

end HostRouting
