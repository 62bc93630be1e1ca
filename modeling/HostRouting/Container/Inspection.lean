import HostRouting.Container

/-!
# Reading inspection reports

A container from the report that the daemon gives when it is asked for one. Every part of the
report may be missing or empty and then counts as the empty value; a part of a wrong type is kept
where only its value matters, and is a fault where it has to be taken apart.
-/

namespace HostRouting.Container

/-- A field that counts as the empty text when it says nothing. -/
def textField (v : Json) (key : String) : Except Fault Json := do
  return (← v.field key).orElse (.str "")

/-- A field that counts as the empty object when it says nothing. -/
def objectField (v : Json) (key : String) : Except Fault Json := do
  return (← v.field key).orElse (.obj [])

/-- The binding that an entry of a port reports. -/
def bindingOf (entry : Json) : Except Fault Binding := do
  return ⟨← textField entry "HostIp", ← textField entry "HostPort"⟩

/-- The bindings that are reported for a port; a port that is exposed only reports none. -/
def bindingsOf (report : Json) : Except Fault (List Binding) := do
  (← (report.orElse (.arr [])).items).mapM bindingOf

/-- The address that is reported for an attachment to a network. -/
def attachmentAddress (report : Json) : Except Fault Json :=
  textField (report.orElse (.obj [])) "IPAddress"

/-- The exposed ports of a report on network settings. -/
def portsOf (net : Json) : Except Fault (List (String × List Binding)) := do
  (← (← objectField net "Ports").fields).mapM fun p => return (p.1, ← bindingsOf p.2)

/-- The networks of a report on network settings. -/
def networksOf (net : Json) : Except Fault (List (String × Json)) := do
  (← (← objectField net "Networks").fields).mapM fun n => return (n.1, ← attachmentAddress n.2)

/-- The container of an inspection report. -/
def ofInspection (report : Json) : Except Fault Container := do
  let config ← objectField report "Config"
  let net ← objectField report "NetworkSettings"
  let ports ← portsOf net
  let networks ← networksOf net
  let id ← textField report "Id"
  let name ← (← textField report "Name").withoutSlashes
  let env ← ((← config.field "Env").orElse (.arr [])).items
  let ip ← textField net "IPAddress"
  let isRemote := (← report.field "Node").isTruthy
  return { id, name, env, ports, ip, networks, isRemote }

end HostRouting.Container
