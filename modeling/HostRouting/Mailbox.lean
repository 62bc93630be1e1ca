import HostRouting.Event
import HostRouting.Interval
import HostRouting.Log.Entry

/-!
# Mailboxes

A mailbox keeps the events that wait for one listener, with the marker `none` for the end of the
stream of events. Offering never waits. An event is refused when the mailbox is full, for then
others wait that will be noticed; the marker has to get through, and the oldest entries make room
for it.
-/

namespace HostRouting

/-- The events that wait for a listener, the oldest first; a capacity of zero is no bound. -/
structure Mailbox where
  capacity : Nat
  items : List (Option Event) := []
  deriving DecidableEq, Repr, Inhabited

namespace Mailbox

/-- An empty mailbox; a capacity that is not positive is no bound. -/
def ofCapacity (capacity : Int) : Mailbox := { capacity := capacity.toNat }

/-! ## Offering -/

/-- The mailbox has no room for another item. -/
def isFull (m : Mailbox) : Bool := m.capacity != 0 && m.capacity ≤ m.items.length

/-- The mailbox with one more item at the end. -/
def push (m : Mailbox) (item : Option Event) : Mailbox := { m with items := m.items ++ [item] }

/-- The mailbox without its oldest item. -/
def dropOldest (m : Mailbox) : Mailbox := { m with items := m.items.tail }

/-- The outcome of an offer: the mailbox after it, whether the item was taken, and how often the
mailbox was tried. -/
structure Delivery where
  mailbox : Mailbox
  taken : Bool
  tries : Nat
  deriving DecidableEq, Repr

/-- A full mailbox has an item that can be dropped. -/
theorem dropOldest_length_lt {m : Mailbox} (h : m.isFull = true) :
    m.dropOldest.items.length < m.items.length := by
  simp only [isFull, bne_iff_ne, ne_eq, Bool.and_eq_true, decide_eq_true_eq] at h
  simp only [dropOldest, List.length_tail]
  omega

/-- Offers an item without waiting. -/
def offer (m : Mailbox) (item : Option Event) : Delivery :=
  if _h : m.isFull then
    match item with
    | some _ => ⟨m, false, 1⟩
    | none =>
      let d := m.dropOldest.offer none
      { d with tries := d.tries + 1 }
  else ⟨m.push item, true, 1⟩
termination_by m.items.length
decreasing_by exact dropOldest_length_lt _h

/-- The entry about an event that was refused. -/
def refusal (e : Event) : Except Fault Log.Entry := do
  return .aboutId "DEBUG" ("Listener queue full, dropping " ++ e.status.display ++ " event")
    (← e.containerId.short)

/-! ## Taking -/

/-- Takes the oldest item without waiting. -/
def poll (m : Mailbox) : Option (Option Event) × Mailbox := (m.items.head?, m.dropOldest)

/-- Takes the oldest item, or nothing after waiting in vain. A wait without a number and a negative
wait are faults whatever the mailbox holds; one that the clock cannot count is a fault if there is
something to wait for. A wait whose seconds are not a number is in vain at once here, where in truth
it would last until something comes. -/
def take (m : Mailbox) : Interval → Except Fault (Option (Option Event)) × Mailbox
  | .missing => (.error (.incomparable "<"), m)
  | .seconds wait =>
    if wait.isBelowZero then (.error .negativeWait, m)
    else match m.items with
      | [] => (if wait.exceeds Interval.longest then .error .endlessWait else .ok none, m)
      | item :: rest => (.ok (some item), { m with items := rest })

end Mailbox

end HostRouting
