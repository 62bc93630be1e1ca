import HostRouting.Table

/-!
# The board

Where the last published table is read by others. Each publication has a number and a time.
-/

namespace HostRouting

/-- The last published table, how many were published, and when the last one was. -/
structure Board where
  table : Table := .empty
  generation : Nat := 0
  updatedAt : Option String := none

namespace Board

instance : Inhabited Board := ⟨{}⟩

/-- Publishes a table at a time. -/
def publish (b : Board) (now : String) (t : Table) : Board :=
  { table := t, generation := b.generation + 1, updatedAt := some now }

/-- The published route under a key. -/
def get? (b : Board) (key : String) : Option Route := b.table.get? key

end Board

end HostRouting
