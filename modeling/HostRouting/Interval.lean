import HostRouting.Number.Binary64

/-!
# Intervals

How long to wait. On the command line an interval may be given without a value; there is then no
number to wait for, which shows when it comes to waiting.
-/

namespace HostRouting

/-- A time to wait. -/
inductive Interval where
  /-- A number of seconds. -/
  | seconds (x : Number.Binary64)
  /-- No number was given. -/
  | missing
  deriving DecidableEq, Repr, Inhabited

/-- The longest wait that the clock can count, in seconds. -/
def Interval.longest : Nat := 9223372036

end HostRouting
