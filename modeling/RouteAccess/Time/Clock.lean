/-
RouteAccess/Time/Clock.lean

The clocks of a machine at one instant: one of them shows universal time, the
other one the local time, which need not go forward with it.  A deadline is
held against the clock that it was written for: one whose distance from
universal time is known against the first, any other against the local one.
-/
import RouteAccess.Time.Moment

namespace RouteAccess

/-- What the clocks of a machine show at one instant, in microseconds since the
start of 1970. -/
structure Clock where
  /-- universal time -/
  instant : Int
  /-- local time -/
  wall : Int
deriving DecidableEq, Repr

namespace Clock

/-- The clocks of a machine whose local time is universal time. -/
def universal (instant : Int) : Clock :=
  ⟨instant, instant⟩

/-- What is read off the clocks, with the distance from universal time or
without it. -/
def reading (c : Clock) (known : Bool) : Moment :=
  if known then .universal c.instant else ⟨c.wall, none⟩

/-- Whether a deadline is not over. -/
def IsWithin (c : Clock) (deadline : Moment) : Prop :=
  (c.reading deadline.ahead.isSome).instant ≤ deadline.instant

instance (c : Clock) (deadline : Moment) : Decidable (c.IsWithin deadline) :=
  inferInstanceAs (Decidable (_ ≤ _))

end Clock

end RouteAccess
