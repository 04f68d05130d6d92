import Scrutiny.Calendar.Date

/-!
Moments: a date with a time of day down to the microsecond and, if it is known, the offset of
its clock from universal time in seconds. Two moments can be told apart in time only when both
offsets are known or neither is.
-/

set_option autoImplicit false

namespace Scrutiny.Calendar

structure Moment where
  date : Date
  hour : Nat
  minute : Nat
  second : Nat
  microsecond : Nat
  offset : Option Int
  deriving DecidableEq

def Moment.isAware (m : Moment) : Bool := m.offset.isSome

def Moment.clock (m : Moment) : Int :=
  ((((m.date.count * 24 + m.hour) * 60 + m.minute) * 60 + m.second) * 1000000 + m.microsecond : Nat)

def Moment.instant (m : Moment) : Int := m.clock - m.offset.getD 0 * 1000000

/-- The order of two moments in time; none if only one of them has an offset. -/
def Moment.compare? (a b : Moment) : Option Ordering :=
  if a.isAware = b.isAware then some (compare a.instant b.instant) else none

end Scrutiny.Calendar
