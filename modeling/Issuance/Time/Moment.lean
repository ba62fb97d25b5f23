namespace Issuance

/-- A moment is a second counted from 1970-01-01T00:00:00Z or the leap second that follows it. -/
structure Moment where
  second : Int
  isLeap : Bool := false
  deriving DecidableEq, Repr, Inhabited

namespace Moment

/-- The calendar starts with the year -262143. -/
def firstSecond : Int := -8334601228800

/-- The calendar ends with the year 262142. -/
def lastSecond : Int := 8210266876799

/-- The calendar has the second of a moment. -/
def isInCalendar (moment : Moment) : Bool :=
  firstSecond ≤ moment.second && moment.second ≤ lastSecond

/-- More than a second of nanoseconds stands for the leap second at the end of a minute. -/
def ofNanoseconds? (second : Int) (nanoseconds : Nat) : Option Moment :=
  let isLeap := 1000000000 ≤ nanoseconds
  let moment : Moment := { second, isLeap }
  if !moment.isInCalendar || 2000000000 ≤ nanoseconds then none
  else if isLeap && second.fmod 60 ≠ 59 then none
  else some moment

end Moment

end Issuance
