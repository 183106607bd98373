/-!
Days and moments of the calendar, as documents write them. A moment may say by how much its clock is
ahead of universal time; two such moments are the same when they fall together, whatever their
clocks say.
-/
namespace CallTone

structure Day where
  year : Nat
  month : Nat
  day : Nat
deriving DecidableEq, Repr

namespace Day

def isLeapYear (year : Nat) : Bool := year % 4 == 0 && (year % 100 != 0 || year % 400 == 0)

def daysInMonth (year month : Nat) : Nat :=
  if month = 2 then (if isLeapYear year then 29 else 28)
  else if month = 4 ∨ month = 6 ∨ month = 9 ∨ month = 11 then 30
  else 31

/-- The days before a year, counted from year 1. -/
def daysBeforeYear (year : Nat) : Nat :=
  let past := year - 1
  past * 365 + past / 4 - past / 100 + past / 400

/-- The number of a day, counted from year 1. -/
def ordinal (d : Day) : Nat :=
  daysBeforeYear d.year + (List.range d.month).foldr (fun month days =>
    (if month = 0 then 0 else daysInMonth d.year month) + days) 0 + d.day

end Day

/-- A moment: a day, a time of day, and how many minutes the clock is ahead of universal time. -/
structure Moment where
  day : Day
  hour : Nat
  minute : Nat
  second : Nat
  microsecond : Nat
  offset : Option Int
deriving DecidableEq, Repr

namespace Moment

/-- The microseconds on the moment's own clock. -/
def clock (m : Moment) : Nat :=
  (((m.day.ordinal * 24 + m.hour) * 60 + m.minute) * 60 + m.second) * 1000000 + m.microsecond

/-- Whether two moments are the same. A moment with an offset is never one without. -/
def same (m n : Moment) : Bool :=
  match m.offset, n.offset with
  | none, none => m.clock == n.clock
  | some a, some b => (m.clock : Int) - a * 60000000 == (n.clock : Int) - b * 60000000
  | _, _ => false

end Moment
end CallTone
