import LineagePorts.Calendar

/-!
# Instants

A moment in universal time to the nanosecond: a date, a second of the day, and nanoseconds. From
10^9 nanoseconds on the moment lies in a leap second, which follows the last second of a minute.
-/

namespace LineagePorts

namespace Calendar

def isTimeOfDay (second nano : Nat) : Bool :=
  second < 86400 && nano < 2000000000 && (nano < 1000000000 || second % 60 = 59)

end Calendar

structure Instant where
  date : Date
  second : Nat
  nano : Nat
  valid : Calendar.isTimeOfDay second nano = true
deriving DecidableEq

namespace Instant

def of? (date : Date) (second nano : Nat) : Option Instant :=
  if h : Calendar.isTimeOfDay second nano = true then some ⟨date, second, nano, h⟩ else none

/-- The instant that lies this many nanoseconds after the start of 1970. -/
def ofNanoseconds? (n : Int) : Option Instant := do
  let date ← Date.ofDayNumber? (n / 86400000000000)
  let rest := (n % 86400000000000).toNat
  of? date (rest / 1000000000) (rest % 1000000000)

/-- Milliseconds since the start of 1970, rounded down. -/
def milliseconds (t : Instant) : Int :=
  (t.date.dayNumber * 86400 + t.second) * 1000 + (t.nano / 1000000 : Nat)

/-- The start of 1970. -/
def epoch : Instant := ⟨⟨1970, 1, 1, rfl⟩, 0, 0, rfl⟩

instance : Inhabited Instant := ⟨epoch⟩

end Instant

end LineagePorts
