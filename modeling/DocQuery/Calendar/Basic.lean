/-! # Calendar

Dates of the Gregorian calendar, extended to all years, and moments counted in
milliseconds from the start of 1970.  A day is found by first finding its year,
then walking through the lengths of that year's months; so a day number is always
the days before its year, plus the days before its month, plus the days before
the day itself. -/
namespace DocQuery.Calendar

/-- Whether February has 29 days. -/
def isLeap (year : Int) : Bool := year % 4 = 0 && (year % 100 ≠ 0 || year % 400 = 0)

/-- Days from the start of year 1 to the start of `year`. -/
def daysBeforeYear (year : Int) : Int :=
  365 * (year - 1) + (year - 1) / 4 - (year - 1) / 100 + (year - 1) / 400

/-- The lengths of the months. -/
def monthLengths (leap : Bool) : List Nat :=
  [31, if leap then 29 else 28, 31, 30, 31, 30, 31, 31, 30, 31, 30, 31]

/-- Days from the start of year 1 to the start of 1970. -/
def epoch : Int := 719162

/-- A day of the calendar; months and days count from one. -/
structure Date where
  year : Int
  month : Nat
  day : Nat
  deriving DecidableEq

namespace Date

/-- Whether there is such a day. -/
def isValid (d : Date) : Bool :=
  1 ≤ d.month && 1 ≤ d.day && d.day ≤ (monthLengths (isLeap d.year)).getD (d.month - 1) 0

/-- Days from the start of 1970. -/
def toDays (d : Date) : Int :=
  let months : Nat := ((monthLengths (isLeap d.year)).take (d.month - 1)).foldr (· + ·) 0
  daysBeforeYear d.year + months + d.day - 1 - epoch

end Date

/-- The year of the day with the number `n`, counted from the start of year 1.  The mean
length of a year gives it up to one year. -/
def yearOf (n : Int) : Int :=
  let year := n * 400 / 146097 + 1
  if n < daysBeforeYear year then year - 1
  else if daysBeforeYear (year + 1) ≤ n then year + 1
  else year

/-- Walks through months, the first of which has the number `month`, to the one that holds
the day `n`, counted from zero. -/
def inMonths (month : Nat) : List Nat → Nat → Nat × Nat
  | [], n => (month, n + 1)
  | length :: rest, n =>
      if n < length then (month, n + 1) else inMonths (month + 1) rest (n - length)

/-- The day that comes `n` days after the start of 1970. -/
def Date.ofDays (n : Int) : Date :=
  let year := yearOf (n + epoch)
  let dayOfYear := (n + epoch - daysBeforeYear year).toNat
  let (month, day) := inMonths 1 (monthLengths (isLeap year)) dayOfYear
  ⟨year, month, day⟩

/-- A moment: a day, and the milliseconds since its midnight. -/
structure Moment where
  date : Date
  millis : Nat
  deriving DecidableEq

namespace Moment

/-- Milliseconds in a day. -/
def dayLength : Nat := 86400000

/-- The moment `n` milliseconds after the start of 1970. -/
def ofMillis (n : Int) : Moment :=
  ⟨Date.ofDays (n / dayLength), (n % dayLength).toNat⟩

/-- Milliseconds from the start of 1970. -/
def toMillis (m : Moment) : Int := m.date.toDays * dayLength + m.millis

def hour (m : Moment) : Nat := m.millis / 3600000

def minute (m : Moment) : Nat := m.millis / 60000 % 60

def second (m : Moment) : Nat := m.millis / 1000 % 60

def milli (m : Moment) : Nat := m.millis % 1000

end Moment

example : Date.ofDays 0 = ⟨1970, 1, 1⟩ := by decide
example : Date.ofDays 11016 = ⟨2000, 2, 29⟩ := by decide
example : Date.ofDays (-719163) = ⟨0, 12, 31⟩ := by decide
example : Date.toDays ⟨2024, 2, 29⟩ = 19782 := by decide

end DocQuery.Calendar
