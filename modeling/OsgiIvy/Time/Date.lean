/-!
# Dates

Days of the Gregorian calendar, extended backwards to the year 1 and ending with the year 9999,
and their count from 1 January of the year 1, which is day 1.
-/

namespace OsgiIvy.Time

def isLeap (year : Nat) : Bool := year % 4 = 0 && (year % 100 ≠ 0 || year % 400 = 0)

def daysInMonth (year month : Nat) : Nat :=
  if month = 2 then (if isLeap year then 29 else 28)
  else if month = 4 || month = 6 || month = 9 || month = 11 then 30
  else 31

structure Date where
  year : Nat
  month : Nat
  day : Nat
deriving DecidableEq, Repr

namespace Date

/-- A day that the calendar has. -/
def isValid (d : Date) : Bool :=
  1 ≤ d.year && d.year ≤ 9999 && 1 ≤ d.month && d.month ≤ 12 && 1 ≤ d.day &&
    d.day ≤ daysInMonth d.year d.month

def ofYearMonthDay? (year month day : Nat) : Option Date :=
  let d : Date := ⟨year, month, day⟩
  if d.isValid then some d else none

/-! ### Counting days -/

/-- The days of all years before `year`. -/
def daysBeforeYear (year : Nat) : Nat :=
  let y := year - 1
  y * 365 + y / 4 - y / 100 + y / 400

/-- The days of the year before the month. -/
def daysBeforeMonth (year month : Nat) : Nat :=
  ((List.range month).drop 1).foldl (fun n m => n + daysInMonth year m) 0

/-- The number of the day, counted from 1 January of the year 1. -/
def ordinal (d : Date) : Nat := daysBeforeYear d.year + daysBeforeMonth d.year d.month + d.day

/-- The month and day of a day counted within its year from 0: months of `year` are passed, at
most `months` of them, while whole ones fit. -/
def monthDay (year : Nat) : Nat → Nat → Nat → Nat × Nat
  | 0, month, rest => (month, rest + 1)
  | months + 1, month, rest =>
    let n := daysInMonth year month
    if rest < n then (month, rest + 1) else monthDay year months (month + 1) (rest - n)

/-- The day with a number. -/
def ofOrdinal (n : Nat) : Date :=
  let n := n - 1
  let guess := n / 366 + 1
  let year := ((List.range 30).map (guess + ·)).foldl
    (fun best y => if daysBeforeYear y ≤ n then y else best) guess
  let (month, day) := monthDay year 11 1 (n - daysBeforeYear year)
  ⟨year, month, day⟩

/-! ### Weeks -/

/-- The Monday that begins the first week of a year: the week with the year's first Thursday. -/
def firstMonday (year : Nat) : Nat :=
  let first := daysBeforeYear year + 1
  let weekday := (first + 6) % 7
  let monday := first - weekday
  if weekday > 3 then monday + 7 else monday

/-- A year has a 53rd week if it begins on a Thursday, or is a leap year that begins on a
Wednesday. -/
def weeksInYear (year : Nat) : Nat :=
  let weekday := (daysBeforeYear year + 1) % 7
  if weekday = 4 || (weekday = 3 && isLeap year) then 53 else 52

/-- The day of a week of a year; days count from Monday, which is 1. -/
def ofWeek? (year week day : Nat) : Option Date :=
  if 1 ≤ year && year ≤ 9999 && 1 ≤ week && week ≤ weeksInYear year && 1 ≤ day && day ≤ 7 then
    let n := firstMonday year + (week - 1) * 7 + (day - 1)
    let d := ofOrdinal n
    if 1 ≤ n && d.isValid then some d else none
  else none

end Date

end OsgiIvy.Time
