import Scrutiny.Text.Integer

/-!
Dates of the years 1 to 9999. A date is a year, a month and a day that exists in that month.
Days are counted from the first of January of year 1, which is day 1 and a Monday; the count is
turned back into a date by walking through the years and months it spans.
-/

set_option autoImplicit false

namespace Scrutiny.Calendar

def isLeap (y : Nat) : Bool := y % 4 == 0 && (y % 100 != 0 || y % 400 == 0)

def daysInMonth (y m : Nat) : Nat :=
  if m = 2 then (if isLeap y then 29 else 28)
  else if m = 4 ∨ m = 6 ∨ m = 9 ∨ m = 11 then 30
  else 31

def lastYear : Nat := 9999

def isDate (y m d : Nat) : Bool :=
  1 ≤ y && y ≤ lastYear && 1 ≤ m && m ≤ 12 && 1 ≤ d && d ≤ daysInMonth y m

structure Date where
  year : Nat
  month : Nat
  day : Nat
  valid : isDate year month day = true
  deriving DecidableEq

def Date.of? (y m d : Nat) : Option Date :=
  if h : isDate y m d = true then some ⟨y, m, d, h⟩ else none

theorem Date.of?_self (d : Date) : Date.of? d.year d.month d.day = some d := by
  simp [Date.of?, d.valid]

def daysBeforeYear (y : Nat) : Nat :=
  (y - 1) * 365 + (y - 1) / 4 - (y - 1) / 100 + (y - 1) / 400

def daysBeforeMonth (y : Nat) : Nat → Nat
  | 0 => 0
  | 1 => 0
  | m + 1 => daysBeforeMonth y m + daysInMonth y m

def dayCount (y m d : Nat) : Nat := daysBeforeYear y + daysBeforeMonth y m + d

def Date.count (d : Date) : Nat := dayCount d.year d.month d.day

/-- The day of the week of a day count, Monday being 0. -/
def weekday (n : Nat) : Nat := (n + 6) % 7

def monthAndDay (y n : Nat) : Nat → Nat → Nat × Nat
  | 0, m => (m, n - daysBeforeMonth y m)
  | fuel + 1, m =>
    if n ≤ daysBeforeMonth y (m + 1) then (m, n - daysBeforeMonth y m)
    else monthAndDay y n fuel (m + 1)

def yearOf (n : Nat) : Nat :=
  let guess := (n - 1) / 366 + 1
  go n 40 guess
where
  go (n : Nat) : Nat → Nat → Nat
    | 0, y => y
    | fuel + 1, y => if daysBeforeYear (y + 1) < n then go n fuel (y + 1) else y

def Date.ofCount? (n : Nat) : Option Date :=
  let y := yearOf n
  let (m, d) := monthAndDay y (n - daysBeforeYear y) 11 1
  Date.of? y m d

def Date.before (a b : Date) : Bool :=
  a.year < b.year || (a.year == b.year && (a.month < b.month || (a.month == b.month && a.day < b.day)))

/-- The count of the Monday that opens the first week of a year: that week holds the year's
first Thursday. -/
def firstMonday (y : Nat) : Int :=
  let n := daysBeforeYear y + 1
  let w := weekday n
  if w ≤ 3 then (n : Int) - w else (n : Int) - w + 7

/-- Whether a year has 53 weeks: it starts on a Thursday, or is a leap year that starts on a
Wednesday. -/
def hasLongWeekYear (y : Nat) : Bool :=
  let w := weekday (daysBeforeYear y + 1)
  w == 3 || (w == 2 && isLeap y)

def Date.ofWeek? (y week day : Nat) : Option Date :=
  if 1 ≤ y ∧ y ≤ lastYear ∧ 1 ≤ week ∧ (week ≤ 52 ∨ (week = 53 ∧ hasLongWeekYear y = true)) ∧
      1 ≤ day ∧ day ≤ 7 then
    Date.ofCount? (firstMonday y + ((week - 1) * 7 + (day - 1) : Nat)).toNat
  else none

end Scrutiny.Calendar
