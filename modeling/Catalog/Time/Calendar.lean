/-!
# The proleptic Gregorian calendar

Dates as year, month and day, with the Gregorian leap rule extended to all years (year 0
and negative years included), and their day numbers counted from 1970-01-01.

* `Calendar.daysInMonth`: 28 to 31.
* `Calendar.dayNumber`, `Calendar.ofDayNumber`: a date's day count and back.
-/

namespace Catalog

namespace Calendar

/-- Whether a year has 366 days: divisible by 4, and not by 100 unless by 400. -/
def isLeapYear (y : Int) : Bool := y % 4 = 0 && (y % 100 ≠ 0 || y % 400 = 0)

/-- The number of days of a month (1 to 12) in a year. -/
def daysInMonth (y : Int) (m : Nat) : Nat :=
  if m = 2 then (if isLeapYear y then 29 else 28)
  else if m = 4 ∨ m = 6 ∨ m = 9 ∨ m = 11 then 30
  else 31

/-- **The day number** of a date: days since 1970-01-01, negative before it. Counts in eras
of 400 years starting in March, so that the leap day ends each year. -/
def dayNumber (y : Int) (m d : Nat) : Int :=
  let y' := if m ≤ 2 then y - 1 else y
  let era := y'.fdiv 400
  let yoe := y' - era * 400
  let mp : Int := if m > 2 then (m : Int) - 3 else (m : Int) + 9
  let doy := (153 * mp + 2) / 5 + (d : Int) - 1
  let doe := yoe * 365 + yoe / 4 - yoe / 100 + doy
  era * 146097 + doe - 719468

/-- **The date of a day number**: year, month and day. -/
def ofDayNumber (z : Int) : Int × Nat × Nat :=
  let z := z + 719468
  let era := z.fdiv 146097
  let doe := z - era * 146097
  let yoe := (doe - doe / 1460 + doe / 36524 - doe / 146096) / 365
  let y := yoe + era * 400
  let doy := doe - (365 * yoe + yoe / 4 - yoe / 100)
  let mp := (5 * doy + 2) / 153
  let d := doy - (153 * mp + 2) / 5 + 1
  let m := if mp < 10 then mp + 3 else mp - 9
  ((if m ≤ 2 then y + 1 else y), m.toNat, d.toNat)

example : dayNumber 1970 1 1 = 0 := by decide
example : ofDayNumber (dayNumber 2024 2 29) = (2024, 2, 29) := by decide
example : ofDayNumber (dayNumber 0 1 1 - 1) = (-1, 12, 31) := by decide

end Calendar

end Catalog
