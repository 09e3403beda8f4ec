import Chartwright.Text.Digits

/-!
# Calendar

The proleptic Gregorian calendar of the years 1 to 9999. A date is the number of days since the
first of January of year 1.
-/

namespace Chartwright

/-- A day, counted from 0001-01-01. -/
structure Date where
  days : Nat
deriving DecidableEq, Repr

namespace Date

/-- Whether a year has a 29th of February. -/
def isLeap (year : Nat) : Bool :=
  year % 4 = 0 && (year % 100 ≠ 0 || year % 400 = 0)

/-- The number of days of a month. -/
def daysInMonth (year month : Nat) : Nat :=
  if month = 2 then (if isLeap year then 29 else 28)
  else if month ∈ [4, 6, 9, 11] then 30 else 31

/-- The number of days before a year. -/
def daysBeforeYear (year : Nat) : Nat :=
  let y := year - 1
  365 * y + y / 4 - y / 100 + y / 400

/-- The number of days of a year before a month. -/
def daysBeforeMonth (year month : Nat) : Nat :=
  ((List.range month).drop 1).foldl (fun n m => n + daysInMonth year m) 0

/-- The date of a year, month and day, if there is such a day. -/
def ofCivil? (year month day : Nat) : Option Date :=
  if 1 ≤ year ∧ year ≤ 9999 ∧ 1 ≤ month ∧ month ≤ 12 ∧ 1 ≤ day ∧ day ≤ daysInMonth year month then
    some ⟨daysBeforeYear year + daysBeforeMonth year month + (day - 1)⟩
  else none

/-- The year of a date: at most the quotient by the mean length of a year, and at least one less. -/
def year (d : Date) : Nat :=
  let guess := d.days * 400 / 146097 + 1
  if d.days < daysBeforeYear guess then guess - 1
  else if daysBeforeYear (guess + 1) ≤ d.days then guess + 1
  else guess

/-- The month of a date. -/
def month (d : Date) : Nat :=
  let dayOfYear := d.days - daysBeforeYear d.year
  (((List.range 13).drop 1).filter fun m => daysBeforeMonth d.year m ≤ dayOfYear).length

/-- The day of the month of a date. -/
def day (d : Date) : Nat :=
  d.days - daysBeforeYear d.year - daysBeforeMonth d.year d.month + 1

/-- The number of days from year 1 to the end of year 9999. -/
def limit : Nat := daysBeforeYear 10000

/-- A date as `YYYY-MM-DD`. -/
def render (d : Date) : String :=
  Text.padded 4 d.year ++ "-" ++ Text.padded 2 d.month ++ "-" ++ Text.padded 2 d.day

/-- Reads `YYYY-MM-DD` at the head of a text. -/
def read? (cs : List Char) : Option (Date × List Char) := do
  let (y, cs) ← Text.takeDigits? 4 cs
  let '-' :: cs := cs | none
  let (m, cs) ← Text.takeDigits? 2 cs
  let '-' :: cs := cs | none
  let (d, cs) ← Text.takeDigits? 2 cs
  let date ← ofCivil? y m d
  some (date, cs)

end Date

end Chartwright
