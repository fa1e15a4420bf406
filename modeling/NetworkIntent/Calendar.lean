import NetworkIntent.Text.Numeral

/-!
# Calendar

Instants are seconds since the start of 1970, in universal time, and days follow the Gregorian
calendar without end in both directions. There is a year zero before the year one.

## Main definitions

* `Calendar.Date`: a day of the calendar, and `Calendar.ofDay` the date of a day number.
* `Calendar.Minute`: a minute of a day, and `Calendar.minuteOf` the minute of an instant.
* `Calendar.Minute.stamp`: the digits of a minute.
-/

set_option autoImplicit false

namespace NetworkIntent.Calendar

/-- A day of the calendar. -/
structure Date where
  year : Int
  month : Nat
  day : Nat
  deriving DecidableEq, Repr

/-- Whether a year has a leap day. -/
def isLeap (year : Int) : Bool :=
  year % 4 = 0 && (year % 100 ≠ 0 || year % 400 = 0)

/-- The number of days of a month. -/
def daysInMonth (year : Int) (month : Nat) : Nat :=
  if month = 2 then if isLeap year then 29 else 28
  else if month = 4 ∨ month = 6 ∨ month = 9 ∨ month = 11 then 30
  else 31

/-- The number of days before a year, counted from the start of year zero. -/
def daysBeforeYear (year : Int) : Int :=
  let past := year - 1
  365 * year + past / 4 - past / 100 + past / 400 + 1

/-- The first day of 1970, counted from the start of year zero. -/
def epochDay : Int := 719528

/-- The year that holds a day, counted from the start of year zero. A year has 365.2425 days on
average, which gives the year or one next to it. -/
def yearOf (day : Int) : Int :=
  let guess := day * 400 / 146097
  if day < daysBeforeYear guess then guess - 1
  else if daysBeforeYear (guess + 1) ≤ day then guess + 1
  else guess

/-- The month and the day of the month of a day of a year, counted from zero. The months are
searched from `month` on. -/
def splitYearDay (year : Int) (month : Nat) : (months : Nat) → (day : Nat) → Nat × Nat
  | 0, day => (month, day + 1)
  | months + 1, day =>
    if day < daysInMonth year month then (month, day + 1)
    else splitYearDay year (month + 1) months (day - daysInMonth year month)

/-- The date of a day, counted from the first day of 1970. -/
def ofDay (day : Int) : Date :=
  let day := day + epochDay
  let year := yearOf day
  let (month, dayOfMonth) := splitYearDay year 1 11 (day - daysBeforeYear year).toNat
  ⟨year, month, dayOfMonth⟩

/-- A minute of a day. -/
structure Minute where
  date : Date
  hour : Nat
  minute : Nat
  deriving DecidableEq, Repr

/-- The minute of an instant. -/
def minuteOf (seconds : Int) : Minute :=
  let minutes := seconds / 60
  let ofDayMinutes := (minutes % 1440).toNat
  ⟨ofDay (minutes / 1440), ofDayMinutes / 60, ofDayMinutes % 60⟩

/-- A number with at least two digits. -/
def twoDigits (n : Nat) : List Char :=
  padZeros 2 (Nat.toDigits 10 n)

/-- A year with at least four digits. Years of more digits have a plus sign, and years before year
zero a minus sign. -/
def writeYear (year : Int) : List Char :=
  if year < 0 then '-' :: padZeros 4 (Nat.toDigits 10 year.natAbs)
  else if 9999 < year then '+' :: Nat.toDigits 10 year.natAbs
  else padZeros 4 (Nat.toDigits 10 year.natAbs)

/-- The digits of a minute: year, month, day, hour and minute. -/
def Minute.stamp (m : Minute) : List Char :=
  writeYear m.date.year ++ twoDigits m.date.month ++ twoDigits m.date.day ++ twoDigits m.hour
    ++ twoDigits m.minute

end NetworkIntent.Calendar
