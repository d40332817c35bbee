/-!
# Moments

A moment is a day of the Gregorian calendar, or a microsecond in some time: either in universal time or
in a time that is not said. Days are counted from the first of March of the year zero, so that a leap
day is the last day of its year.

* `Moment.ofFields`: the moment with given calendar fields, or what is wrong with them.
* `Moment.text`: the form of a moment in an HTTP header.
-/

namespace UnitConversion

/-- What is wrong with the fields of a moment. -/
inductive MomentError where
  /-- A time that is a day or more ahead of universal time or behind it. -/
  | offset (minutes : Int)
  | year (n : Nat)
  | month
  | day
  | hour
  | minute
  | second
deriving DecidableEq, Repr

namespace MomentError

/-- A time span as days and the seconds behind them. -/
def spanText (minutes : Int) : String :=
  let days := minutes / 1440
  let seconds := minutes % 1440 * 60
  let daysText := if days = 0 then "" else s!"days={days}"
  let secondsText := if seconds = 0 then "" else s!"seconds={seconds}"
  let separator := if days = 0 || seconds = 0 then "" else ", "
  s!"datetime.timedelta({daysText}{separator}{secondsText})"

def message : MomentError → String
  | .offset minutes =>
    "offset must be a timedelta strictly between -timedelta(hours=24) and timedelta(hours=24), " ++
      s!"not {spanText minutes}."
  | .year n => s!"year {n} is out of range"
  | .month => "month must be in 1..12"
  | .day => "day is out of range for month"
  | .hour => "hour must be in 0..23"
  | .minute => "minute must be in 0..59"
  | .second => "second must be in 0..59"

end MomentError

/-- A day, or a microsecond since day zero. -/
inductive Moment where
  | date (number : Nat)
  | instant (isUniversal : Bool) (microseconds : Int)
deriving DecidableEq, Repr

namespace Moment

/-! ## The calendar -/

def isLeap (year : Nat) : Bool := year % 4 == 0 && (year % 100 != 0 || year % 400 == 0)

def daysOfMonth (year month : Nat) : Nat :=
  if month = 2 then (if isLeap year then 29 else 28)
  else if [4, 6, 9, 11].contains month then 30
  else 31

/-- The number of a day. -/
def dayNumber (year month day : Nat) : Nat :=
  let y := if month ≤ 2 then year - 1 else year
  let months := (month + 9) % 12
  365 * y + y / 4 - y / 100 + y / 400 + (153 * months + 2) / 5 + (day - 1)

/-- Year, month and day of the day with a number. -/
def calendarDay (days : Nat) : Nat × Nat × Nat :=
  let inCycle := days % 146097
  let yearInCycle := (inCycle - inCycle / 1460 + inCycle / 36524 - inCycle / 146096) / 365
  let inYear := inCycle - (365 * yearInCycle + yearInCycle / 4 - yearInCycle / 100)
  let months := (5 * inYear + 2) / 153
  let day := inYear - (153 * months + 2) / 5 + 1
  let month := if months < 10 then months + 3 else months - 9
  let year := days / 146097 * 400 + yearInCycle
  (if month ≤ 2 then year + 1 else year, month, day)

/-! ## Reading -/

/-- The number of the day with the given calendar fields. -/
def dayOf (year month day : Nat) : Except MomentError Nat :=
  if year = 0 then .error (.year year)
  else if month = 0 ∨ 12 < month then .error .month
  else if day = 0 ∨ daysOfMonth year month < day then .error .day
  else .ok (dayNumber year month day)

/-- A time of day. -/
structure Clock where
  hour : Nat
  minute : Nat
  second : Nat
  microsecond : Nat
  /-- The minutes that the time is ahead of universal time, if it is said. -/
  offset? : Option Int

/-- The microsecond of a time of day. -/
def Clock.microseconds (c : Clock) : Nat :=
  ((c.hour * 60 + c.minute) * 60 + c.second) * 1000000 + c.microsecond

/-- The moment with the given fields. -/
def ofFields (year month day : Nat) (clock? : Option Clock) : Except MomentError Moment := do
  match clock? with
  | none => return .date (← dayOf year month day)
  | some clock =>
    let offset := clock.offset?.getD 0
    if 1440 ≤ offset.natAbs then throw (.offset offset)
    let number ← dayOf year month day
    if 23 < clock.hour then throw .hour
    if 59 < clock.minute then throw .minute
    if 59 < clock.second then throw .second
    let reading : Int := number * 86400000000 + clock.microseconds
    return .instant clock.offset?.isSome (reading - offset * 60000000)

/-! ## Writing -/

def weekdays : List String := ["Sun", "Mon", "Tue", "Wed", "Thu", "Fri", "Sat"]

def months : List String :=
  ["Jan", "Feb", "Mar", "Apr", "May", "Jun", "Jul", "Aug", "Sep", "Oct", "Nov", "Dec"]

/-- A number with zeros in front. -/
def padded (width n : Nat) : String :=
  let digits := toString n
  String.ofList (List.replicate (width - digits.length) '0') ++ digits

/-- A second of a day as a header writes it. -/
def secondText (days second : Nat) : String :=
  let (year, month, day) := calendarDay days
  let weekday := weekdays.getD ((days + 3) % 7) ""
  let monthName := months.getD (month - 1) ""
  let date := s!"{weekday}, {padded 2 day} {monthName} {padded 4 year}"
  let time := s!"{padded 2 (second / 3600)}:{padded 2 (second / 60 % 60)}:{padded 2 (second % 60)}"
  s!"{date} {time} GMT"

/-- The first second of the calendar, and the first one behind it. -/
def calendarBounds : Int × Int := (dayNumber 1 1 1 * 86400, dayNumber 10000 1 1 * 86400)

/-- The moment as a header writes it. A day is written as its first second. In universal time a moment
can lie outside of the calendar, and then it cannot be written. -/
def text? : Moment → Option String
  | .date number => some (secondText number 0)
  | .instant _ microseconds =>
    let seconds := microseconds / 1000000
    if calendarBounds.1 ≤ seconds ∧ seconds < calendarBounds.2 then
      some (secondText (seconds / 86400).toNat (seconds % 86400).toNat)
    else none

end Moment

end UnitConversion
