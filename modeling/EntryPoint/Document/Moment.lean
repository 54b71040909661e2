/-
# Dates and moments

Calendar dates and moments of a day, the latter with a distance from universal
time or without, and the two ways in which they are written.

## Main definitions

* `Date.isValid`, `Moment.isValid` - what the calendar and the clock allow.
* `Moment.isSimultaneous` - whether two moments are one point of time.
* `Date.text`, `Moment.text` - the written form.
* `Date.constructor`, `Moment.constructor` - the form inside collections.
-/

import EntryPoint.Text.Digits

namespace EntryPoint.Document

open Text

/-- A calendar date. -/
structure Date where
  year : Nat
  month : Nat
  day : Nat
  deriving DecidableEq

/-- A moment of a day, to the microsecond. The distance from universal time is in minutes. -/
structure Moment where
  date : Date
  hour : Nat
  minute : Nat
  second : Nat
  microsecond : Nat
  distance : Option Int
  deriving DecidableEq

/-- Whether a year has a day more. -/
def isLeapYear (year : Nat) : Bool :=
  year % 4 = 0 && (year % 100 ≠ 0 || year % 400 = 0)

/-- The number of days of a month. -/
def daysInMonth (year month : Nat) : Nat :=
  if month = 2 then (if isLeapYear year then 29 else 28)
  else if [4, 6, 9, 11].contains month then 30
  else 31

/-- A number in so many digits at least. -/
def padded (width n : Nat) : String :=
  String.ofList (paddedNumeral 10 width n)

namespace Date

/-- The number of days from the first day of the calendar to a date. -/
def dayNumber (date : Date) : Nat :=
  let years := date.year - 1
  let months := (List.range (date.month - 1)).foldl
    (fun days index => days + daysInMonth date.year (index + 1)) 0
  years * 365 + years / 4 - years / 100 + years / 400 + months + date.day

/-- Whether the calendar has the date. -/
def isValid (date : Date) : Bool :=
  1 ≤ date.year && date.year ≤ 9999 && 1 ≤ date.month && date.month ≤ 12 && 1 ≤ date.day &&
    date.day ≤ daysInMonth date.year date.month

/-- The written form, for instance `2001-12-14`. -/
def text (date : Date) : String :=
  padded 4 date.year ++ "-" ++ padded 2 date.month ++ "-" ++ padded 2 date.day

/-- The numbers of a date. -/
def numbers (date : Date) : List Nat :=
  [date.year, date.month, date.day]

/-- The form inside collections. -/
def constructor (date : Date) : String :=
  "datetime.date(" ++ ", ".intercalate (date.numbers.map decimal) ++ ")"

end Date

namespace Moment

/-- Whether the clock has the moment; a distance must be less than a day. -/
def isValid (moment : Moment) : Bool :=
  moment.date.isValid && moment.hour < 24 && moment.minute < 60 && moment.second < 60 &&
    (moment.distance.map fun distance => decide (distance.natAbs < 1440)).getD true

/-- The minutes from the first day of the calendar to a moment, by the clock. -/
def clockMinutes (moment : Moment) : Int :=
  (moment.date.dayNumber * 1440 + moment.hour * 60 + moment.minute : Nat)

/-- Whether two moments are the same point of time. A moment of unknown distance from universal
time is never the same as one of known distance. -/
def isSimultaneous (a b : Moment) : Bool :=
  let known := match a.distance, b.distance with
    | none, none => some (a.clockMinutes, b.clockMinutes)
    | some s, some t => some (a.clockMinutes - s, b.clockMinutes - t)
    | _, _ => none
  match known with
  | some (m, n) => m = n && a.second = b.second && a.microsecond = b.microsecond
  | none => false

/-- A distance from universal time, for instance `+05:30`. -/
def distanceText (distance : Int) : String :=
  let minutes := distance.natAbs
  (if distance < 0 then "-" else "+") ++ padded 2 (minutes / 60) ++ ":" ++ padded 2 (minutes % 60)

/-- The written form, for instance `2001-12-14 21:59:43.100000-05:00`. -/
def text (moment : Moment) : String :=
  let fraction := if moment.microsecond = 0 then "" else "." ++ padded 6 moment.microsecond
  moment.date.text ++ " " ++ padded 2 moment.hour ++ ":" ++ padded 2 moment.minute ++ ":" ++
    padded 2 moment.second ++ fraction ++ (moment.distance.map distanceText).getD ""

/-- A distance from universal time inside collections; a negative one counts back from a day. -/
def distanceConstructor (distance : Int) : String :=
  if distance = 0 then "datetime.timezone.utc"
  else
    let seconds := distance * 60
    let delta :=
      if seconds < 0 then "days=-1, seconds=" ++ decimalInt (seconds + 86400)
      else "seconds=" ++ decimalInt seconds
    "datetime.timezone(datetime.timedelta(" ++ delta ++ "))"

/-- The numbers of a moment; zeros of second and microsecond are left out at the end. -/
def numbers (moment : Moment) : List Nat :=
  moment.date.numbers ++ [moment.hour, moment.minute] ++
    (if moment.microsecond ≠ 0 then [moment.second, moment.microsecond]
      else if moment.second ≠ 0 then [moment.second]
      else [])

/-- The form inside collections. -/
def constructor (moment : Moment) : String :=
  let distance := match moment.distance with
    | some distance => ["tzinfo=" ++ distanceConstructor distance]
    | none => []
  "datetime.datetime(" ++ ", ".intercalate (moment.numbers.map decimal ++ distance) ++ ")"

end Moment

end EntryPoint.Document
