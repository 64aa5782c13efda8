/-!
# Dates and moments

A date of the Gregorian calendar, years 1 to 9999, and a moment of a day with an optional distance
from universal time. `Date.make?` and `Moment.make?` refuse what is no date or time; the texts are
those of the international standard.
-/

namespace AppCatalog

/-- A date. -/
structure Date where
  year : Nat
  month : Nat
  day : Nat
  deriving DecidableEq, Repr

/-- A moment on a date. -/
structure Moment where
  date : Date
  hour : Nat
  minute : Nat
  second : Nat
  microsecond : Nat
  /-- Seconds ahead of universal time, if they are known. -/
  ahead : Option Int
  deriving DecidableEq, Repr

/-- Whether a year has a leap day. -/
def isLeap (year : Nat) : Bool := year % 4 == 0 && (year % 100 != 0 || year % 400 == 0)

def daysIn (year : Nat) : Nat → Nat
  | 2 => if isLeap year then 29 else 28
  | 4 | 6 | 9 | 11 => 30
  | _ => 31

/-- A number of at least `width` digits. -/
def padDigits (width n : Nat) : String :=
  let ds := Nat.toDigits 10 n
  String.ofList (List.replicate (width - ds.length) '0' ++ ds)

namespace Date

/-- The date of three numbers, if there is one. -/
def make? (year month day : Nat) : Option Date :=
  if 1 ≤ year && year ≤ 9999 && 1 ≤ month && month ≤ 12 && 1 ≤ day && day ≤ daysIn year month then
    some ⟨year, month, day⟩
  else none

/-- The date as year, month and day. -/
def text (d : Date) : String :=
  padDigits 4 d.year ++ "-" ++ padDigits 2 d.month ++ "-" ++ padDigits 2 d.day

/-- How many days have passed before a year since the first day of year one. -/
def daysBefore (year : Nat) : Nat :=
  let y := year - 1
  y * 365 + y / 4 - y / 100 + y / 400

/-- The number of a date, counted from the first day of year one. -/
def number (d : Date) : Nat :=
  let months := (List.range (d.month - 1)).map fun m => daysIn d.year (m + 1)
  daysBefore d.year + months.foldl (· + ·) 0 + d.day

end Date

namespace Moment

def daySeconds : Int := 86400

/-- The moment of a date, a time of day and a distance of less than a day from universal time. -/
def make? (date : Date) (hour minute second microsecond : Nat) (ahead : Option Int) :
    Option Moment :=
  if hour ≤ 23 && minute ≤ 59 && second ≤ 59 && microsecond ≤ 999999 &&
      ahead.all (fun s => -daySeconds < s && s < daySeconds) then
    some ⟨date, hour, minute, second, microsecond, ahead⟩
  else none

/-- The time of day, with a fraction if there is one. -/
def timeText (m : Moment) : String :=
  padDigits 2 m.hour ++ ":" ++ padDigits 2 m.minute ++ ":" ++ padDigits 2 m.second ++
    if m.microsecond = 0 then "" else "." ++ padDigits 6 m.microsecond

/-- A distance from universal time in hours and minutes, and seconds if there are any. -/
def aheadText (seconds : Int) : String :=
  let n := seconds.natAbs
  (if seconds < 0 then "-" else "+") ++ padDigits 2 (n / 3600) ++ ":" ++
    padDigits 2 (n / 60 % 60) ++
    if n % 60 = 0 then "" else ":" ++ padDigits 2 (n % 60)

/-- The moment as date, a separator and the time with its distance from universal time. -/
def textWith (separator : String) (m : Moment) : String :=
  m.date.text ++ separator ++ m.timeText ++ (m.ahead.map aheadText).getD ""

/-- The moment in the form of the standard. -/
def text (m : Moment) : String := m.textWith "T"

/-- The moment in microseconds since the first day of year one, in universal time if the distance is
known. -/
def microseconds (m : Moment) : Int :=
  (((m.date.number : Int) * daySeconds + m.hour * 3600 + m.minute * 60 + m.second -
    m.ahead.getD 0) * 1000000) + m.microsecond

/-- Whether two moments are the same; one with a known distance is never one without. -/
def same (a b : Moment) : Bool :=
  a.ahead.isSome == b.ahead.isSome && a.microseconds == b.microseconds

end Moment

end AppCatalog
