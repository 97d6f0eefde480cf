import DagConsole.Text.Numeral

/-! Instants on the time line, and their text in universal time. -/
namespace DagConsole

/-- An instant, in nanoseconds from the start of 1970 in universal time. -/
structure Timestamp where
  nanoseconds : Int
deriving DecidableEq, Inhabited

/-- A date of the Gregorian calendar, extended to all years. -/
structure CalendarDate where
  year : Int
  month : Nat
  day : Nat
deriving DecidableEq

namespace CalendarDate

def isLeapYear (year : Int) : Bool := year % 4 == 0 && (year % 100 != 0 || year % 400 == 0)

def monthLength (year : Int) : Nat → Nat
  | 2 => if isLeapYear year then 29 else 28
  | 4 | 6 | 9 | 11 => 30
  | _ => 31

/-- The number of days from the start of 1970.

Years are counted from March, so that a leap day ends its year, and in cycles of 400 years. -/
def toDays (date : CalendarDate) : Int :=
  let year := if date.month ≤ 2 then date.year - 1 else date.year
  let month : Int := if date.month ≤ 2 then date.month + 9 else date.month - 3
  let inCycle := year % 400
  let dayOfYear := (153 * month + 2) / 5 + date.day - 1
  year / 400 * 146097 + (inCycle * 365 + inCycle / 4 - inCycle / 100 + dayOfYear) - 719468

/-- The date a number of days from the start of 1970. -/
def ofDays (days : Int) : CalendarDate :=
  let shifted := days + 719468
  let inCycle := shifted % 146097
  let year := (inCycle - inCycle / 1460 + inCycle / 36524 - inCycle / 146096) / 365
  let dayOfYear := inCycle - (365 * year + year / 4 - year / 100)
  let month := (5 * dayOfYear + 2) / 153
  let day := dayOfYear - (153 * month + 2) / 5 + 1
  let civilMonth := if month < 10 then month + 3 else month - 9
  let civilYear := year + shifted / 146097 * 400 + if civilMonth ≤ 2 then 1 else 0
  ⟨civilYear, civilMonth.toNat, day.toNat⟩

/-- Four digits for the year, or a minus sign and six; then month and day. -/
def text (date : CalendarDate) : String :=
  let year :=
    if 0 ≤ date.year then Text.padded 4 date.year.toNat else "-" ++ Text.padded 6 (-date.year).toNat
  year ++ "-" ++ Text.padded 2 date.month ++ "-" ++ Text.padded 2 date.day

end CalendarDate

namespace Timestamp

instance : Ord Timestamp where
  compare a b := compare a.nanoseconds b.nanoseconds

def nanosecondsPerSecond : Int := 1000000000

def secondsPerDay : Int := 86400

/-- The earliest instant: the first second of the year -9999 at the westernmost offset. -/
def earliest : Int := -377705023201 * nanosecondsPerSecond

/-- The latest instant: the last nanosecond of its second, near the end of the year 9999. -/
def latest : Int := 253402207200 * nanosecondsPerSecond + (nanosecondsPerSecond - 1)

/-- A fraction of a second without its trailing zeros, after a point; nothing for zero. -/
def fractionText (nanoseconds : Nat) : String :=
  if nanoseconds = 0 then ""
  else
    let digits := (Text.padded 9 nanoseconds).toList
    "." ++ String.ofList (digits.reverse.dropWhile (· == '0')).reverse

/-- The date and time in universal time, with as many places of the second as are needed. -/
def text (t : Timestamp) : String :=
  let seconds := t.nanoseconds / nanosecondsPerSecond
  let date := CalendarDate.ofDays (seconds / secondsPerDay)
  let ofDay := (seconds % secondsPerDay).toNat
  date.text ++ "T" ++ Text.padded 2 (ofDay / 3600) ++ ":" ++ Text.padded 2 (ofDay / 60 % 60) ++
    ":" ++ Text.padded 2 (ofDay % 60) ++
    fractionText (t.nanoseconds % nanosecondsPerSecond).toNat ++ "Z"

end Timestamp

end DagConsole
