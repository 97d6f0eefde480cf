import DagConsole.Error
import DagConsole.Text.Blank
import DagConsole.Text.Numeral

/-! Schedules as a person picks them, and the cron expressions that encode them. -/
namespace DagConsole

inductive Weekday where
  | sunday
  | monday
  | tuesday
  | wednesday
  | thursday
  | friday
  | saturday
deriving DecidableEq, Inhabited

namespace Weekday

/-- The days of a week in cron order, where Sunday is day zero. -/
instance : Enumerated Weekday where
  members := [.sunday, .monday, .tuesday, .wednesday, .thursday, .friday, .saturday]
  name
    | .sunday => "Sunday"
    | .monday => "Monday"
    | .tuesday => "Tuesday"
    | .wednesday => "Wednesday"
    | .thursday => "Thursday"
    | .friday => "Friday"
    | .saturday => "Saturday"

def number : Weekday → Nat
  | .sunday => 0
  | .monday => 1
  | .tuesday => 2
  | .wednesday => 3
  | .thursday => 4
  | .friday => 5
  | .saturday => 6

def ofNumber? : Int → Option Weekday
  | 0 => some .sunday
  | 1 => some .monday
  | 2 => some .tuesday
  | 3 => some .wednesday
  | 4 => some .thursday
  | 5 => some .friday
  | 6 => some .saturday
  | _ => none

theorem ofNumber?_number (day : Weekday) : ofNumber? day.number = some day := by
  cases day <;> rfl

end Weekday

/-- The unit a periodic schedule repeats on. -/
inductive PeriodUnit where
  | hourly
  | daily
  | weekly
  | monthly
deriving DecidableEq, Inhabited

instance : Enumerated PeriodUnit where
  members := [.hourly, .daily, .weekly, .monthly]
  name
    | .hourly => "hourly"
    | .daily => "daily"
    | .weekly => "weekly"
    | .monthly => "monthly"

/-- A period and the time fields it needs. Each unit uses the minute; all but hourly use the hour,
weekly uses the weekday and monthly the day of the month. -/
structure Period where
  unit : PeriodUnit
  minute : Nat := 0
  hour : Nat := 0
  weekday : Weekday := .sunday
  day : Nat := 1
deriving DecidableEq, Inhabited

namespace Period

/-- The period with the fields that its unit does not use set to their defaults. -/
def normalize (p : Period) : Period :=
  match p.unit with
  | .hourly => { unit := .hourly, minute := p.minute }
  | .daily => { unit := .daily, minute := p.minute, hour := p.hour }
  | .weekly => { unit := .weekly, minute := p.minute, hour := p.hour, weekday := p.weekday }
  | .monthly => { unit := .monthly, minute := p.minute, hour := p.hour, day := p.day }

/-- Checks the fields that the unit uses. -/
def validate (p : Period) : Outcome Unit :=
  if 59 < p.minute then .error (.invalidInput s!"minute {p.minute} is out of range 0-59")
  else if p.unit ≠ .hourly ∧ 23 < p.hour then
    .error (.invalidInput s!"hour {p.hour} is out of range 0-23")
  else if p.unit = .monthly ∧ (p.day < 1 ∨ 31 < p.day) then
    .error (.invalidInput s!"day of month {p.day} is out of range 1-31")
  else .ok ()

/-- The fields of the cron expression: minute, hour, day of month, month and weekday. -/
def cronFields (p : Period) : List String :=
  let minute := toString p.minute
  let hour := toString p.hour
  match p.unit with
  | .hourly => [minute, "*", "*", "*", "*"]
  | .daily => [minute, hour, "*", "*", "*"]
  | .weekly => [minute, hour, "*", "*", toString p.weekday.number]
  | .monthly => [minute, hour, toString p.day, "*", "*"]

def cron (p : Period) : String := " ".intercalate p.cronFields

/-- The refusal of a cron expression without a periodic equivalent. -/
def unsupported (expression : String) : Error :=
  .invalidInput s!"unsupported cron expression '{expression}'"

/-- A number of a cron field, as an 8-bit number. -/
def cronNumber? (field : List Char) : Option Nat := Text.unsigned? 255 field

/-- The weekday of a cron field, an 8-bit number that may have a sign. -/
def cronWeekday? (field : List Char) : Option Weekday :=
  (Text.signed? (-128) 127 field).bind Weekday.ofNumber?

/-- The period of five cron fields, before its ranges are checked. -/
def ofCronFields? : List (List Char) → Option Period
  | [minute, hour, day, ['*'], weekday] => do
    let minute ← cronNumber? minute
    if hour = ['*'] ∧ day = ['*'] ∧ weekday = ['*'] then
      return { unit := .hourly, minute }
    else if day = ['*'] ∧ weekday = ['*'] then
      return { unit := .daily, minute, hour := ← cronNumber? hour }
    else if day = ['*'] then
      let weekday ← cronWeekday? weekday
      return { unit := .weekly, minute, hour := ← cronNumber? hour, weekday }
    else if weekday = ['*'] then
      return { unit := .monthly, minute, hour := ← cronNumber? hour, day := ← cronNumber? day }
    else none
  | _ => none

/-- Reads the cron expression of a period; ranges, steps, lists and month restrictions have none. -/
def ofCron (expression : String) : Outcome Period :=
  match ofCronFields? (Text.words expression.toList) with
  | none => .error (unsupported expression)
  | some p => do
    p.validate
    return p

/-- The period in words. -/
def description (p : Period) : String :=
  let time := Text.padded 2 p.hour ++ ":" ++ Text.padded 2 p.minute
  match p.unit with
  | .hourly => s!"every hour at minute {p.minute}"
  | .daily => s!"every day at {time}"
  | .weekly => s!"every {Enumerated.name p.weekday} at {time}"
  | .monthly => s!"day {p.day} of every month at {time}"

end Period

end DagConsole
