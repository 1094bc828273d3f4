import Titling.Decimal.Layout

/-! Dates and times as settings files hold them. -/

namespace Titling

/-- A day of the calendar. -/
structure Day where
  year : Nat
  month : Nat
  day : Nat
deriving DecidableEq, Repr

/-- A time of day. -/
structure Clock where
  hour : Nat
  minute : Nat
  second : Nat
  microsecond : Nat
deriving DecidableEq, Repr

/-- A date, a time or both; with both, an offset from universal time in minutes may be known. -/
inductive Moment where
  | date (day : Day)
  | time (clock : Clock)
  | instant (day : Day) (clock : Clock) (offset : Option Int)
deriving DecidableEq, Repr

/-- The length of a month in a year of the Gregorian calendar. -/
def monthLength (year month : Nat) : Nat :=
  if month = 2 then
    if year % 4 = 0 ∧ (year % 100 ≠ 0 ∨ year % 400 = 0) then 29 else 28
  else if month ∈ [4, 6, 9, 11] then 30 else 31

/-- Tells whether a day exists; the calendar begins with year one. -/
def Day.isValid (day : Day) : Bool :=
  1 ≤ day.year && 1 ≤ day.month && day.month ≤ 12
    && 1 ≤ day.day && day.day ≤ monthLength day.year day.month

/-- A number filled up with zeros to a width. -/
private def wide (width value : Nat) : String :=
  String.ofList (Decimal.padded width value)

/-- A day as year, month and day. -/
def Day.display (day : Day) : String :=
  s!"{wide 4 day.year}-{wide 2 day.month}-{wide 2 day.day}"

/-- A time of day; a fraction of a second is written in six digits, or not at all. -/
def Clock.display (clock : Clock) : String :=
  let whole := s!"{wide 2 clock.hour}:{wide 2 clock.minute}:{wide 2 clock.second}"
  if clock.microsecond = 0 then whole else s!"{whole}.{wide 6 clock.microsecond}"

/-- An offset with its sign, in hours and minutes. -/
def offsetDisplay (minutes : Int) : String :=
  let sign := if minutes < 0 then "-" else "+"
  s!"{sign}{wide 2 (minutes.natAbs / 60)}:{wide 2 (minutes.natAbs % 60)}"

/-- The plain text of a moment. -/
def Moment.display : Moment → String
  | .date day => day.display
  | .time clock => clock.display
  | .instant day clock offset =>
    s!"{day.display} {clock.display}" ++ (offset.map offsetDisplay).getD ""

/-- The seconds of a clock, and then the microseconds, as far as they are not zero. -/
def Clock.tailParts (clock : Clock) : List String :=
  if clock.microsecond ≠ 0 then [toString clock.second, toString clock.microsecond]
  else if clock.second ≠ 0 then [toString clock.second] else []

/-- A fixed offset spelled out as a duration; one below zero is a day less a number of seconds. -/
def offsetLiteral (minutes : Int) : String :=
  if minutes = 0 then "datetime.timezone.utc"
  else
    let days := if minutes < 0 then "days=-1, " else ""
    let seconds := (if minutes < 0 then minutes + 1440 else minutes) * 60
    s!"datetime.timezone(datetime.timedelta({days}seconds={seconds}))"

/-- A moment as it stands inside a list or a table. -/
def Moment.literal : Moment → String
  | .date day => s!"datetime.date({day.year}, {day.month}, {day.day})"
  | .time clock =>
    let parts := [toString clock.hour, toString clock.minute] ++ clock.tailParts
    "datetime.time(" ++ ", ".intercalate parts ++ ")"
  | .instant day clock offset =>
    let parts := [day.year, day.month, day.day, clock.hour, clock.minute].map toString
      ++ clock.tailParts ++ (offset.map fun minutes => "tzinfo=" ++ offsetLiteral minutes).toList
    "datetime.datetime(" ++ ", ".intercalate parts ++ ")"

end Titling
