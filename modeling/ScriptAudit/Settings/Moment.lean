/-!
# Dates and times

Configuration documents may hold dates, times of day, and both together, perhaps with an offset from
universal time.  No setting takes one, but they appear in messages: as a plain text on their own,
and as a constructor inside a list or a table.

## Main definitions

* `ScriptAudit.Moment` — a date, a time, or both.
* `ScriptAudit.Moment.text`, `ScriptAudit.Moment.construction` — its two forms in messages.
-/

set_option autoImplicit false

namespace ScriptAudit

/-- A day of the calendar. -/
structure Day where
  /-- The year. -/
  year : Nat
  /-- The month, from one to twelve. -/
  month : Nat
  /-- The day of the month, from one on. -/
  day : Nat
  deriving DecidableEq

/-- A time of day. -/
structure Clock where
  /-- The hour. -/
  hour : Nat
  /-- The minute. -/
  minute : Nat
  /-- The second. -/
  second : Nat
  /-- The millionth part of a second. -/
  micro : Nat
  deriving DecidableEq

/-- A date, a time of day, or both. -/
inductive Moment where
  /-- A date. -/
  | date (day : Day)
  /-- A time of day. -/
  | time (clock : Clock)
  /-- A date with a time, and perhaps an offset from universal time in minutes. -/
  | dateTime (day : Day) (clock : Clock) (offset : Option Int)
  deriving DecidableEq

/-- Whether a year is a leap year. -/
def isLeapYear (year : Nat) : Bool := year % 4 == 0 && (year % 100 != 0 || year % 400 == 0)

/-- The number of days in a month. -/
def daysInMonth (year month : Nat) : Nat :=
  if month == 2 then (if isLeapYear year then 29 else 28)
  else if month == 4 || month == 6 || month == 9 || month == 11 then 30
  else 31

/-- Whether a day exists in the calendar, which has no year zero. -/
def Day.exists (day : Day) : Bool :=
  1 ≤ day.year && 1 ≤ day.month && day.month ≤ 12 && 1 ≤ day.day
    && day.day ≤ daysInMonth day.year day.month

/-- A number in decimal digits, padded with zeros to the given width. -/
def padded (width n : Nat) : String :=
  let digits := Nat.toDigits 10 n
  String.ofList (List.replicate (width - digits.length) '0' ++ digits)

/-- A date as text. -/
def Day.text (day : Day) : String :=
  padded 4 day.year ++ "-" ++ padded 2 day.month ++ "-" ++ padded 2 day.day

/-- A time of day as text; parts of a second are left out if there are none. -/
def Clock.text (clock : Clock) : String :=
  padded 2 clock.hour ++ ":" ++ padded 2 clock.minute ++ ":" ++ padded 2 clock.second
    ++ (if clock.micro = 0 then "" else "." ++ padded 6 clock.micro)

/-- An offset from universal time as text. -/
def offsetText (minutes : Int) : String :=
  (if minutes < 0 then "-" else "+") ++ padded 2 (minutes.natAbs / 60) ++ ":"
    ++ padded 2 (minutes.natAbs % 60)

/-- The arguments that construct a date. -/
def Day.arguments (day : Day) : List Nat := [day.year, day.month, day.day]

/-- The arguments that construct a time of day, trailing zeros left out. -/
def Clock.arguments (clock : Clock) : List Nat :=
  [clock.hour, clock.minute] ++
    if clock.micro ≠ 0 then [clock.second, clock.micro]
    else if clock.second ≠ 0 then [clock.second]
    else []

/-- The construction of an offset from universal time. -/
def offsetConstruction (minutes : Int) : String :=
  if minutes = 0 then "datetime.timezone.utc"
  else
    let seconds := minutes * 60
    let span :=
      if seconds < 0 then s!"days=-1, seconds={seconds + 86400}" else s!"seconds={seconds}"
    "datetime.timezone(datetime.timedelta(" ++ span ++ "))"

namespace Moment

/-- A moment as text. -/
def text : Moment → String
  | date day => day.text
  | time clock => clock.text
  | dateTime day clock offset =>
    day.text ++ " " ++ clock.text ++ (offset.map offsetText).getD ""

/-- A moment as a construction from numbers. -/
def construction : Moment → String
  | date day => "datetime.date(" ++ ", ".intercalate (day.arguments.map toString) ++ ")"
  | time clock => "datetime.time(" ++ ", ".intercalate (clock.arguments.map toString) ++ ")"
  | dateTime day clock offset =>
    let numbers := (day.arguments ++ clock.arguments).map toString
    let zone := (offset.map fun minutes => "tzinfo=" ++ offsetConstruction minutes).toList
    "datetime.datetime(" ++ ", ".intercalate (numbers ++ zone) ++ ")"

end Moment

end ScriptAudit
