/-!
# Dates and times

The dates and times that a settings file may hold, with the two ways of showing them: the plain one
and the one that tells its kind, used inside lists.
-/

namespace TenantHost

/-- A calendar date. -/
structure Date where
  year : Nat
  month : Nat
  day : Nat
  deriving DecidableEq, Repr

/-- A time of day. -/
structure TimeOfDay where
  hour : Nat
  minute : Nat
  second : Nat
  microsecond : Nat
  deriving DecidableEq, Repr

/-- A date, a time of day, or both, the latter with an optional distance to UTC in minutes. -/
inductive Moment where
  | date (d : Date)
  | time (t : TimeOfDay)
  | dateTime (d : Date) (t : TimeOfDay) (offset : Option Int)
  deriving DecidableEq, Repr

/-- A number with zeros in front up to a width. -/
def zeroPadded (width n : Nat) : String :=
  let digits := (Nat.repr n).toList
  String.ofList (List.replicate (width - digits.length) '0' ++ digits)

/-- Whether a year is a leap year. -/
def isLeapYear (year : Nat) : Bool :=
  year % 4 == 0 && (year % 100 != 0 || year % 400 == 0)

/-- The number of days of a month. -/
def daysInMonth (year month : Nat) : Nat :=
  if month = 2 then (if isLeapYear year then 29 else 28)
  else if month = 4 ∨ month = 6 ∨ month = 9 ∨ month = 11 then 30
  else 31

/-- Whether a date is on the calendar, which begins with the year 1. -/
def Date.isValid (date : Date) : Bool :=
  1 ≤ date.year && 1 ≤ date.month && date.month ≤ 12 && 1 ≤ date.day &&
    date.day ≤ daysInMonth date.year date.month

/-! ## Plain text -/

/-- Year, month and day with hyphens. -/
def Date.text (date : Date) : String :=
  zeroPadded 4 date.year ++ "-" ++ zeroPadded 2 date.month ++ "-" ++ zeroPadded 2 date.day

/-- Hour, minute and second with colons, and six digits more if the second is not whole. -/
def TimeOfDay.text (time : TimeOfDay) : String :=
  zeroPadded 2 time.hour ++ ":" ++ zeroPadded 2 time.minute ++ ":" ++ zeroPadded 2 time.second ++
    (if time.microsecond = 0 then "" else "." ++ zeroPadded 6 time.microsecond)

/-- A distance to UTC as sign, hours and minutes. -/
def offsetText (minutes : Int) : String :=
  (if minutes < 0 then "-" else "+") ++ zeroPadded 2 (minutes.natAbs / 60) ++ ":" ++
    zeroPadded 2 (minutes.natAbs % 60)

/-- The plain text of a moment. -/
def Moment.text : Moment → String
  | .date d => d.text
  | .time t => t.text
  | .dateTime d t offset => d.text ++ " " ++ t.text ++ (offset.map offsetText).getD ""

/-! ## Text that tells the kind -/

/-- The name of a moment's kind. -/
def Moment.kind : Moment → String
  | .date _ => "date"
  | .time _ => "time"
  | .dateTime _ _ _ => "datetime"

/-- Second and microsecond, as far as they are not zero. -/
def TimeOfDay.tail (time : TimeOfDay) : List Nat :=
  if time.microsecond ≠ 0 then [time.second, time.microsecond]
  else if time.second ≠ 0 then [time.second]
  else []

/-- A distance to UTC with its kind; a negative one counts from the day before. -/
def offsetLiteral (minutes : Int) : String :=
  if minutes = 0 then "datetime.timezone.utc"
  else if minutes < 0 then
    "datetime.timezone(datetime.timedelta(days=-1, seconds=" ++ toString
      ((1440 + minutes) * 60) ++ "))"
  else "datetime.timezone(datetime.timedelta(seconds=" ++ toString (minutes * 60) ++ "))"

/-- The parts of a moment. -/
def Moment.parts : Moment → List String
  | .date d => [d.year, d.month, d.day].map Nat.repr
  | .time t => ([t.hour, t.minute] ++ t.tail).map Nat.repr
  | .dateTime d t offset =>
    ([d.year, d.month, d.day, t.hour, t.minute] ++ t.tail).map Nat.repr ++
      (offset.map fun minutes => "tzinfo=" ++ offsetLiteral minutes).toList

/-- How many parts of a moment stand in one another: a distance to UTC is a part of its zone. -/
def Moment.depth : Moment → Nat
  | .dateTime _ _ (some minutes) => if minutes = 0 then 1 else 2
  | _ => 0

/-- The text of a moment inside a list. -/
def Moment.literal (moment : Moment) : String :=
  "datetime." ++ moment.kind ++ "(" ++ ", ".intercalate moment.parts ++ ")"

end TenantHost
