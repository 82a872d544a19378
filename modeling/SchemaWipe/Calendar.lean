import SchemaWipe.Number.Shortest

/-! Dates and times of day, with the checks that make them real ones, and the two forms in which
they are shown: the ISO form on its own, and a constructor form inside a collection. -/
namespace SchemaWipe

/-- A day of the years 1 to 9999. -/
structure Date where
  year : Nat
  month : Nat
  day : Nat
  deriving DecidableEq, Repr

/-- A time of a day. The offset is in minutes east of UTC; without one the time is local. -/
structure Moment where
  date : Date
  hour : Nat
  minute : Nat
  second : Nat
  microsecond : Nat
  offset : Option Int
  deriving DecidableEq, Repr

namespace Calendar

/-- Why numbers are not a date or a time of day. -/
inductive Fault where
  | year (n : Nat)
  | month
  | day
  | hour
  | minute
  | second
  | offset (minutes : Int)
  deriving DecidableEq

/-- Whether a year has a 29 February. -/
def isLeap (year : Nat) : Bool :=
  year % 4 = 0 && (year % 100 != 0 || year % 400 = 0)

/-- How many days a month has. -/
def daysInMonth (year month : Nat) : Nat :=
  if month = 2 then if isLeap year then 29 else 28
  else if month = 4 || month = 6 || month = 9 || month = 11 then 30
  else 31

/-- The day with these numbers. -/
def date (year month day : Nat) : Except Fault Date :=
  if year < 1 || 9999 < year then .error (.year year)
  else if month < 1 || 12 < month then .error .month
  else if day < 1 || daysInMonth year month < day then .error .day
  else .ok ⟨year, month, day⟩

/-- The time with these numbers. The offset is judged first, then the date, then the clock. -/
def moment (year month day hour minute second microsecond : Nat) (offset : Option Int) :
    Except Fault Moment := do
  match offset with
  | some minutes => if 1440 ≤ minutes.natAbs then throw (.offset minutes)
  | none => pure ()
  let date ← date year month day
  if 23 < hour then throw .hour
  if 59 < minute then throw .minute
  if 59 < second then throw .second
  pure { date, hour, minute, second, microsecond, offset }

/-- The span of some minutes as whole days, which may be negative, and seconds. -/
def spanText (minutes : Int) : String :=
  let days := (minutes * 60).fdiv 86400
  let seconds := (minutes * 60).fmod 86400
  let parts := (if days = 0 then [] else [s!"days={days}"]) ++
    (if seconds = 0 then [] else [s!"seconds={seconds}"])
  "datetime.timedelta(" ++ (if parts.isEmpty then "0" else ", ".intercalate parts) ++ ")"

/-- The explanation of a fault. -/
def Fault.message : Fault → String
  | .year n => s!"year {n} is out of range"
  | .month => "month must be in 1..12"
  | .day => "day is out of range for month"
  | .hour => "hour must be in 0..23"
  | .minute => "minute must be in 0..59"
  | .second => "second must be in 0..59"
  | .offset minutes =>
    "offset must be a timedelta strictly between -timedelta(hours=24) and " ++
      "timedelta(hours=24), not " ++ spanText minutes ++ "."

end Calendar

/-- A number in decimal with zeros in front up to a width. -/
def zeroPadded (width n : Nat) : String :=
  String.ofList (Binary64.padded width n)

/-- A day in ISO form. -/
def Date.text (d : Date) : String :=
  "-".intercalate [zeroPadded 4 d.year, zeroPadded 2 d.month, zeroPadded 2 d.day]

/-- A day in constructor form. -/
def Date.literal (d : Date) : String :=
  s!"datetime.date({d.year}, {d.month}, {d.day})"

/-- An offset from UTC in ISO form. -/
def offsetText (minutes : Int) : String :=
  (if minutes < 0 then "-" else "+") ++ zeroPadded 2 (minutes.natAbs / 60) ++ ":" ++
    zeroPadded 2 (minutes.natAbs % 60)

/-- A time in ISO form, with microseconds only where there are any. -/
def Moment.text (m : Moment) : String :=
  m.date.text ++ " " ++
    ":".intercalate [zeroPadded 2 m.hour, zeroPadded 2 m.minute, zeroPadded 2 m.second] ++
    (if m.microsecond = 0 then "" else "." ++ zeroPadded 6 m.microsecond) ++
    (m.offset.map offsetText).getD ""

/-- An offset from UTC in constructor form. -/
def offsetLiteral (minutes : Int) : String :=
  if minutes = 0 then "datetime.timezone.utc"
  else "datetime.timezone(" ++ Calendar.spanText minutes ++ ")"

/-- A time in constructor form, without the zeros at the end of the clock. -/
def Moment.literal (m : Moment) : String :=
  let clock := [m.date.year, m.date.month, m.date.day, m.hour, m.minute] ++
    (if m.second = 0 ∧ m.microsecond = 0 then [] else [m.second]) ++
    (if m.microsecond = 0 then [] else [m.microsecond])
  let zone := match m.offset with
    | none => []
    | some minutes => ["tzinfo=" ++ offsetLiteral minutes]
  "datetime.datetime(" ++ ", ".intercalate (clock.map toString ++ zone) ++ ")"

/-- Days since 1 March of the year 0, counted in years that begin in March. -/
def Date.dayNumber (d : Date) : Int :=
  let year := if d.month ≤ 2 then d.year - 1 else d.year
  let month := if d.month ≤ 2 then d.month + 9 else d.month - 3
  365 * year + year / 4 - year / 100 + year / 400 + (153 * month + 2) / 5 + d.day

/-- Minutes since the same origin at UTC, for a time that has an offset. -/
def Moment.instant? (m : Moment) : Option Int :=
  m.offset.map fun offset => (m.date.dayNumber * 24 + m.hour) * 60 + m.minute - offset

/-- Whether two times are the same one. Times with an offset are compared at UTC, and a local time
is never the same as one with an offset. -/
def Moment.same (m n : Moment) : Bool :=
  match m.instant?, n.instant? with
  | some i, some j => i = j && m.second = n.second && m.microsecond = n.microsecond
  | none, none => m = n
  | _, _ => false

end SchemaWipe
