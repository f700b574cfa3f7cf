import LayeredConfig.Text.CodePoint

/-!
# Dates and points in time

Values that a document writes as dates: a `Date` of the Gregorian calendar with a year of four digits, and a
`DateTime` with a time of day to the microsecond and, if given, the distance from UTC. Both are built by
functions that check the ranges (`Date.of`, `DateTime.of`) and are written in the ISO form.
-/

namespace LayeredConfig

/-- A part of a date or of a time is out of its range. -/
inductive CalendarError
  /-- Years go from 1 to 9999. -/
  | year (n : Nat)
  | month
  /-- The month has fewer days. -/
  | day
  | hour
  | minute
  | second
  /-- The distance from UTC, in minutes, reaches a whole day. -/
  | offset (minutes : Int)
  deriving DecidableEq

/-- A length of time given in minutes, as days and seconds of a day. -/
def spanText (minutes : Int) : Text :=
  let seconds := (minutes * 60).fmod 86400
  let days := (minutes * 60).fdiv 86400
  "datetime.timedelta(days=" ++ Text.ofInt days ++
    (if seconds = 0 then [] else ", seconds=" ++ Text.ofInt seconds : Text) ++ ")"

def CalendarError.message : CalendarError → Text
  | .year n => "year " ++ Text.ofNat n ++ " is out of range"
  | .month => "month must be in 1..12"
  | .day => "day is out of range for month"
  | .hour => "hour must be in 0..23"
  | .minute => "minute must be in 0..59"
  | .second => "second must be in 0..59"
  | .offset minutes =>
    "offset must be a timedelta strictly between -timedelta(hours=24) and timedelta(hours=24), not " ++
      spanText minutes ++ "."

structure Date where
  /-- The year, from 1 to 9999. -/
  year : Nat
  /-- The month, from 1 to 12. -/
  month : Nat
  /-- The day of the month, from 1. -/
  day : Nat
  deriving DecidableEq

namespace Date

/-- Every fourth year has a leap day, except three of four turns of a century. -/
def isLeap (year : Nat) : Bool :=
  year % 4 == 0 && (year % 100 != 0 || year % 400 == 0)

def daysIn (year month : Nat) : Nat :=
  if month = 2 then (if isLeap year then 29 else 28)
  else if month = 4 || month = 6 || month = 9 || month = 11 then 30
  else 31

def of (year month day : Nat) : Except CalendarError Date :=
  if year < 1 || 9999 < year then .error (.year year)
  else if month < 1 || 12 < month then .error .month
  else if day < 1 || daysIn year month < day then .error .day
  else .ok ⟨year, month, day⟩

/-- The days from the first day of year 1 to a date. -/
def dayNumber (d : Date) : Nat :=
  let y := d.year - 1
  let months := (List.range (d.month - 1)).map fun m => daysIn d.year (m + 1)
  y * 365 + y / 4 - y / 100 + y / 400 + months.foldl (· + ·) 0 + (d.day - 1)

def iso (d : Date) : Text :=
  Text.padded 4 d.year ++ "-" ++ Text.padded 2 d.month ++ "-" ++ Text.padded 2 d.day

/-- The date `n` days after the first day of 1970, not before year 0. -/
def ofUnixDays (n : Int) : Date :=
  -- days are counted from the first of March of year 0, in eras of four hundred years
  let z := (n + 719468).toNat
  let era := z / 146097
  let doe := z % 146097
  let yoe := (doe - doe / 1460 + doe / 36524 - doe / 146096) / 365
  let doy := doe - (365 * yoe + yoe / 4 - yoe / 100)
  let mp := (5 * doy + 2) / 153
  let day := doy - (153 * mp + 2) / 5 + 1
  let month := if mp < 10 then mp + 3 else mp - 9
  ⟨yoe + era * 400 + (if month ≤ 2 then 1 else 0), month, day⟩

end Date

structure DateTime where
  date : Date
  /-- The hour, from 0 to 23. -/
  hour : Nat
  /-- The minute, from 0 to 59. -/
  minute : Nat
  /-- The second, from 0 to 59. -/
  second : Nat
  /-- The microsecond, below a million. -/
  microsecond : Nat
  /-- The distance from UTC in minutes, if known. -/
  offset : Option Int
  deriving DecidableEq

namespace DateTime

def of (year month day hour minute second microsecond : Nat) (offset : Option Int) :
    Except CalendarError DateTime := do
  if let some minutes := offset then
    if minutes ≤ -1440 || 1440 ≤ minutes then throw (.offset minutes)
  let date ← Date.of year month day
  if 23 < hour then throw .hour
  if 59 < minute then throw .minute
  if 59 < second then throw .second
  return ⟨date, hour, minute, second, microsecond, offset⟩

/-- The distance from UTC, with its sign. -/
def offsetText (minutes : Int) : Text :=
  (if minutes < 0 then "-" else "+" : Text) ++ Text.padded 2 (minutes.natAbs / 60) ++ ":" ++
    Text.padded 2 (minutes.natAbs % 60)

/-- The ISO form, with `separator` between day and time. -/
def iso (separator : CodePoint) (t : DateTime) : Text :=
  t.date.iso ++ [separator] ++ Text.padded 2 t.hour ++ ":" ++ Text.padded 2 t.minute ++ ":" ++
    Text.padded 2 t.second ++
    (if t.microsecond = 0 then [] else "." ++ Text.padded 6 t.microsecond : Text) ++
    (match t.offset with
      | none => []
      | some minutes => offsetText minutes)

/-- The seconds since the start of year 1, at UTC where the distance is known. -/
def seconds (t : DateTime) : Int :=
  ((t.date.dayNumber * 24 + t.hour) * 60 + t.minute : Nat) * 60 + t.second - t.offset.getD 0 * 60

/-- Whether two points in time are the same: with both distances known, at UTC; with none known, part by
part. -/
def same (t u : DateTime) : Bool :=
  t.offset.isSome == u.offset.isSome && t.seconds == u.seconds && t.microsecond == u.microsecond

/-- The point in time at UTC so many seconds after the start of 1970. -/
def ofUnix (seconds : Int) : DateTime :=
  let ofDay := (seconds % 86400).toNat
  ⟨Date.ofUnixDays (seconds / 86400), ofDay / 3600, ofDay / 60 % 60, ofDay % 60, 0, none⟩

end DateTime

end LayeredConfig
