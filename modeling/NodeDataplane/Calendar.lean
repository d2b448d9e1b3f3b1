import NodeDataplane.Text.Digit

/-!
# Calendar dates and times

Dates of the Gregorian calendar from the year 1 to 9999, and times on such a date with an optional
offset from universal time. `Date.of` and `Timestamp.of` admit no date that does not exist.
-/

namespace NodeDataplane

open NodeDataplane.Text (zeroPadded)

structure Date where
  year : Nat
  month : Nat
  day : Nat
  deriving DecidableEq, Repr

/-- A time on a day; the offset counts minutes to the east of universal time. -/
structure Timestamp where
  date : Date
  hour : Nat
  minute : Nat
  second : Nat
  microsecond : Nat
  offset : Option Int
  deriving DecidableEq, Repr

inductive CalendarFault where
  | year (given : Nat)
  | month
  | day
  | hour
  | minute
  | second
  /-- An offset of a day or more, in minutes. -/
  | offset (minutes : Int)
  deriving DecidableEq, Repr

/-- A span of time of whole minutes: days, which may be negative, and seconds, which may not. -/
def spanText (minutes : Int) : String :=
  let days := minutes.fdiv 1440
  let seconds := minutes.fmod 1440 * 60
  let parts := (if days = 0 then [] else ["days=" ++ toString days]) ++
    (if seconds = 0 then [] else ["seconds=" ++ toString seconds])
  "datetime.timedelta(" ++ (if parts.isEmpty then "0" else ", ".intercalate parts) ++ ")"

def CalendarFault.message : CalendarFault → String
  | year given => "year " ++ toString given ++ " is out of range"
  | month => "month must be in 1..12"
  | day => "day is out of range for month"
  | hour => "hour must be in 0..23"
  | minute => "minute must be in 0..59"
  | second => "second must be in 0..59"
  | offset minutes =>
    "offset must be a timedelta strictly between -timedelta(hours=24) and timedelta(hours=24), not "
      ++ spanText minutes ++ "."

def isLeapYear (year : Nat) : Bool :=
  year % 4 == 0 && (year % 100 != 0 || year % 400 == 0)

def daysInMonth (year month : Nat) : Nat :=
  if month = 2 then if isLeapYear year then 29 else 28
  else if month = 4 ∨ month = 6 ∨ month = 9 ∨ month = 11 then 30
  else 31

def Date.of (year month day : Nat) : Except CalendarFault Date :=
  if year < 1 ∨ 9999 < year then .error (.year year)
  else if month < 1 ∨ 12 < month then .error .month
  else if day < 1 ∨ daysInMonth year month < day then .error .day
  else .ok ⟨year, month, day⟩

/-- The time, if there is one. An offset that is too great counts before anything else. -/
def Timestamp.of (year month day hour minute second microsecond : Nat) (offset : Option Int) :
    Except CalendarFault Timestamp := do
  match offset with
  | some minutes => if 1440 ≤ minutes.natAbs then throw (.offset minutes)
  | none => pure ()
  let date ← Date.of year month day
  if 23 < hour then throw .hour
  if 59 < minute then throw .minute
  if 59 < second then throw .second
  return ⟨date, hour, minute, second, microsecond, offset⟩

/-- Days since a fixed day. -/
def Date.dayNumber (d : Date) : Nat :=
  let before := d.year - 1
  let months := (List.range (d.month - 1)).foldl (fun days m => days + daysInMonth d.year (m + 1)) 0
  365 * before + before / 4 - before / 100 + before / 400 + months + d.day

/-- Microseconds since a fixed instant, of universal time where the offset is known. -/
def Timestamp.instant (t : Timestamp) : Int :=
  let seconds : Int := ((t.date.dayNumber * 24 + t.hour) * 60 + t.minute : Nat) * 60 + t.second
  (seconds - t.offset.getD 0 * 60) * 1000000 + t.microsecond

/-- Two times are the same if they are the same instant; a time with an offset never is the same as
one without. -/
def Timestamp.same (s t : Timestamp) : Bool :=
  s.offset.isSome == t.offset.isSome && s.instant == t.instant

def Date.text (d : Date) : String :=
  zeroPadded 4 (toString d.year) ++ "-" ++ zeroPadded 2 (toString d.month) ++ "-" ++
    zeroPadded 2 (toString d.day)

def offsetText (minutes : Int) : String :=
  (if minutes < 0 then "-" else "+") ++ zeroPadded 2 (toString (minutes.natAbs / 60)) ++ ":" ++
    zeroPadded 2 (toString (minutes.natAbs % 60))

/-- Date, time, the microseconds if there are any, and the offset if it is known. -/
def Timestamp.text (t : Timestamp) : String :=
  t.date.text ++ " " ++ zeroPadded 2 (toString t.hour) ++ ":" ++ zeroPadded 2 (toString t.minute) ++
    ":" ++ zeroPadded 2 (toString t.second) ++
    (if t.microsecond = 0 then "" else "." ++ zeroPadded 6 (toString t.microsecond)) ++
    t.offset.elim "" offsetText

def Date.shown (d : Date) : String :=
  "datetime.date(" ++ ", ".intercalate ([d.year, d.month, d.day].map toString) ++ ")"

/-- A time as it is shown inside other values; seconds and microseconds only as far as needed. -/
def Timestamp.shown (t : Timestamp) : String :=
  let precise :=
    if t.microsecond ≠ 0 then [t.second, t.microsecond]
    else if t.second ≠ 0 then [t.second]
    else []
  let numbers := [t.date.year, t.date.month, t.date.day, t.hour, t.minute] ++ precise
  let zone := match t.offset with
    | none => []
    | some 0 => ["tzinfo=datetime.timezone.utc"]
    | some minutes => ["tzinfo=datetime.timezone(" ++ spanText minutes ++ ")"]
  "datetime.datetime(" ++ ", ".intercalate (numbers.map toString ++ zone) ++ ")"

end NodeDataplane
