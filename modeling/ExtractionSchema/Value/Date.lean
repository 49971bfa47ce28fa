/-!
# Dates and moments

Calendar dates and moments of the proleptic Gregorian calendar, as YAML documents hold them. A
moment has microseconds and may have an offset from universal time, counted in minutes.

* `Date.check` and `Moment.check` say which field of a date or a clock time is out of range.
-/

namespace ExtractionSchema

/-- Decimal digits of `n`, with zeros before them up to the width. -/
def paddedDigits (width n : Nat) : String :=
  let digits := Nat.toDigits 10 n
  String.ofList (List.replicate (width - digits.length) '0' ++ digits)

/-- A calendar date. -/
structure Date where
  year : Nat
  month : Nat
  day : Nat
deriving DecidableEq, Inhabited

/-- A date with a time of day and perhaps an offset from universal time, in minutes. -/
structure Moment where
  date : Date
  hour : Nat
  minute : Nat
  second : Nat
  microsecond : Nat
  offset : Option Int
deriving DecidableEq, Inhabited

namespace Date

/-- Whether the year has a 29th of February. -/
def isLeap (year : Nat) : Bool := year % 4 = 0 && (year % 100 ≠ 0 || year % 400 = 0)

/-- Number of days of a month. -/
def daysIn (year month : Nat) : Nat :=
  if month = 2 then (if isLeap year then 29 else 28)
  else if month = 4 || month = 6 || month = 9 || month = 11 then 30
  else 31

/-- The number of days from the start of the calendar to the date. -/
def dayNumber (d : Date) : Nat :=
  let years := d.year - 1
  let months := ((List.range (d.month - 1)).map fun m => daysIn d.year (m + 1)).foldl (· + ·) 0
  365 * years + years / 4 - years / 100 + years / 400 + months + d.day

/-- What is wrong with the fields of a date, if anything. -/
def check (d : Date) : Option String :=
  if d.year = 0 then some s!"year {d.year} is out of range"
  else if d.month = 0 || 12 < d.month then some "month must be in 1..12"
  else if d.day = 0 || daysIn d.year d.month < d.day then some "day is out of range for month"
  else none

/-- Year, month and day with hyphens between them. -/
def text (d : Date) : String :=
  paddedDigits 4 d.year ++ "-" ++ paddedDigits 2 d.month ++ "-" ++ paddedDigits 2 d.day

end Date

namespace Moment

/-- What is wrong with the fields of a moment, if anything. -/
def check (t : Moment) : Option String :=
  match t.date.check with
  | some problem => some problem
  | none =>
    if 23 < t.hour then some "hour must be in 0..23"
    else if 59 < t.minute then some "minute must be in 0..59"
    else if 59 < t.second then some "second must be in 0..59"
    else none

/-- Hours, minutes and seconds, and the microseconds if there are any. -/
def clockText (t : Moment) : String :=
  paddedDigits 2 t.hour ++ ":" ++ paddedDigits 2 t.minute ++ ":" ++ paddedDigits 2 t.second ++
    (if t.microsecond = 0 then "" else "." ++ paddedDigits 6 t.microsecond)

/-- A signed offset as hours and minutes. -/
def offsetText (minutes : Int) : String :=
  let n := minutes.natAbs
  (if minutes < 0 then "-" else "+") ++ paddedDigits 2 (n / 60) ++ ":" ++ paddedDigits 2 (n % 60)

/-- Date and clock time with a separator between them, and the offset if there is one. -/
def text (separator : String) (t : Moment) : String :=
  t.date.text ++ separator ++ t.clockText ++
    (match t.offset with | none => "" | some minutes => offsetText minutes)

/-- The interchange form: `T` between date and time, and `Z` for universal time. -/
def interchangeText (t : Moment) : String :=
  match t.offset with
  | some 0 => { t with offset := none }.text "T" ++ "Z"
  | _ => t.text "T"

end Moment

end ExtractionSchema
