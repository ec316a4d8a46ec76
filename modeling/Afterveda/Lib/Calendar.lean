import Afterveda.Lib.Text

/-!
# Calendar time

`struct tm` in UTC and the conversions of the C library: `gmtime` splits seconds since the epoch
into a date and a time of day, `timegm` is the way back, and `formatUtc` is `strftime` with the
format `%Y-%m-%dT%H:%M:%SZ` and `getTime` reads it.  Dates are those of the proleptic Gregorian
calendar; years are counted from March, so that the leap day comes last.
-/

namespace Calendar

open CText

/-- `struct tm`, with the year and the month as people write them. -/
structure Tm where
  year : ℤ
  month : ℤ
  day : ℤ
  hour : ℤ
  minute : ℤ
  second : ℤ
  deriving DecidableEq

/-- The days from 1970-01-01 to a date. -/
def daysFromCivil (year month day : ℤ) : ℤ :=
  let y := if month ≤ 2 then year - 1 else year
  let era := y / 400
  let yearOfEra := y % 400
  let dayOfYear := (153 * (if month ≤ 2 then month + 9 else month - 3) + 2) / 5 + day - 1
  era * 146097 + (yearOfEra * 365 + yearOfEra / 4 - yearOfEra / 100 + dayOfYear) - 719468

/-- The date that many days after 1970-01-01: year, month and day. -/
def civilFromDays (days : ℤ) : ℤ × ℤ × ℤ :=
  let z := days + 719468
  let era := z / 146097
  let dayOfEra := z % 146097
  let yearOfEra :=
    (dayOfEra - dayOfEra / 1460 + dayOfEra / 36524 - dayOfEra / 146096) / 365
  let dayOfYear := dayOfEra - (365 * yearOfEra + yearOfEra / 4 - yearOfEra / 100)
  let m := (5 * dayOfYear + 2) / 153
  let month := if m < 10 then m + 3 else m - 9
  (yearOfEra + era * 400 + (if month ≤ 2 then 1 else 0), month, dayOfYear - (153 * m + 2) / 5 + 1)

/-- `timegm`: fields out of range carry over. -/
def timegm (tm : Tm) : ℤ :=
  daysFromCivil tm.year tm.month tm.day * 86400 + tm.hour * 3600 + tm.minute * 60 + tm.second

/-- `gmtime_r`. -/
def gmtime (time : ℤ) : Tm :=
  let (year, month, day) := civilFromDays (time / 86400)
  let second := time % 86400
  ⟨year, month, day, second / 3600, second / 60 % 60, second % 60⟩

/-- A number of at least two digits. -/
def twoDigits (n : ℤ) : Bytes := if n < 10 then 48 :: toDecimal n else toDecimal n

/-- `strftime` with the format `%Y-%m-%dT%H:%M:%SZ`. -/
def formatUtc (tm : Tm) : Bytes :=
  toDecimal tm.year ++ bytes "-" ++ twoDigits tm.month ++ bytes "-" ++ twoDigits tm.day ++
    bytes "T" ++ twoDigits tm.hour ++ bytes ":" ++ twoDigits tm.minute ++ bytes ":" ++
    twoDigits tm.second ++ bytes "Z"

/-! ### Reading a time -/

/-- A numeric field: at most so many digits, with a value in a range. -/
def readField (digits : ℕ) (low high : ℤ) (s : Bytes) : Option (ℤ × Bytes) :=
  let ds := (s.takeWhile isDigit).take digits
  let n : ℤ := digitsValue ds
  if ds = [] ∨ n < low ∨ high < n then none else some (n, s.drop ds.length)

/-- A character of the format that stands for itself. -/
def readLiteral (c : UInt8) : Bytes → Option Bytes
  | [] => none
  | d :: s => if d = c then some s else none

/-- `std::get_time` with the format `%Y-%m-%dT%H:%M:%SZ`: leading white space is skipped, the first
mismatch fails, and text after the format stays unread. -/
def getTime (value : Bytes) : Option Tm := do
  let (year, s) ← readField 4 0 9999 (value.dropWhile isSpace)
  let (month, s) ← readField 2 1 12 (← readLiteral 45 s)
  let (day, s) ← readField 2 1 31 (← readLiteral 45 s)
  let (hour, s) ← readField 2 0 23 (← readLiteral 84 s)
  let (minute, s) ← readField 2 0 59 (← readLiteral 58 s)
  let (second, s) ← readField 2 0 60 (← readLiteral 58 s)
  let _ ← readLiteral 90 s
  return ⟨year, month, day, hour, minute, second⟩

example : formatUtc (gmtime 1709210096) = bytes "2024-02-29T12:34:56Z" := by decide +kernel

example : (getTime (bytes "2024-02-29T12:34:56Z")).map timegm = some 1709210096 := by decide +kernel

end Calendar
