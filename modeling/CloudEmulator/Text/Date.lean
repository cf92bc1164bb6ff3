/-!
# Dates in headers

The text of a time as headers have it: the day of the week, the date and the time of day. All
of it is in UTC, in the calendar that is in use today, for the time before it as well.
-/

namespace CloudEmulator

/-- A day of the calendar. -/
structure Date where
  year : Int
  /-- The number of the month, from one on. -/
  month : Nat
  day : Nat
  deriving DecidableEq, Repr

namespace Date

/-- The day that is so many days behind the first one of 1970. Years are counted from March
on here, so that the day that only some of them have is their last. -/
def ofDays (days : Int) : Date :=
  -- The first of March of the year zero is 719468 days before, and 400 years have 146097 days.
  let behind := days + 719468
  let era := behind / 146097
  let dayOfEra := (behind % 146097).toNat
  let yearOfEra := (dayOfEra - dayOfEra / 1460 + dayOfEra / 36524 - dayOfEra / 146096) / 365
  let dayOfYear := dayOfEra - (365 * yearOfEra + yearOfEra / 4 - yearOfEra / 100)
  let place := (5 * dayOfYear + 2) / 153
  let month := if place < 10 then place + 3 else place - 9
  { year := yearOfEra + era * 400 + (if month ≤ 2 then 1 else 0)
    month
    day := dayOfYear - (153 * place + 2) / 5 + 1 }

/-- The names of the days of the week. The first day of 1970 was a Thursday. -/
def weekdays : List String :=
  ["Thu", "Fri", "Sat", "Sun", "Mon", "Tue", "Wed"]

/-- The names of the months. -/
def months : List String :=
  ["Jan", "Feb", "Mar", "Apr", "May", "Jun", "Jul", "Aug", "Sep", "Oct", "Nov", "Dec"]

/-- A number of at least so many digits. -/
def padded (width n : Nat) : String :=
  let digits := Nat.toDigits 10 n
  String.ofList (List.replicate (width - digits.length) '0' ++ digits)

/-- The text of a year: four digits, or a sign and more where these are not enough. -/
def yearText (year : Int) : String :=
  if year < 0 then "-" ++ padded 4 year.natAbs
  else if year ≤ 9999 then padded 4 year.natAbs
  else "+" ++ padded 4 year.natAbs

/-- The text of the time so many seconds behind the beginning of 1970. -/
def headerText (seconds : Int) : String :=
  let days := seconds / 86400
  let second := (seconds % 86400).toNat
  let date := ofDays days
  weekdays.getD (days % 7).toNat "" ++ ", " ++ padded 2 date.day ++ " " ++
    months.getD (date.month - 1) "" ++ " " ++ yearText date.year ++ " " ++
    padded 2 (second / 3600) ++ ":" ++ padded 2 (second / 60 % 60) ++ ":" ++
    padded 2 (second % 60) ++ " GMT"

example : headerText 1723585882 = "Tue, 13 Aug 2024 21:51:22 GMT" := by decide

end Date

end CloudEmulator
