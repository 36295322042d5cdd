import Outbox.Duration

/-! # Dates of messages

An instant with an offset from UTC, and its text in the layout of message headers:
`Tue, 05 Mar 2024 14:07:09 +0200`.

* `Civil.ofDays`: the proleptic Gregorian date of a day counted from 1970-01-01.
* `Timestamp.render`: the header text. Years from 0 to 9999 have four digits, others a sign.
-/

set_option autoImplicit false

namespace Outbox

/-- A calendar date. -/
structure Civil where
  year : Int
  month : Nat
  day : Nat
  deriving DecidableEq, Repr

/-- The date of a day counted from 1970-01-01. A year of this computation starts in March, so that
the leap day is its last; 146097 days make 400 years. -/
def Civil.ofDays (days : Int) : Civil :=
  let z := days + 719468
  let era := Int.fdiv z 146097
  let dayOfEra := (z - era * 146097).toNat
  let yearOfEra := (dayOfEra - dayOfEra / 1460 + dayOfEra / 36524 - dayOfEra / 146096) / 365
  let dayOfYear := dayOfEra - (365 * yearOfEra + yearOfEra / 4 - yearOfEra / 100)
  let shifted := (5 * dayOfYear + 2) / 153
  let day := dayOfYear - (153 * shifted + 2) / 5 + 1
  let month := if shifted < 10 then shifted + 3 else shifted - 9
  ⟨(yearOfEra : Int) + era * 400 + (if month ≤ 2 then 1 else 0), month, day⟩

/-- An instant, seconds and nanoseconds since 1970-01-01 UTC, and the offset of the clock that
shows it in seconds east. Nanoseconds from 10^9 on stand for a leap second. -/
structure Timestamp where
  secs : Int
  nanos : Nat
  offset : Int
  deriving DecidableEq, Repr

namespace Timestamp

def weekdays : List String := ["Thu", "Fri", "Sat", "Sun", "Mon", "Tue", "Wed"]

def months : List String :=
  ["Jan", "Feb", "Mar", "Apr", "May", "Jun", "Jul", "Aug", "Sep", "Oct", "Nov", "Dec"]

/-- A number with at least two digits. -/
def two (n : Nat) : String := String.ofList (Duration.padded 2 n)

/-- A year: four digits from 0 to 9999, a sign and at least four digits outside. -/
def year (y : Int) : String :=
  let digits := String.ofList (Duration.padded 4 y.natAbs)
  if y < 0 then "-" ++ digits else if y ≤ 9999 then digits else "+" ++ digits

/-- The offset in hours and minutes, rounded to the nearest minute, a half away from zero. The
sign is the offset's own, also in front of zero. -/
def zone (offset : Int) : String :=
  let minutes := (offset.natAbs + 30) / 60
  (if offset < 0 then "-" else "+") ++ two (minutes / 60) ++ two (minutes % 60)

/-- The text of a message's `Date` header. -/
def render (t : Timestamp) : String :=
  let clock := t.secs + t.offset
  let days := Int.fdiv clock 86400
  let second := (clock - days * 86400).toNat
  let date := Civil.ofDays days
  weekdays.getD (Int.emod days 7).toNat "" ++ ", " ++ two date.day ++ " " ++
    months.getD (date.month - 1) "" ++ " " ++ year date.year ++ " " ++
    two (second / 3600) ++ ":" ++ two (second / 60 % 60) ++ ":" ++
    two (second % 60 + t.nanos / 1000000000) ++ " " ++ zone t.offset

end Timestamp

end Outbox
