import Detour.Number.Basic

/-!
# Instants

An instant is a date and a time of day. It is written with the offset of universal time; the
fraction of the second is left out if it is zero. A moment is what a clock tells.

## Main definitions

* `Instant.text` — the written form.
* `Instant.ofSeconds` — the instant that is some seconds after the beginning of 1970.
-/
namespace Detour

open Text

structure Instant where
  year : Nat
  month : Nat
  day : Nat
  hour : Nat
  minute : Nat
  second : Nat
  microsecond : Nat := 0
  deriving DecidableEq, Repr

namespace Instant

/-- A number with zeros in front up to a width. -/
def padded (width n : Nat) : Text :=
  let digits := ofNat n
  repeated (width - digits.length) 48 ++ digits

def fraction (microsecond : Nat) : Text :=
  if microsecond = 0 then [] else 46 :: padded 6 microsecond

def text (i : Instant) : Text :=
  padded 4 i.year ++ "-" ++ padded 2 i.month ++ "-" ++ padded 2 i.day ++ "T" ++
    padded 2 i.hour ++ ":" ++ padded 2 i.minute ++ ":" ++ padded 2 i.second ++
    fraction i.microsecond ++ "+00:00"

/-- The date of a day counted from the first of March of the year zero: years begin in March, so
that the day that is left out of most years is the last one. -/
def ofDay (day : Nat) : Nat × Nat × Nat :=
  let era := day / 146097
  let ofEra := day % 146097
  let year := (ofEra - ofEra / 1460 + ofEra / 36524 - ofEra / 146096) / 365
  let ofYear := ofEra - (365 * year + year / 4 - year / 100)
  let month := (5 * ofYear + 2) / 153
  let date := ofYear - (153 * month + 2) / 5 + 1
  let calendarMonth := if month < 10 then month + 3 else month - 9
  (year + era * 400 + (if calendarMonth ≤ 2 then 1 else 0), calendarMonth, date)

/-- The days from the first of March of the year zero to the beginning of 1970. -/
def epochDay : Nat := 719468

def ofSeconds (seconds microsecond : Nat) : Instant :=
  let (year, month, day) := ofDay (seconds / 86400 + epochDay)
  let ofDay := seconds % 86400
  { year, month, day, hour := ofDay / 3600, minute := ofDay / 60 % 60, second := ofDay % 60
    microsecond }

example : (ofSeconds 1704164645 678900).text = ofString "2024-01-02T03:04:05.678900+00:00" := by
  decide +kernel

example : (ofSeconds 951782400 0).text = ofString "2000-02-29T00:00:00+00:00" := by decide +kernel

end Instant

/-- A reading of the clock: seconds for reckoning and a text for people. -/
structure Moment where
  seconds : Number
  timestamp : Text

end Detour
