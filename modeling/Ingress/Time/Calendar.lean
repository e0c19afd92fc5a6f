import Ingress.Text.Ascii

/-!
# Dates of the civil calendar

The date and time of day of a second counted from the start of 1970, in universal time, by the
Gregorian calendar without end in both directions. A year is counted from March so that a leap day
comes last.
-/

namespace Ingress.Calendar

/-- A date. -/
structure Date where
  year : Int
  month : Nat
  day : Nat
deriving DecidableEq, Repr

/-- The date so many days after the first of January 1970. -/
def Date.ofDays (days : Int) : Date :=
  let shifted := days + 719468
  let era := Int.fdiv shifted 146097
  let dayOfEra := (Int.fmod shifted 146097).toNat
  let yearOfEra :=
    (dayOfEra - dayOfEra / 1460 + dayOfEra / 36524 - dayOfEra / 146096) / 365
  let dayOfYear := dayOfEra - (365 * yearOfEra + yearOfEra / 4 - yearOfEra / 100)
  let marchMonth := (5 * dayOfYear + 2) / 153
  let day := dayOfYear - (153 * marchMonth + 2) / 5 + 1
  let month := if marchMonth < 10 then marchMonth + 3 else marchMonth - 9
  let year := yearOfEra + era * 400 + (if month ≤ 2 then 1 else 0)
  ⟨year, month, day⟩

/-- A year has four digits at least; one past them or before the year zero has a sign. -/
def writeYear (year : Int) : String :=
  if year < 0 then "-" ++ Text.padded 4 (-year).toNat
  else if 9999 < year then "+" ++ toString year
  else Text.padded 4 year.toNat

/-- The second as `year-month-day hour:minute:second`. -/
def stamp (unix : Int) : String :=
  let date := Date.ofDays (Int.fdiv unix 86400)
  let second := (Int.fmod unix 86400).toNat
  writeYear date.year ++ "-" ++ Text.padded 2 date.month ++ "-" ++ Text.padded 2 date.day
    ++ " " ++ Text.padded 2 (second / 3600) ++ ":" ++ Text.padded 2 (second / 60 % 60)
    ++ ":" ++ Text.padded 2 (second % 60)

end Ingress.Calendar
