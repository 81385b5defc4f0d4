/-
Module: Parley.Calendar.CivilDate
Layer: Foundations
Purpose: The civil date of a moment in the proleptic Gregorian calendar, and its written form.
  Years are counted from March, so that the leap day is the last of its year; four hundred such
  years have 146097 days.
Main exports: CivilDate, CivilDate.ofEpochSeconds, CivilDate.text
-/

namespace Parley

/-- A day of the Gregorian calendar, extended without limit in both directions. -/
structure CivilDate where
  year : Int
  month : Nat
  day : Nat
deriving DecidableEq, Repr, Inhabited

namespace CivilDate

/-- The date a number of days after 1 January 1970. -/
def ofEpochDay (days : Int) : CivilDate :=
  let shifted := days + 719468
  let era := Int.fdiv shifted 146097
  let dayOfEra := (Int.fmod shifted 146097).toNat
  let yearOfEra := (dayOfEra - dayOfEra / 1460 + dayOfEra / 36524 - dayOfEra / 146096) / 365
  let dayOfYear := dayOfEra - (365 * yearOfEra + yearOfEra / 4 - yearOfEra / 100)
  let marchMonth := (5 * dayOfYear + 2) / 153
  let day := dayOfYear - (153 * marchMonth + 2) / 5 + 1
  let month := if marchMonth < 10 then marchMonth + 3 else marchMonth - 9
  let year := (yearOfEra : Int) + era * 400
  { year := if month ≤ 2 then year + 1 else year, month := month, day := day }

/-- The date of a moment, given in seconds after the start of 1970. -/
def ofEpochSeconds (seconds : Int) : CivilDate :=
  ofEpochDay (Int.fdiv seconds 86400)

/-- A number with zeros before it up to a width. -/
def padded (width n : Nat) : String :=
  let digits := Nat.toDigits 10 n
  String.ofList (List.replicate (width - digits.length) '0' ++ digits)

/-- Year, month and day with hyphens between them.  A year that does not have four digits at most,
or lies before year zero, has a sign. -/
def text (date : CivilDate) : String :=
  let sign := if date.year < 0 then "-" else if 9999 < date.year then "+" else ""
  sign ++ padded 4 date.year.natAbs ++ "-" ++ padded 2 date.month ++ "-" ++ padded 2 date.day

end CivilDate

end Parley
