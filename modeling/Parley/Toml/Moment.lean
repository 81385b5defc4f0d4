/-
Module: Parley.Toml.Moment
Layer: Toml
Purpose: The dates and times of configuration text, each as its usual written form: upper-case
  letters between the parts, nine decimal places at most and no zeros at their end, and an offset
  with two digits each for hours and minutes.
Main exports: Toml.moment?
-/
import Parley.Toml.Number

namespace Parley.Toml

/-- A number of exactly `count` decimal digits that lies between two bounds, as written. -/
def numberOf? (count least greatest : Nat) : Scan (List Char) := fun text => do
  let written := text.take count
  let digits ← written.mapM (digitIn? 10)
  let value := digitsValue 10 digits
  if written.length = count ∧ least ≤ value ∧ value ≤ greatest then
    pure (written, text.drop count)
  else none

/-- What follows a given character. -/
def after? (c : Char) : List Char → Option (List Char)
  | d :: rest => if c = d then some rest else none
  | [] => none

/-- Whether a year has a leap day. -/
def isLeapYear (year : Nat) : Bool :=
  year % 4 = 0 && (year % 100 ≠ 0 || year % 400 = 0)

/-- The number of days of a month. -/
def daysOf (year month : Nat) : Nat :=
  if month = 2 then if isLeapYear year then 29 else 28
  else if month = 4 ∨ month = 6 ∨ month = 9 ∨ month = 11 then 30
  else 31

/-- The number that decimal digits spell. -/
def valueOf (written : List Char) : Nat :=
  digitsValue 10 (written.filterMap (digitIn? 10))

/-- A date. -/
def date? : Scan (List Char) := fun text => do
  let (year, rest) ← numberOf? 4 0 9999 text
  let (month, rest) ← numberOf? 2 1 12 (← after? '-' rest)
  let (day, rest) ← numberOf? 2 1 (daysOf (valueOf year) (valueOf month)) (← after? '-' rest)
  pure (year ++ '-' :: month ++ '-' :: day, rest)

/-- Decimal places as they are shown. -/
def placesShown (places : List Char) : List Char :=
  let kept := ((places.take 9).reverse.dropWhile (· = '0')).reverse
  if kept.isEmpty then [] else '.' :: kept

/-- Decimal places, if there are any. -/
def places (text : List Char) : List Char × List Char :=
  match text with
  | '.' :: rest =>
      let digits := rest.takeWhile fun c => (digitIn? 10 c).isSome
      if digits.isEmpty then ([], text) else (placesShown digits, rest.drop digits.length)
  | _ => ([], text)

/-- A time of day.  A minute may have a leap second. -/
def time? : Scan (List Char) := fun text => do
  let (hour, rest) ← numberOf? 2 0 23 text
  let (minute, rest) ← numberOf? 2 0 59 (← after? ':' rest)
  let (second, rest) ← numberOf? 2 0 60 (← after? ':' rest)
  let (fraction, rest) := places rest
  pure (hour ++ ':' :: minute ++ ':' :: second ++ fraction, rest)

/-- An offset from universal time; one of zero is never negative. -/
def offset? : Scan (List Char)
  | c :: rest =>
      if c = 'Z' ∨ c = 'z' then some (['Z'], rest)
      else if c = '+' ∨ c = '-' then do
        let (hour, rest) ← numberOf? 2 0 23 rest
        let (minute, rest) ← numberOf? 2 0 59 (← after? ':' rest)
        let sign := if valueOf hour = 0 ∧ valueOf minute = 0 then '+' else c
        pure (sign :: hour ++ ':' :: minute, rest)
      else none
  | [] => none

/-- A time of day after the letter or the blank that divides it from a date, and an offset, if there
is one. -/
def timeAfterDate? : Scan (List Char)
  | c :: rest =>
      if c = 'T' ∨ c = 't' ∨ c = ' ' then do
        let (time, rest) ← time? rest
        let (offset, rest) := (offset? rest).getD ([], rest)
        pure ('T' :: time ++ offset, rest)
      else none
  | [] => none

/-- A date, a time of day, or both with an offset or without. -/
def moment? : Scan String := fun text =>
  match date? text with
  | some (date, rest) =>
      let (time, rest) := (timeAfterDate? rest).getD ([], rest)
      some (String.ofList (date ++ time), rest)
  | none => (time? text).map fun (time, rest) => (String.ofList time, rest)

end Parley.Toml
