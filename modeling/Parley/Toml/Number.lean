/-
Module: Parley.Toml.Number
Layer: Toml
Purpose: The numbers of configuration text.  Integers are decimal, hexadecimal, octal or binary and
  fit 64 bits with a sign; floats are rounded to the nearest number.  Single underscores may stand
  between digits.
Main exports: Toml.integer?, Toml.float?
-/
import Parley.Json.Document
import Parley.Toml.Word

namespace Parley.Toml

open Json (Document)

/-- The value of a digit in a base. -/
def digitIn? (base : Nat) (c : Char) : Option Nat :=
  (Json.hexValue? c).filter fun value => decide (value < base)

/-- Digits in a base, each with an underscore before it or not. -/
def moreDigits (base : Nat) : List Char → List Nat × List Char
  | '_' :: c :: rest =>
      match digitIn? base c with
      | some digit =>
          let (digits, after) := moreDigits base rest
          (digit :: digits, after)
      | none => ([], '_' :: c :: rest)
  | c :: rest =>
      match digitIn? base c with
      | some digit =>
          let (digits, after) := moreDigits base rest
          (digit :: digits, after)
      | none => ([], c :: rest)
  | [] => ([], [])

/-- A digit and more digits. -/
def digits? (base : Nat) : Scan (List Nat)
  | [] => none
  | c :: rest =>
      (digitIn? base c).map fun digit =>
        let (digits, after) := moreDigits base rest
        (digit :: digits, after)

/-- The number that digits spell. -/
def digitsValue (base : Nat) (digits : List Nat) : Nat :=
  digits.foldl (fun value digit => value * base + digit) 0

/-- A sign, true for minus, and what follows it. -/
def sign : List Char → Bool × List Char
  | '-' :: rest => (true, rest)
  | '+' :: rest => (false, rest)
  | rest => (false, rest)

/-- The digits of a whole number: a single zero, or digits that do not start with one. -/
def whole? : Scan (List Nat)
  | '0' :: rest => some ([0], rest)
  | text => digits? 10 text

/-- A number of 64 bits with a sign. -/
def word? (negative : Bool) (magnitude : Nat) : Option Document :=
  let value : Int := if negative then -magnitude else magnitude
  if -Int.pow 2 63 ≤ value ∧ value < Int.pow 2 63 then some (.number (some (.int value))) else none

/-- An unsigned integer in a base. -/
def integerIn? (base : Nat) : Scan Document := fun text => do
  let (digits, rest) ← digits? base text
  let value ← word? false (digitsValue base digits)
  pure (value, rest)

/-- An integer. -/
def integer? : Scan Document
  | '0' :: 'x' :: rest => integerIn? 16 rest
  | '0' :: 'o' :: rest => integerIn? 8 rest
  | '0' :: 'b' :: rest => integerIn? 2 rest
  | text => do
      let (negative, rest) := sign text
      let (digits, rest) ← whole? rest
      let value ← word? negative (digitsValue 10 digits)
      pure (value, rest)

/-- The digits after a point, if there is a point. -/
def fraction? : List Char → Option (List Nat × List Char)
  | '.' :: rest => digits? 10 rest
  | _ => none

/-- An exponent part. -/
def exponent? : Scan Int
  | [] => none
  | c :: rest =>
      if c = 'e' ∨ c = 'E' then do
        let (negative, rest) := sign rest
        let (digits, rest) ← digits? 10 rest
        let magnitude : Int := digitsValue 10 digits
        pure (if negative then -magnitude else magnitude, rest)
      else none

/-- A float with the given sign, significant digits and power of ten.  One that is too large below
zero is not finite; one that is too large above zero is refused. -/
def floatValue? (negative : Bool) (digits : List Nat) (exponent : Int) : Option Document :=
  match Binary64.ofDecimal? negative (digitsValue 10 digits) exponent with
  | some value => some (.number (some (.float value)))
  | none => if negative then some .notFinite else none

/-- A float in digits: a whole number with a fraction, an exponent or both. -/
def decimal? : Scan Document := fun text => do
  let (negative, rest) := sign text
  let (digits, rest) ← whole? rest
  match fraction? rest with
  | some (places, rest) =>
      let (exponent, rest) := (exponent? rest).getD (0, rest)
      let value ← floatValue? negative (digits ++ places) (exponent - places.length)
      pure (value, rest)
  | none => do
      let (exponent, rest) ← exponent? rest
      let value ← floatValue? negative digits exponent
      pure (value, rest)

/-- The words for what is not a finite number. -/
def notFinite? (text : List Char) : Option (Document × List Char) :=
  match (sign text).2 with
  | 'i' :: 'n' :: 'f' :: rest => some (.notFinite, rest)
  | 'n' :: 'a' :: 'n' :: rest => some (.notFinite, rest)
  | _ => none

/-- A float. -/
def float? : Scan Document := fun text => (decimal? text).orElse fun _ => notFinite? text

end Parley.Toml
