/-
Module: Parley.Number.Shortest
Layer: Foundations
Purpose: The fewest decimal digits that read back as a given binary number.  The reals that round to
  a number form an interval around it; among the decimal grids of one, two, … seventeen digits the
  first with a point in that interval gives the digits, and of its points the nearest to the number.
  All arithmetic is on natural numbers.
Main exports: Scientific, Binary64.shortest, DecimalStyle, Scientific.chars
-/
import Parley.Number.Binary64

namespace Parley

/-- A positive decimal `d.ddd · 10 ^ exponent`, with its digits from the first to the last that is
not zero. -/
structure Scientific where
  digits : List Char
  exponent : Int
deriving DecidableEq, Inhabited

namespace Binary64

/-- The reals that round to a number, over one denominator.  The ends belong to it when the
significand is even. -/
structure Catchment where
  low : Nat
  value : Nat
  high : Nat
  den : Nat
  closed : Bool

/-- The catchment of a number.  Below a power of two the neighbour is half as far away. -/
def catchment (x : Binary64) : Catchment :=
  let below := if x.significand = Nat.pow 2 52 ∧ -1074 < x.exponent then 1 else 2
  let quarter := x.exponent - 2
  let up := if 0 ≤ quarter then Nat.pow 2 quarter.toNat else 1
  let down := if 0 ≤ quarter then 1 else Nat.pow 2 (-quarter).toNat
  { low := (4 * x.significand - below) * up
    value := 4 * x.significand * up
    high := (4 * x.significand + 2) * up
    den := down
    closed := x.significand % 2 = 0 }

/-- The decimal exponent of the first digit of `num / den`, which is not zero. -/
def leadingExponent (num den : Nat) : Int :=
  if den ≤ num then ((Nat.toDigits 10 (num / den)).length : Int) - 1
  else
    let places := (Nat.toDigits 10 (den / num)).length
    if den ≤ num * Nat.pow 10 (places - 1) then 1 - (places : Int) else -(places : Int)

/-- Whether `count · 10 ^ grid` lies in the catchment. -/
def Catchment.holds (c : Catchment) (count : Nat) (grid : Int) : Bool :=
  let up := if 0 ≤ grid then Nat.pow 10 grid.toNat else 1
  let down := if 0 ≤ grid then 1 else Nat.pow 10 (-grid).toNat
  let point := count * up * c.den
  let low := c.low * down
  let high := c.high * down
  if c.closed then low ≤ point && point ≤ high else low < point && point < high

/-- The point of a grid that stands for the number, if one lies in the catchment: one of the two
neighbours of the number on the grid, the nearer if both do, the even one on a tie. -/
def Catchment.pick? (c : Catchment) (grid : Int) : Option Nat :=
  let up := if 0 ≤ grid then Nat.pow 10 grid.toNat else 1
  let down := if 0 ≤ grid then 1 else Nat.pow 10 (-grid).toNat
  let below := c.value * down / (c.den * up)
  match c.holds below grid, c.holds (below + 1) grid with
  | false, false => none
  | true, false => some below
  | false, true => some (below + 1)
  | true, true => some (roundDiv (c.value * down) (c.den * up))

/-- Drop the zeros that a list of digits starts with. -/
def dropZeros : List Char → List Char
  | '0' :: rest => dropZeros rest
  | digits => digits

/-- The shortest decimal that reads back as the magnitude of a number other than zero. -/
def shortest (x : Binary64) : Scientific :=
  let c := x.catchment
  let top := leadingExponent c.value c.den
  let found := (List.range 17).findSome? fun (extra : Nat) =>
    (c.pick? (top - extra)).map fun count => (count, top - (extra : Int))
  match found with
  | none => ⟨['0'], 0⟩
  | some (count, grid) =>
      let digits := Nat.toDigits 10 count
      ⟨(dropZeros digits.reverse).reverse, grid + (digits.length : Int) - 1⟩

end Binary64

/-- How a decimal is written: the least and the greatest exponent written without an exponent part,
and the sign of a positive exponent. -/
structure DecimalStyle where
  leastPlain : Int
  greatestPlain : Int
  plus : List Char

namespace Scientific

/-- The digits with a point after the `whole`-th, and at least one digit on either side of it. -/
def withPoint (digits : List Char) (whole : Nat) : List Char :=
  let padded := digits ++ List.replicate (whole - digits.length) '0'
  let fraction := padded.drop whole
  padded.take whole ++ '.' :: (if fraction.isEmpty then ['0'] else fraction)

/-- A decimal in a style: with a point in the plain range, and else as first digit, point, other
digits (the point only if there are any) and exponent. -/
def chars (style : DecimalStyle) (d : Scientific) : List Char :=
  if style.leastPlain ≤ d.exponent ∧ d.exponent ≤ style.greatestPlain then
    if 0 ≤ d.exponent then withPoint d.digits (d.exponent.toNat + 1)
    else '0' :: '.' :: (List.replicate (-d.exponent - 1).toNat '0' ++ d.digits)
  else
    let mantissa := match d.digits with
      | [] => []
      | [only] => [only]
      | first :: others => first :: '.' :: others
    let sign := if 0 ≤ d.exponent then style.plus else ['-']
    mantissa ++ 'e' :: (sign ++ Nat.toDigits 10 d.exponent.natAbs)

end Scientific

end Parley
