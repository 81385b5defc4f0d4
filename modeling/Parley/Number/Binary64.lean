/-
Module: Parley.Number.Binary64
Layer: Foundations
Purpose: Finite binary floating-point numbers of 64 bits as exact dyadic fractions.  A number is a
  sign, a significand and a power of two in the one spelling the format allows.  Every operation
  computes the exact quotient of two natural numbers and rounds once, to the nearest number and on a
  tie to the even significand.
Main exports: Binary64, Binary64.nearest?, Binary64.times?, Binary64.over?, Binary64.toInt?,
  Binary64.sameValue, Binary64.ofDecimal?
-/

namespace Parley

/-- The spelling of a finite number: 53 significant bits at most, exponents from the least subnormal
to the greatest normal one, and the leading bit set unless the exponent is the least. -/
def Binary64.Canonical (significand : Nat) (exponent : Int) : Prop :=
  significand < Nat.pow 2 53 ∧ -1074 ≤ exponent ∧ exponent ≤ 971 ∧
    (Nat.pow 2 52 ≤ significand ∨ exponent = -1074)

instance (significand : Nat) (exponent : Int) :
    Decidable (Binary64.Canonical significand exponent) :=
  inferInstanceAs (Decidable (_ ∧ _ ∧ _ ∧ _))

/-- The number `± significand · 2 ^ exponent`. -/
structure Binary64 where
  negative : Bool
  significand : Nat
  exponent : Int
  canonical : Binary64.Canonical significand exponent
deriving DecidableEq

namespace Binary64

/-- Zero of either sign. -/
def zero (negative : Bool) : Binary64 :=
  ⟨negative, 0, -1074, by decide⟩

instance : Inhabited Binary64 := ⟨zero false⟩

/-- The number with the given parts, if they are in range. -/
def make? (negative : Bool) (significand : Nat) (exponent : Int) : Option Binary64 :=
  if h : Canonical significand exponent then some ⟨negative, significand, exponent, h⟩ else none

/-- The integer nearest to `num / den`; of two equally near ones the even one. -/
def roundDiv (num den : Nat) : Nat :=
  let quotient := num / den
  let twice := 2 * (num % den)
  if twice < den then quotient
  else if den < twice then quotient + 1
  else if quotient % 2 = 0 then quotient
  else quotient + 1

/-- The fraction `num / den` in units of `2 ^ exponent`. -/
def inUnits (num den : Nat) (exponent : Int) : Nat × Nat :=
  if 0 ≤ exponent then (num, den * Nat.pow 2 exponent.toNat)
  else (num * Nat.pow 2 (-exponent).toNat, den)

/-- The exponent of the last place of `num / den`: the one at which 53 bits are left before the
point, and never below the least. -/
def lastPlace (num den : Nat) : Int :=
  let guess : Int := (Nat.log2 num : Int) - (Nat.log2 den : Int) - 53
  let (units, scale) := inUnits num den guess
  max (if units / scale < Nat.pow 2 53 then guess else guess + 1) (-1074)

/-- The number nearest to `± num / den`, or `none` where that is too large to be finite. -/
def nearest? (negative : Bool) (num den : Nat) : Option Binary64 :=
  if num = 0 then some (zero negative)
  else
    let exponent := lastPlace num den
    let (units, scale) := inUnits num den exponent
    let significand := roundDiv units scale
    if significand = Nat.pow 2 53 then make? negative (Nat.pow 2 52) (exponent + 1)
    else make? negative significand exponent

/-- The magnitude as a fraction of natural numbers. -/
def ratio (x : Binary64) : Nat × Nat :=
  if 0 ≤ x.exponent then (x.significand * Nat.pow 2 x.exponent.toNat, 1)
  else (x.significand, Nat.pow 2 (-x.exponent).toNat)

/-- The number nearest to a natural number. -/
def ofNat? (n : Nat) : Option Binary64 := nearest? false n 1

/-- The rounded product. -/
def times? (x y : Binary64) : Option Binary64 :=
  nearest? (x.negative != y.negative) (x.ratio.1 * y.ratio.1) (x.ratio.2 * y.ratio.2)

/-- The rounded quotient; `none` also where the divisor is zero. -/
def over? (x y : Binary64) : Option Binary64 :=
  if y.significand = 0 then none
  else nearest? (x.negative != y.negative) (x.ratio.1 * y.ratio.2) (x.ratio.2 * y.ratio.1)

/-- The number with the other sign. -/
def neg (x : Binary64) : Binary64 := { x with negative := !x.negative }

/-- Whether a number is zero, of either sign. -/
def isZero (x : Binary64) : Bool := x.significand = 0

/-- The integer a number is equal to, if its fraction is zero. -/
def toInt? (x : Binary64) : Option Int :=
  let (num, den) := x.ratio
  if num % den = 0 then
    let magnitude : Int := (num / den : Nat)
    some (if x.negative then -magnitude else magnitude)
  else none

/-- Equality of values: the zeros of both signs are equal. -/
def sameValue (x y : Binary64) : Bool :=
  x = y || (x.isZero && y.isZero)

/-- The number nearest to `± coefficient · 10 ^ exponent`.  Exponents far outside the range are
settled by size alone. -/
def ofDecimal? (negative : Bool) (coefficient : Nat) (exponent : Int) : Option Binary64 :=
  let places : Int := (Nat.toDigits 10 coefficient).length + exponent
  if coefficient = 0 then some (zero negative)
  else if 310 < places then none
  else if places < -330 then some (zero negative)
  else if 0 ≤ exponent then nearest? negative (coefficient * Nat.pow 10 exponent.toNat) 1
  else nearest? negative coefficient (Nat.pow 10 (-exponent).toNat)

/-! ### Small facts -/

theorem sameValue_refl (x : Binary64) : x.sameValue x = true := by
  simp [sameValue]

end Binary64

end Parley
