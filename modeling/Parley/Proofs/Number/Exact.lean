/-
Module: Parley.Proofs.Number.Exact
Layer: Proofs
Purpose: The rational number that a float is, and the floats that are integers.
Main exports: Binary64.magnitude, Binary64.toRat, Binary64.magnitude_eq,
  Binary64.toInt?_eq_some_iff
-/
import Mathlib.Algebra.Order.Field.Power
import Mathlib.Algebra.Order.Ring.Rat
import Mathlib.Data.Rat.Cast.Order
import Mathlib.Tactic.FieldSimp
import Mathlib.Tactic.Linarith
import Mathlib.Tactic.Positivity
import Parley.Number.Binary64

namespace Parley.Binary64

/-- The number without its sign. -/
def magnitude (x : Binary64) : ℚ :=
  x.significand * 2 ^ x.exponent

/-- The number that a float is. -/
def toRat (x : Binary64) : ℚ :=
  if x.negative then -x.magnitude else x.magnitude

theorem magnitude_nonneg (x : Binary64) : 0 ≤ x.magnitude := by
  unfold magnitude
  positivity

theorem ratio_pos (x : Binary64) : 0 < x.ratio.2 := by
  rw [ratio]
  split
  · exact Nat.one_pos
  · exact Nat.pow_pos Nat.two_pos

/-- The magnitude as a fraction. -/
theorem magnitude_eq (x : Binary64) : x.magnitude = (x.ratio.1 : ℚ) / x.ratio.2 := by
  rw [magnitude, ratio]
  split
  · next notNegative =>
      obtain ⟨places, isExponent⟩ := Int.eq_ofNat_of_zero_le notNegative
      simp [isExponent]
  · next negative =>
      obtain ⟨places, isExponent⟩ := Int.eq_ofNat_of_zero_le (show 0 ≤ -x.exponent by omega)
      rw [show x.exponent = -(places : ℤ) by omega]
      simp [div_eq_mul_inv]

/-- A magnitude is a natural number if the fraction leaves no remainder. -/
theorem magnitude_eq_natCast_iff (x : Binary64) (n : Nat) :
    x.magnitude = n ↔ x.ratio.1 % x.ratio.2 = 0 ∧ x.ratio.1 / x.ratio.2 = n := by
  have positive := x.ratio_pos
  have notZero : (x.ratio.2 : ℚ) ≠ 0 := by positivity
  rw [magnitude_eq, div_eq_iff notZero]
  constructor
  · intro product
    have whole : x.ratio.1 = n * x.ratio.2 := by exact_mod_cast product
    rw [whole]
    exact ⟨Nat.mul_mod_left n _, Nat.mul_div_cancel n positive⟩
  · rintro ⟨remainder, rfl⟩
    have whole := Nat.div_add_mod x.ratio.1 x.ratio.2
    rw [remainder, Nat.add_zero, Nat.mul_comm] at whole
    exact_mod_cast whole.symm

theorem toInt?_eq (x : Binary64) :
    x.toInt? = if x.ratio.1 % x.ratio.2 = 0 then
      some (if x.negative then -((x.ratio.1 / x.ratio.2 : Nat) : Int)
        else (x.ratio.1 / x.ratio.2 : Nat)) else none :=
  rfl

/-- A number that is natural but for its sign is an integer. -/
theorem toRat_of_magnitude {x : Binary64} {n : Nat} (natural : x.magnitude = n) :
    x.toRat = ((if x.negative then -(n : Int) else n : Int) : ℚ) := by
  rw [toRat, natural]
  split
  · simp
  · simp

/-- The integer that is computed from a float is the number that the float is. -/
theorem toInt?_eq_some_iff (x : Binary64) (n : Int) : x.toInt? = some n ↔ x.toRat = n := by
  rw [toInt?_eq]
  constructor
  · intro found
    split at found
    · next remainder =>
        have natural := (magnitude_eq_natCast_iff x _).2 ⟨remainder, rfl⟩
        rw [toRat_of_magnitude natural, ← Option.some.inj found]
    · cases found
  · intro same
    have natural : x.magnitude = n.natAbs := by
      have size : |x.toRat| = x.magnitude := by
        rw [toRat]
        split
        · rw [abs_neg, abs_of_nonneg x.magnitude_nonneg]
        · rw [abs_of_nonneg x.magnitude_nonneg]
      rw [← size, same, Nat.cast_natAbs, Int.cast_abs]
    obtain ⟨remainder, quotient⟩ := (magnitude_eq_natCast_iff x _).1 natural
    rw [if_pos remainder, quotient, Option.some.injEq]
    exact Int.cast_injective ((toRat_of_magnitude natural).symm.trans same)

end Parley.Binary64
