/-
Module: Parley.Proofs.Number.Rounding
Layer: Proofs
Purpose: Rounding to the nearest float.  It gives a float for every fraction below the middle of
  the greatest float and the power of two above it, and it never leads past a float: what is at most
  a float is rounded to at most that float.
Main exports: Binary64.roundDiv_near, Binary64.lastPlace_spec, Binary64.overflow,
  Binary64.nearest?_isSome, Binary64.magnitude_le_of_nearest?, Binary64.times?_isSome,
  Binary64.over?_isSome
-/
import Mathlib.Tactic.GCongr
import Mathlib.Tactic.Ring
import Parley.Proofs.Number.Exact

namespace Parley.Binary64

/-! ### Quotients -/

section Quotients

variable {num den bound : Nat}

/-- The rounded quotient is at most one half away. -/
theorem roundDiv_near (num : Nat) (positive : 0 < den) :
    2 * (roundDiv num den * den) ≤ 2 * num + den ∧
      2 * num ≤ 2 * (roundDiv num den * den) + den := by
  have whole := Nat.div_add_mod' num den
  have remainder := Nat.mod_lt num positive
  have next : (num / den + 1) * den = num / den * den + den := Nat.succ_mul _ _
  rw [roundDiv]
  split
  · omega
  · split
    · omega
    · split
      · omega
      · omega

theorem roundDiv_le (positive : 0 < den) (le : num ≤ bound * den) : roundDiv num den ≤ bound := by
  by_contra above
  have product := Nat.mul_le_mul_right den (Nat.lt_of_not_le above)
  have near := (roundDiv_near num positive).1
  rw [Nat.succ_mul] at product
  omega

theorem le_roundDiv (positive : 0 < den) (le : bound * den ≤ num) : bound ≤ roundDiv num den := by
  by_contra below
  have product := Nat.mul_le_mul_right den (Nat.lt_of_not_le below)
  have near := (roundDiv_near num positive).2
  rw [Nat.succ_mul] at product
  omega

theorem roundDiv_lt (positive : 0 < den) (lt : 2 * num + den < 2 * (bound * den)) :
    roundDiv num den < bound := by
  by_contra notBelow
  have product := Nat.mul_le_mul_right den (Nat.le_of_not_lt notBelow)
  have near := (roundDiv_near num positive).1
  omega

end Quotients

/-! ### Units -/

section Units

variable {num den bound : Nat}

theorem inUnits_pos (num : Nat) (positive : 0 < den) (exponent : Int) :
    0 < (inUnits num den exponent).2 := by
  rw [inUnits]
  split
  · exact Nat.mul_pos positive (Nat.pow_pos Nat.two_pos)
  · exact positive

/-- A fraction in units of a power of two is the fraction divided by that power. -/
theorem inUnits_eq (num den : Nat) (exponent : Int) :
    ((inUnits num den exponent).1 : ℚ) / (inUnits num den exponent).2 =
      num / den / 2 ^ exponent := by
  rw [inUnits]
  split
  · next notNegative =>
      obtain ⟨places, rfl⟩ := Int.eq_ofNat_of_zero_le notNegative
      simp [div_div]
  · next negative =>
      obtain ⟨places, isExponent⟩ := Int.eq_ofNat_of_zero_le (show 0 ≤ -exponent by omega)
      rw [show exponent = -(places : ℤ) by omega]
      simp [div_eq_mul_inv, mul_right_comm]

/-- The nearest multiple of `2 ^ exponent`, by its number of units. -/
def rounded (num den : Nat) (exponent : Int) : Nat :=
  roundDiv (inUnits num den exponent).1 (inUnits num den exponent).2

variable {exponent : Int}

theorem rounded_le (positive : 0 < den) (le : (num : ℚ) / den ≤ bound * 2 ^ exponent) :
    rounded num den exponent ≤ bound := by
  have scale := inUnits_pos num positive exponent
  have scaleRat : (0 : ℚ) < (inUnits num den exponent).2 := by exact_mod_cast scale
  refine roundDiv_le scale ?_
  rw [← div_le_iff₀ (by positivity), ← inUnits_eq, div_le_iff₀ scaleRat] at le
  exact_mod_cast le

theorem le_rounded (positive : 0 < den) (le : bound * 2 ^ exponent ≤ (num : ℚ) / den) :
    bound ≤ rounded num den exponent := by
  have scale := inUnits_pos num positive exponent
  have scaleRat : (0 : ℚ) < (inUnits num den exponent).2 := by exact_mod_cast scale
  refine le_roundDiv scale ?_
  rw [← le_div_iff₀ (by positivity), ← inUnits_eq, le_div_iff₀ scaleRat] at le
  exact_mod_cast le

theorem rounded_lt (positive : 0 < den)
    (lt : 2 * ((num : ℚ) / den) < (2 * bound - 1) * 2 ^ exponent) :
    rounded num den exponent < bound := by
  have scale := inUnits_pos num positive exponent
  have scaleRat : (0 : ℚ) < (inUnits num den exponent).2 := by exact_mod_cast scale
  refine roundDiv_lt scale ?_
  rw [← div_lt_iff₀ (by positivity), mul_div_assoc, ← inUnits_eq, ← mul_div_assoc,
    div_lt_iff₀ scaleRat] at lt
  have natural : 2 * ((inUnits num den exponent).1 : ℚ) + (inUnits num den exponent).2 <
      2 * (bound * (inUnits num den exponent).2) := by linarith
  exact_mod_cast natural

end Units

/-! ### The last place -/

section LastPlace

variable {num den : Nat}

theorem pow_log2_le (positive : 0 < num) : (2 : ℚ) ^ (Nat.log2 num : ℤ) ≤ num := by
  have le := Nat.log2_self_le (Nat.pos_iff_ne_zero.1 positive)
  rw [zpow_natCast]
  exact_mod_cast le

theorem lt_pow_log2 (num : Nat) : (num : ℚ) < 2 ^ ((Nat.log2 num : ℤ) + 1) := by
  have lt := Nat.lt_log2_self (n := num)
  rw [← Nat.cast_succ, zpow_natCast]
  exact_mod_cast lt

/-- The difference of the lengths tells the quotient but for a factor of two. -/
theorem guess_bounds (positive : 0 < num) (positiveDen : 0 < den) :
    2 ^ ((Nat.log2 num : ℤ) - Nat.log2 den - 1) ≤ (num : ℚ) / den ∧
      (num : ℚ) / den < 2 ^ ((Nat.log2 num : ℤ) - Nat.log2 den + 1) := by
  have denRat : (0 : ℚ) < den := by exact_mod_cast positiveDen
  constructor
  · rw [le_div_iff₀ denRat]
    calc (2 : ℚ) ^ ((Nat.log2 num : ℤ) - Nat.log2 den - 1) * den
        ≤ 2 ^ ((Nat.log2 num : ℤ) - Nat.log2 den - 1) * 2 ^ ((Nat.log2 den : ℤ) + 1) := by
          gcongr
          exact (lt_pow_log2 den).le
      _ = 2 ^ (Nat.log2 num : ℤ) := by
          rw [← zpow_add₀ (by norm_num)]
          congr 1
          ring
      _ ≤ num := pow_log2_le positive
  · rw [div_lt_iff₀ denRat]
    calc (num : ℚ) < 2 ^ ((Nat.log2 num : ℤ) + 1) := lt_pow_log2 num
      _ = 2 ^ ((Nat.log2 num : ℤ) - Nat.log2 den + 1) * 2 ^ (Nat.log2 den : ℤ) := by
          rw [← zpow_add₀ (by norm_num)]
          congr 1
          ring
      _ ≤ 2 ^ ((Nat.log2 num : ℤ) - Nat.log2 den + 1) * den := by
          gcongr
          exact pow_log2_le positiveDen

/-- Where the quotient in units of the guess has more than 53 bits, the place after the guess is the
last one. -/
theorem place_bounds (positive : 0 < num) (positiveDen : 0 < den) {guess : Int}
    (isGuess : guess = (Nat.log2 num : Int) - Nat.log2 den - 53) {place : Int}
    (isPlace : place = if (inUnits num den guess).1 / (inUnits num den guess).2 < 2 ^ 53 then guess
      else guess + 1) :
    2 ^ (52 + place) ≤ (num : ℚ) / den ∧ (num : ℚ) / den < 2 ^ (53 + place) := by
  obtain ⟨lower, upper⟩ := guess_bounds positive positiveDen
  have scale := inUnits_pos num positiveDen guess
  have scaleRat : (0 : ℚ) < (inUnits num den guess).2 := by exact_mod_cast scale
  have unit : (0 : ℚ) < 2 ^ guess := by positivity
  subst isPlace
  split
  · next fits =>
      rw [Nat.div_lt_iff_lt_mul scale] at fits
      have below : ((inUnits num den guess).1 : ℚ) < 2 ^ 53 * (inUnits num den guess).2 := by
        exact_mod_cast fits
      rw [← div_lt_iff₀ scaleRat, inUnits_eq, div_lt_iff₀ unit] at below
      refine ⟨le_trans (le_of_eq ?_) lower, lt_of_lt_of_eq below ?_⟩
      · rw [isGuess]
        congr 1
        ring
      · rw [zpow_add₀ (by norm_num)]
        rfl
  · next tooLarge =>
      rw [Nat.div_lt_iff_lt_mul scale, not_lt] at tooLarge
      have above : 2 ^ 53 * ((inUnits num den guess).2 : ℚ) ≤ (inUnits num den guess).1 := by
        exact_mod_cast tooLarge
      rw [← le_div_iff₀ scaleRat, inUnits_eq, le_div_iff₀ unit] at above
      refine ⟨le_trans (le_of_eq ?_) above, lt_of_lt_of_eq upper ?_⟩
      · rw [show 52 + (guess + 1) = 53 + guess by ring, zpow_add₀ (by norm_num)]
        rfl
      · rw [isGuess]
        congr 1
        ring

/-- At the last place of a fraction at most 53 bits are left before the point, and as many if the
place is not the least. -/
theorem lastPlace_spec (positive : 0 < num) (positiveDen : 0 < den) :
    -1074 ≤ lastPlace num den ∧ (num : ℚ) / den < 2 ^ (53 + lastPlace num den) ∧
      (2 ^ (52 + lastPlace num den) ≤ (num : ℚ) / den ∨ lastPlace num den = -1074) := by
  obtain ⟨place, isPlace⟩ : ∃ place : Int, lastPlace num den = max place (-1074) ∧
      2 ^ (52 + place) ≤ (num : ℚ) / den ∧ (num : ℚ) / den < 2 ^ (53 + place) :=
    ⟨_, rfl, place_bounds positive positiveDen rfl rfl⟩
  obtain ⟨isLast, lower, upper⟩ := isPlace
  rw [isLast]
  refine ⟨le_max_right _ _, lt_of_lt_of_le upper ?_, ?_⟩
  · exact zpow_le_zpow_right₀ (by norm_num) (by omega)
  · rcases le_total (-1074) place with least | below
    · rw [max_eq_left least]
      exact .inl lower
    · exact .inr (max_eq_right below)

end LastPlace

/-! ### Rounding -/

section Rounding

variable {num den : Nat} {negative : Bool} {x : Binary64}

theorem nearest?_eq (positive : 0 < num) :
    nearest? negative num den =
      if rounded num den (lastPlace num den) = Nat.pow 2 53 then
        make? negative (Nat.pow 2 52) (lastPlace num den + 1)
      else make? negative (rounded num den (lastPlace num den)) (lastPlace num den) := by
  rw [nearest?, if_neg (Nat.pos_iff_ne_zero.1 positive)]
  rfl

theorem magnitude_of_make? {significand : Nat} {exponent : Int}
    (made : make? negative significand exponent = some x) :
    x.magnitude = significand * 2 ^ exponent := by
  rw [make?] at made
  split at made
  · cases made
    rfl
  · cases made

theorem make?_isSome {significand : Nat} {exponent : Int}
    (canonical : Canonical significand exponent) :
    ∃ x, make? negative significand exponent = some x :=
  ⟨_, dif_pos canonical⟩

/-- The middle between the greatest float and the power of two after it. -/
def overflow : ℚ := (2 ^ 54 - 1) * 2 ^ (970 : Int)

theorem overflow_lt : overflow < 2 ^ (1024 : Int) := by
  have split : (2 : ℚ) ^ (1024 : Int) = 2 ^ 54 * 2 ^ (970 : Int) := by
    rw [show (1024 : Int) = 54 + 970 by norm_num, zpow_add₀ (by norm_num)]
    rfl
  have unit : (0 : ℚ) < 2 ^ (970 : Int) := by positivity
  rw [overflow, split]
  exact mul_lt_mul_of_pos_right (by norm_num) unit

/-- A fraction below that is rounded to a float. -/
theorem nearest?_isSome (negative : Bool) (num : Nat) (positiveDen : 0 < den)
    (finite : (num : ℚ) / den < overflow) :
    ∃ x, nearest? negative num den = some x := by
  rcases Nat.eq_zero_or_pos num with rfl | positive
  · exact ⟨_, rfl⟩
  obtain ⟨least, upper, lower⟩ := lastPlace_spec positive positiveDen
  rw [nearest?_eq positive]
  generalize lastPlace num den = place at *
  have unitTimes : ∀ places : Int, (2 : ℚ) ^ (places + place) = 2 ^ places * 2 ^ place :=
    fun places => zpow_add₀ (by norm_num) _ _
  have greatest : place ≤ 971 := by
    rcases lower with lower | isLeast
    · have below : (2 : ℚ) ^ (52 + place) < 2 ^ (1024 : Int) :=
        lt_trans (lt_of_le_of_lt lower finite) overflow_lt
      have places := (zpow_lt_zpow_iff_right₀ (by norm_num)).1 below
      omega
    · omega
  have most : rounded num den place ≤ 2 ^ 53 := by
    refine rounded_le positiveDen (le_of_lt (lt_of_lt_of_eq upper ?_))
    rw [unitTimes]
    norm_num
  split
  · next carried =>
      -- At the greatest exponent the significand would have to be rounded up past all floats.
      have notGreatest : place ≠ 971 := by
        rintro rfl
        have notCarried : rounded num den 971 < 2 ^ 53 := by
          refine rounded_lt positiveDen ?_
          rw [show (971 : Int) = 970 + 1 by norm_num, zpow_add_one₀ (by norm_num)]
          rw [overflow] at finite
          generalize (2 : ℚ) ^ (970 : Int) = unit at finite
          push_cast
          linarith
        exact absurd carried (Nat.ne_of_lt notCarried)
      exact make?_isSome ⟨by decide, by omega, by omega, .inl (Nat.le_refl _)⟩
  · next notCarried =>
      have fits : rounded num den place < Nat.pow 2 53 := Nat.lt_of_le_of_ne most notCarried
      refine make?_isSome ⟨fits, least, greatest, lower.imp (fun lower => ?_) id⟩
      refine le_rounded positiveDen (le_trans (le_of_eq ?_) lower)
      rw [unitTimes]
      norm_num

theorem magnitude_of_nearest? (positive : 0 < num) (found : nearest? negative num den = some x) :
    x.magnitude = rounded num den (lastPlace num den) * 2 ^ lastPlace num den := by
  rw [nearest?_eq positive] at found
  split at found
  · next carried =>
      rw [magnitude_of_make? found, carried, zpow_add_one₀ (by norm_num)]
      push_cast
      ring
  · exact magnitude_of_make? found

/-- What is at most a float is rounded to at most that float. -/
theorem magnitude_le_of_nearest? {bound : Binary64} (positiveDen : 0 < den)
    (le : (num : ℚ) / den ≤ bound.magnitude) (found : nearest? negative num den = some x) :
    x.magnitude ≤ bound.magnitude := by
  rcases Nat.eq_zero_or_pos num with rfl | positive
  · cases found
    rw [magnitude, zero, Nat.cast_zero, zero_mul]
    exact bound.magnitude_nonneg
  obtain ⟨small, least, -, -⟩ := bound.canonical
  obtain ⟨-, -, lower⟩ := lastPlace_spec positive positiveDen
  rw [magnitude_of_nearest? positive found]
  rw [magnitude] at le ⊢
  generalize lastPlace num den = place at *
  have notAbove : place ≤ bound.exponent := by
    rcases lower with lower | isLeast
    · have below : (2 : ℚ) ^ (52 + place) < 2 ^ (53 + bound.exponent) := by
        refine lt_of_le_of_lt (le_trans lower le) ?_
        rw [zpow_add₀ (by norm_num)]
        gcongr
        exact_mod_cast small
      have places := (zpow_lt_zpow_iff_right₀ (by norm_num)).1 below
      omega
    · omega
  -- The bound is a whole number of units of the last place.
  obtain ⟨places, isPlaces⟩ := Int.eq_ofNat_of_zero_le (show 0 ≤ bound.exponent - place by omega)
  have inUnits : (bound.significand * 2 ^ bound.exponent : ℚ) =
      (bound.significand * 2 ^ places : Nat) * 2 ^ place := by
    rw [show bound.exponent = (places : Int) + place by omega, zpow_add₀ (by norm_num),
      zpow_natCast]
    push_cast
    ring
  rw [inUnits] at le ⊢
  have units := rounded_le positiveDen le
  gcongr

end Rounding

/-! ### Products and quotients -/

section Operations

variable {x y : Binary64}

theorem magnitude_lt_overflow (x : Binary64) : x.magnitude < overflow := by
  obtain ⟨small, -, greatest, -⟩ := x.canonical
  have significand : (x.significand : ℚ) ≤ 2 ^ 53 - 1 := by
    have natural : (x.significand : ℚ) + 1 ≤ 2 ^ 53 := by exact_mod_cast small
    linarith
  have unit : (0 : ℚ) < 2 ^ (970 : Int) := by positivity
  have power : (2 : ℚ) ^ x.exponent ≤ 2 ^ (970 : Int) * 2 := by
    rw [← zpow_add_one₀ (by norm_num)]
    exact zpow_le_zpow_right₀ (by norm_num) greatest
  calc x.magnitude = x.significand * 2 ^ x.exponent := rfl
    _ ≤ (2 ^ 53 - 1) * (2 ^ (970 : Int) * 2) :=
        mul_le_mul significand power (by positivity) (by norm_num)
    _ = (2 ^ 53 - 1) * 2 * 2 ^ (970 : Int) := by rw [mul_comm (2 ^ (970 : Int)) 2, mul_assoc]
    _ < overflow := mul_lt_mul_of_pos_right (by norm_num) unit

/-- A product that is not too large is rounded to a float. -/
theorem times?_isSome (finite : x.magnitude * y.magnitude < overflow) :
    ∃ z, x.times? y = some z := by
  refine nearest?_isSome _ _ (Nat.mul_pos x.ratio_pos y.ratio_pos) ?_
  rw [magnitude_eq, magnitude_eq, div_mul_div_comm] at finite
  exact_mod_cast finite

/-- A quotient is rounded to a float where the divisor is not below one. -/
theorem over?_isSome (x : Binary64) (notBelow : 1 ≤ y.magnitude) : ∃ z, x.over? y = some z := by
  have positive : 0 < y.magnitude := lt_of_lt_of_le one_pos notBelow
  have notZero : y.significand ≠ 0 := by
    intro isZero
    simp [magnitude, isZero] at positive
  have numerator : 0 < y.ratio.1 := by
    rw [magnitude_eq] at positive
    have denominator : (0 : ℚ) < y.ratio.2 := by exact_mod_cast y.ratio_pos
    exact_mod_cast (div_pos_iff_of_pos_right denominator).1 positive
  rw [over?, if_neg notZero]
  refine nearest?_isSome _ _ (Nat.mul_pos x.ratio_pos numerator) ?_
  have quotient : ((x.ratio.1 * y.ratio.2 : Nat) : ℚ) / (x.ratio.2 * y.ratio.1 : Nat) =
      x.magnitude / y.magnitude := by
    rw [magnitude_eq, magnitude_eq, div_div_div_eq]
    push_cast
    rfl
  rw [quotient]
  exact lt_of_le_of_lt (div_le_self x.magnitude_nonneg notBelow) x.magnitude_lt_overflow

end Operations

end Parley.Binary64
