/-
Module: Parley.Proofs.Json.Scaled
Layer: Proofs
Purpose: Which significands can be scaled by a power of ten when a number is read.  Making a number
  smaller always succeeds.  Making it larger succeeds for all significands of 64 bits as long as the
  power is well below the greatest, and up to the greatest for significands of seventeen digits if
  the product is below the last gap between floats.
Main exports: Json.scaleLimit, Json.shrink_isSome, Json.scaled?_isSome, Json.scaled?_isSome_of_le
-/
import Parley.Json.Token
import Parley.Proofs.Number.Rounding

namespace Parley.Json

open Binary64 (overflow)

/-- The upper end of the reals that round to the float before the greatest. -/
def greatestScaled : Nat := (2 ^ 54 - 3) * 2 ^ 970

theorem greatestScaled_eq : (greatestScaled : ℚ) = (2 ^ 54 - 3) * 2 ^ (970 : Int) := by
  rw [greatestScaled, Nat.cast_mul, Nat.cast_pow, ← zpow_natCast]
  norm_num

theorem places_of_pow_le {places : Nat} (le : 10 ^ places ≤ greatestScaled) : places ≤ 308 := by
  obtain ⟨most, isMost, above⟩ : ∃ most, most = 309 ∧ greatestScaled < 10 ^ most :=
    ⟨309, rfl, by decide +kernel⟩
  have below := (Nat.pow_lt_pow_iff_right (by decide)).1 (Nat.lt_of_le_of_lt le above)
  omega

/-- The greatest significand that is considered for a power of ten. -/
def scaleLimit (places : Nat) : Nat :=
  if places ≤ 288 then 2 ^ 64 else min (10 ^ 17) (greatestScaled / 10 ^ places)

/-- Each limit is a float, and its product with the float for the power of ten can be rounded. -/
theorem scales_limits : ∀ places : Fin 309,
    ((powerOfTen? places).any fun power =>
      (Binary64.ofNat? (scaleLimit places)).any fun limit =>
        power.ratio.2 ≤ power.ratio.1 ∧ limit.ratio.1 = scaleLimit places * limit.ratio.2 ∧
          limit.ratio.1 * power.ratio.1 <
            (2 ^ 54 - 1) * 2 ^ 970 * (limit.ratio.2 * power.ratio.2)) = true := by
  decide +kernel

/-- The same, about the numbers. -/
theorem exists_power {places : Nat} (le : places ≤ 308) :
    ∃ power limit : Binary64, powerOfTen? places = some power ∧ 1 ≤ power.magnitude ∧
      limit.magnitude = scaleLimit places ∧ limit.magnitude * power.magnitude < overflow := by
  have scales := scales_limits ⟨places, Nat.lt_succ_of_le le⟩
  simp only [Option.any_eq_true, decide_eq_true_eq] at scales
  obtain ⟨power, isPower, limit, -, notBelow, isLimit, finite⟩ := scales
  have powerDen : (0 : ℚ) < power.ratio.2 := by exact_mod_cast power.ratio_pos
  have limitDen : (0 : ℚ) < limit.ratio.2 := by exact_mod_cast limit.ratio_pos
  refine ⟨power, limit, isPower, ?_, ?_, ?_⟩
  · rw [Binary64.magnitude_eq, le_div_iff₀ powerDen, one_mul]
    exact_mod_cast notBelow
  · rw [Binary64.magnitude_eq, isLimit, div_eq_iff (ne_of_gt limitDen)]
    push_cast
    rfl
  · have bound : (((2 ^ 54 - 1) * 2 ^ 970 : Nat) : ℚ) = overflow := by
      rw [overflow, Nat.cast_mul, Nat.cast_pow, ← zpow_natCast]
      norm_num
    rw [Binary64.magnitude_eq, Binary64.magnitude_eq, div_mul_div_comm,
      div_lt_iff₀ (mul_pos limitDen powerDen), ← bound]
    generalize (2 ^ 54 - 1) * 2 ^ 970 = most at finite
    exact_mod_cast finite

/-- Every number can be made smaller. -/
theorem shrink_isSome (value : Binary64) (places : Nat) :
    ∃ result, shrink value places = some result := by
  induction value, places using shrink.induct with
  | case1 value places le =>
      obtain ⟨power, -, isPower, notBelow, -⟩ := exists_power le
      rw [shrink, if_pos le, isPower]
      exact Binary64.over?_isSome value notBelow
  | case2 value places notLe isZero =>
      rw [shrink, if_neg notLe, if_pos isZero]
      exact ⟨value, rfl⟩
  | case3 value places notLe notZero ih =>
      obtain ⟨power, -, isPower, notBelow, -⟩ := exists_power (Nat.le_refl 308)
      obtain ⟨less, divided⟩ := Binary64.over?_isSome value notBelow
      obtain ⟨result, shrunk⟩ := ih less
      refine ⟨result, ?_⟩
      rw [shrink, if_neg notLe, if_neg notZero, isPower, Option.bind_some, divided,
        Option.bind_some, shrunk]

/-- A significand within the limit for a power of ten can be scaled by it. -/
theorem scaled?_isSome_of_limit {significand : Nat} {exponent : Int} (le : exponent ≤ 308)
    (within : significand ≤ scaleLimit exponent.toNat) :
    ∃ result, scaled? significand exponent = some result := by
  obtain ⟨power, limit, isPower, notBelow, isLimit, finite⟩ :=
    exists_power (show exponent.toNat ≤ 308 by omega)
  have atMost : ((significand : Nat) : ℚ) / (1 : Nat) ≤ limit.magnitude := by
    rw [Nat.cast_one, div_one, isLimit]
    exact_mod_cast within
  obtain ⟨value, isValue⟩ := Binary64.nearest?_isSome false significand Nat.one_pos
    (lt_of_le_of_lt atMost limit.magnitude_lt_overflow)
  have below := Binary64.magnitude_le_of_nearest? Nat.one_pos atMost isValue
  rw [scaled?, show Binary64.ofNat? significand = some value from isValue, Option.bind_some]
  split
  · exact shrink_isSome value _
  · rw [isPower]
    refine Binary64.times?_isSome (lt_of_le_of_lt ?_ finite)
    exact mul_le_mul_of_nonneg_right below power.magnitude_nonneg

/-- Every significand of 64 bits can be scaled well below the greatest power of ten. -/
theorem scaled?_isSome {significand : Nat} {exponent : Int}
    (fits : significand ≤ greatestSignificand) (le : exponent ≤ 288) :
    ∃ result, scaled? significand exponent = some result := by
  refine scaled?_isSome_of_limit (by omega) ?_
  rw [scaleLimit, if_pos (by omega)]
  exact Nat.le_trans fits (Nat.sub_le _ _)

/-- Seventeen digits can be scaled if the product is not above the reals that round to the float
before the greatest. -/
theorem scaled?_isSome_of_le {significand places : Nat} (positive : 0 < significand)
    (digits : significand ≤ 10 ^ 17) (le : significand * 10 ^ places ≤ greatestScaled) :
    ∃ result, scaled? significand places = some result := by
  have few := places_of_pow_le (Nat.le_trans (Nat.le_mul_of_pos_left _ positive) le)
  refine scaled?_isSome_of_limit (by omega) ?_
  rw [scaleLimit, Int.toNat_natCast]
  split
  · exact Nat.le_trans digits (by decide)
  · exact Nat.le_min.2 ⟨digits, (Nat.le_div_iff_mul_le (Nat.pow_pos (by decide))).2 le⟩

end Parley.Json
