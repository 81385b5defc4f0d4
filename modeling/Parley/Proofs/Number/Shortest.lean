/-
Module: Parley.Proofs.Number.Shortest
Layer: Proofs
Purpose: The digits that are found for a float other than zero: a count of at most seventeen digits
  on a decimal grid, which is not zero and does not lie above the reals that round to the float.
Main exports: Binary64.upperEnd, Binary64.upperEnd_le, Binary64.Catchment.le_of_holds,
  Binary64.lt_leadingExponent, Binary64.Catchment.count_le, Binary64.shortest_cases
-/
import Parley.Number.Shortest
import Parley.Proofs.Number.Rounding

namespace Parley.Binary64

/-! ### Powers over one denominator -/

/-- The numerator of a power. -/
def scaleUp (base : Nat) (exponent : Int) : Nat :=
  if 0 ≤ exponent then Nat.pow base exponent.toNat else 1

/-- The denominator of a power. -/
def scaleDown (base : Nat) (exponent : Int) : Nat :=
  if 0 ≤ exponent then 1 else Nat.pow base (-exponent).toNat

section Powers

variable {base : Nat}

theorem scaleUp_pos (positive : 0 < base) (exponent : Int) : 0 < scaleUp base exponent := by
  rw [scaleUp]
  split
  · exact Nat.pow_pos positive
  · exact Nat.one_pos

theorem scaleDown_pos (positive : 0 < base) (exponent : Int) : 0 < scaleDown base exponent := by
  rw [scaleDown]
  split
  · exact Nat.one_pos
  · exact Nat.pow_pos positive

theorem scale_eq (base : Nat) (exponent : Int) :
    (scaleUp base exponent : ℚ) / scaleDown base exponent = (base : ℚ) ^ exponent := by
  rw [scaleUp, scaleDown]
  split
  · next notNegative =>
      obtain ⟨places, rfl⟩ := Int.eq_ofNat_of_zero_le notNegative
      simp
  · next negative =>
      obtain ⟨places, isExponent⟩ := Int.eq_ofNat_of_zero_le (show 0 ≤ -exponent by omega)
      rw [show exponent = -(places : ℤ) by omega]
      simp

end Powers

/-! ### The reals that round to a float -/

/-- The middle between a float and the next greater one. -/
def upperEnd (x : Binary64) : ℚ :=
  (4 * x.significand + 2) * 2 ^ (x.exponent - 2)

/-- For each float but the greatest it is at most this. -/
theorem upperEnd_le {x : Binary64}
    (notGreatest : ¬(x.significand = 2 ^ 53 - 1 ∧ x.exponent = 971)) :
    x.upperEnd ≤ (2 ^ 54 - 3) * 2 ^ (970 : Int) := by
  obtain ⟨small, -, greatest, -⟩ := x.canonical
  have power : Nat.pow 2 53 = 2 ^ 53 := rfl
  have unit : (2 : ℚ) ^ (970 : Int) = 2 * 2 ^ (969 : Int) := by
    rw [show (970 : Int) = 969 + 1 by norm_num, zpow_add_one₀ (by norm_num), mul_comm]
  rw [upperEnd, unit, ← mul_assoc]
  by_cases atGreatest : x.exponent = 971
  · have significand : (4 * x.significand + 2 : ℚ) ≤ (2 ^ 54 - 3) * 2 := by
      have natural : 4 * x.significand + 2 ≤ 36028797018963962 := by omega
      have cast : ((4 * x.significand + 2 : Nat) : ℚ) ≤ 36028797018963962 := by
        exact_mod_cast natural
      push_cast at cast
      linarith
    rw [show x.exponent - 2 = 969 by omega]
    exact mul_le_mul_of_nonneg_right significand (by positivity)
  · have significand : (4 * x.significand + 2 : ℚ) ≤ (2 ^ 54 - 3) * 2 * 2 := by
      have natural : 4 * x.significand + 2 ≤ 36028797018963966 := by omega
      have cast : ((4 * x.significand + 2 : Nat) : ℚ) ≤ 36028797018963966 := by
        exact_mod_cast natural
      push_cast at cast
      linarith
    have places : (2 : ℚ) ^ (x.exponent - 2) ≤ 2 ^ (968 : Int) :=
      zpow_le_zpow_right₀ (by norm_num) (by omega)
    have split : (2 : ℚ) ^ (969 : Int) = 2 * 2 ^ (968 : Int) := by
      rw [show (969 : Int) = 968 + 1 by norm_num, zpow_add_one₀ (by norm_num), mul_comm]
    rw [split, ← mul_assoc]
    exact mul_le_mul significand places (by positivity) (by norm_num)

theorem den_catchment_pos (x : Binary64) : 0 < x.catchment.den :=
  scaleDown_pos Nat.two_pos _

theorem high_catchment (x : Binary64) :
    (x.catchment.high : ℚ) / x.catchment.den = x.upperEnd := by
  have power := scale_eq 2 (x.exponent - 2)
  have product : (x.catchment.high : ℚ) / x.catchment.den =
      (4 * x.significand + 2) * (scaleUp 2 (x.exponent - 2) / scaleDown 2 (x.exponent - 2)) := by
    rw [← mul_div_assoc]
    exact congrArg (· / _) (by simp [catchment, scaleUp])
  rw [product, power, upperEnd]
  push_cast
  ring

/-- Zero does not round to a float other than zero. -/
theorem low_catchment_pos {x : Binary64} (notZero : x.isZero = false) : 0 < x.catchment.low := by
  have positive : 0 < x.significand := by
    simpa [isZero, Nat.pos_iff_ne_zero] using notZero
  refine Nat.mul_pos ?_ (scaleUp_pos Nat.two_pos _)
  split
  · omega
  · omega

theorem roundDiv_eq_or (num den : Nat) :
    roundDiv num den = num / den ∨ roundDiv num den = num / den + 1 := by
  rw [roundDiv]
  split
  · exact .inl rfl
  · split
    · exact .inr rfl
    · split
      · exact .inl rfl
      · exact .inr rfl

namespace Catchment

variable {c : Catchment} {count : Nat} {grid : Int}

theorem holds_iff :
    c.holds count grid = true ↔
      if c.closed = true then
        c.low * scaleDown 10 grid ≤ count * scaleUp 10 grid * c.den ∧
          count * scaleUp 10 grid * c.den ≤ c.high * scaleDown 10 grid
      else
        c.low * scaleDown 10 grid < count * scaleUp 10 grid * c.den ∧
          count * scaleUp 10 grid * c.den < c.high * scaleDown 10 grid := by
  have unfolded : c.holds count grid =
      if c.closed = true then
        c.low * scaleDown 10 grid ≤ count * scaleUp 10 grid * c.den &&
          count * scaleUp 10 grid * c.den ≤ c.high * scaleDown 10 grid
      else
        c.low * scaleDown 10 grid < count * scaleUp 10 grid * c.den &&
          count * scaleUp 10 grid * c.den < c.high * scaleDown 10 grid := rfl
  rw [unfolded]
  split
  · simp
  · simp

/-- What lies in a catchment is not above its end, and is not zero if its start is not. -/
theorem le_of_holds (positive : 0 < c.den) (holds : c.holds count grid = true) :
    (count : ℚ) * 10 ^ grid ≤ c.high / c.den ∧ (0 < c.low → 0 < count) := by
  have down := scaleDown_pos (show 0 < 10 by decide) grid
  obtain ⟨above, below⟩ : c.low * scaleDown 10 grid ≤ count * scaleUp 10 grid * c.den ∧
      count * scaleUp 10 grid * c.den ≤ c.high * scaleDown 10 grid := by
    rw [holds_iff] at holds
    split at holds
    · exact holds
    · exact ⟨holds.1.le, holds.2.le⟩
  constructor
  · have power := scale_eq 10 grid
    rw [Nat.cast_ofNat] at power
    have downRat : (0 : ℚ) < scaleDown 10 grid := by exact_mod_cast down
    have denRat : (0 : ℚ) < c.den := by exact_mod_cast positive
    rw [← power, ← mul_div_assoc, div_le_div_iff₀ downRat denRat]
    exact_mod_cast below
  · intro low
    rcases Nat.eq_zero_or_pos count with rfl | some
    · have product := Nat.mul_pos low down
      omega
    · exact some

/-- The point that is picked lies in the catchment and is one of the two beside the number. -/
theorem pick?_eq_some (picked : c.pick? grid = some count) :
    c.holds count grid = true ∧
      count ≤ c.value * scaleDown 10 grid / (c.den * scaleUp 10 grid) + 1 := by
  unfold pick? at picked
  extract_lets up down below at picked
  change c.holds count grid = true ∧ count ≤ below + 1
  have rounded : roundDiv (c.value * down) (c.den * up) = below ∨
      roundDiv (c.value * down) (c.den * up) = below + 1 := roundDiv_eq_or _ _
  clear_value below
  split at picked
  · cases picked
  · next first _ =>
      cases picked
      exact ⟨first, Nat.le_succ _⟩
  · next _ second =>
      cases picked
      exact ⟨second, Nat.le_refl _⟩
  · next first second =>
      cases picked
      rcases rounded with same | next
      · exact same.symm ▸ ⟨first, Nat.le_succ _⟩
      · exact next.symm ▸ ⟨second, Nat.le_refl _⟩

end Catchment

/-! ### The first digit -/

theorem lt_pow_length_toDigits (n : Nat) : n < 10 ^ (Nat.toDigits 10 n).length :=
  (Nat.length_toDigits_le_iff (by decide) Nat.length_toDigits_pos).1 (Nat.le_refl _)

theorem pow_length_toDigits_le {n : Nat} (positive : 0 < n) :
    10 ^ ((Nat.toDigits 10 n).length - 1) ≤ n := by
  rcases Nat.eq_zero_or_pos ((Nat.toDigits 10 n).length - 1) with isOne | several
  · rw [isOne]
    exact positive
  · rw [← Nat.not_lt, ← Nat.length_toDigits_le_iff (by decide) several]
    omega

/-- A fraction is below the power of ten after that of its first digit. -/
theorem lt_leadingExponent {num den : Nat} (positive : 0 < num) (positiveDen : 0 < den) :
    (num : ℚ) / den < 10 ^ (leadingExponent num den + 1) := by
  have denRat : (0 : ℚ) < den := by exact_mod_cast positiveDen
  have numRat : (0 : ℚ) < num := by exact_mod_cast positive
  rw [div_lt_iff₀ denRat, leadingExponent]
  split
  · -- A whole part: it has as many digits as places.
    have below := (Nat.div_lt_iff_lt_mul positiveDen).1 (lt_pow_length_toDigits (num / den))
    rw [sub_add_cancel, zpow_natCast]
    exact_mod_cast below
  · next less =>
      have whole : 0 < den / num := Nat.div_pos (by omega) positive
      have places : 0 < (Nat.toDigits 10 (den / num)).length := Nat.length_toDigits_pos
      have reciprocal := (Nat.le_div_iff_mul_le positive).1 (pow_length_toDigits_le whole)
      generalize (Nat.toDigits 10 (den / num)).length = length at *
      obtain ⟨tail, rfl⟩ : ∃ tail, length = tail + 1 := ⟨length - 1, by omega⟩
      simp only [Nat.add_sub_cancel] at reciprocal ⊢
      have power : (0 : ℚ) < 10 ^ tail := by positivity
      have product : (10 : ℚ) ^ tail * num ≤ den := by exact_mod_cast reciprocal
      have shift : (10 : ℚ) ^ (-(tail : Int)) * den = den / 10 ^ tail := by
        rw [zpow_neg, zpow_natCast, div_eq_inv_mul]
      split
      · -- One digit less: the fraction is that power of ten.
        rw [show 1 - ((tail + 1 : Nat) : Int) + 1 = -(tail : Int) + 1 by push_cast; ring,
          zpow_add_one₀ (by norm_num), mul_right_comm, shift, div_mul_eq_mul_div, lt_div_iff₀ power]
        linarith
      · next above =>
          have strict : (num : ℚ) * 10 ^ tail < den := by exact_mod_cast Nat.lt_of_not_le above
          rw [show -((tail + 1 : Nat) : Int) + 1 = -(tail : Int) by push_cast; ring, shift,
            lt_div_iff₀ power]
          exact strict

/-! ### The digits that are found -/

/-- A point that is picked on a grid at most sixteen places below the first digit has at most
seventeen digits. -/
theorem Catchment.count_le {c : Catchment} {count extra : Nat} (positive : 0 < c.value)
    (positiveDen : 0 < c.den) (few : extra ≤ 16)
    (picked : c.pick? (leadingExponent c.value c.den - extra) = some count) : count ≤ 10 ^ 17 := by
  have below := lt_leadingExponent positive positiveDen
  have beside := (pick?_eq_some picked).2
  generalize leadingExponent c.value c.den = top at *
  have up := scaleUp_pos (show 0 < 10 by decide) (top - extra)
  have down := scaleDown_pos (show 0 < 10 by decide) (top - extra)
  have denRat : (0 : ℚ) < c.den := by exact_mod_cast positiveDen
  have downRat : (0 : ℚ) < scaleDown 10 (top - extra) := by exact_mod_cast down
  have power : (10 : ℚ) ^ (top + 1) ≤
      10 ^ 17 * (scaleUp 10 (top - extra) / scaleDown 10 (top - extra)) := by
    have scale := scale_eq 10 (top - extra)
    rw [Nat.cast_ofNat] at scale
    rw [scale, ← zpow_natCast, ← zpow_add₀ (by norm_num)]
    exact zpow_le_zpow_right₀ (by norm_num) (by omega)
  have quotient : c.value * scaleDown 10 (top - extra) / (c.den * scaleUp 10 (top - extra)) <
      10 ^ 17 := by
    have less := lt_of_lt_of_le below power
    rw [← mul_div_assoc, div_lt_div_iff₀ denRat downRat] at less
    rw [Nat.div_lt_iff_lt_mul (Nat.mul_pos positiveDen up), Nat.mul_comm c.den, ← Nat.mul_assoc]
    exact_mod_cast less
  omega

/-- What is found for a float other than zero: nothing, or a count on a grid that has at most
seventeen digits, is not zero and does not lie above the reals that round to the float. -/
theorem shortest_cases {x : Binary64} (notZero : x.isZero = false) :
    x.shortest = ⟨['0'], 0⟩ ∨ ∃ (count : Nat) (grid : Int),
      0 < count ∧ count ≤ 10 ^ 17 ∧ (count : ℚ) * 10 ^ grid ≤ x.upperEnd ∧
        x.shortest = ⟨(dropZeros (Nat.toDigits 10 count).reverse).reverse,
          grid + ((Nat.toDigits 10 count).length : Int) - 1⟩ := by
  have positiveDen := x.den_catchment_pos
  have positive : 0 < x.catchment.value := by
    have significand : 0 < x.significand := by
      simpa [isZero, Nat.pos_iff_ne_zero] using notZero
    exact Nat.mul_pos (Nat.mul_pos (by decide) significand) (scaleUp_pos Nat.two_pos _)
  rw [shortest]
  cases found : (List.range 17).findSome? fun (extra : Nat) =>
    (x.catchment.pick? (leadingExponent x.catchment.value x.catchment.den - extra)).map
      fun count => (count, leadingExponent x.catchment.value x.catchment.den - (extra : Int)) with
  | none => exact .inl rfl
  | some pair =>
      obtain ⟨extra, isExtra, picked⟩ := List.exists_of_findSome?_eq_some found
      obtain ⟨count, isCount, rfl⟩ := Option.map_eq_some_iff.1 picked
      have few : extra ≤ 16 := by
        have less := List.mem_range.1 isExtra
        omega
      have holds := (Catchment.pick?_eq_some isCount).1
      obtain ⟨below, above⟩ := Catchment.le_of_holds positiveDen holds
      rw [high_catchment] at below
      exact .inr ⟨count, _, above (low_catchment_pos notZero),
        Catchment.count_le positive positiveDen few isCount, below, rfl⟩

end Parley.Binary64
