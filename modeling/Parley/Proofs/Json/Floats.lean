/-
Module: Parley.Proofs.Json.Floats
Layer: Proofs
Purpose: Every float that was printed is read back as a float, not always the same one: reading
  rounds more than once.  The decimal is written in one of three layouts, each of which is a number
  whose digits fit and whose scaling succeeds; only the greatest float comes so near to the end of
  the range that it is looked at on its own.
Main exports: Json.Literal.ofDecimal, Json.Literal.magnitudeChars_ofDecimal,
  Json.Literal.plain_ofDecimal, Json.reads_floatChars
-/
import Mathlib.Data.List.DropRight
import Mathlib.Data.List.TakeWhile
import Parley.Proofs.Json.Literals
import Parley.Proofs.Json.Reading
import Parley.Proofs.Json.Scaled
import Parley.Proofs.Number.Shortest

namespace Parley.Json

/-! ### Numbers that have a value -/

theorem appendDigits_left_le (start : Nat) (digits : List Nat) :
    (appendDigits start digits).2.length ≤ digits.length := by
  induction digits generalizing start with
  | nil => exact Nat.le_refl _
  | cons digit digits ih =>
      rw [appendDigits]
      split
      · exact Nat.le_succ_of_le (ih _)
      · exact Nat.le_refl _

namespace Literal

variable {l : Literal}

/-- The digits that were not read are among those before the point. -/
theorem places_le (l : Literal) : l.significand.2 ≤ l.whole.length := by
  have left := appendDigits_left_le 0 l.whole
  cases isFraction : l.fraction with
  | none =>
      simp only [significand, isFraction]
      omega
  | some digits =>
      have unread := appendDigits_left_le (appendDigits 0 l.whole).1 digits
      simp only [significand, isFraction]
      omega

/-- A number without exponent has a value if there are not hundreds of digits before its point. -/
theorem value?_of_fraction {digits : List Nat} (hasFraction : l.fraction = some digits)
    (noExponent : l.exponent = none) (short : l.whole.length ≤ 288) :
    ∃ x, l.value? = some (.float x) := by
  have places := l.places_le
  obtain ⟨x, scaled⟩ := scaled?_isSome l.significand_le (show l.significand.2 ≤ 288 by omega)
  refine ⟨signed l.negative x, ?_⟩
  simp [value?, isInteger, hasFraction, noExponent, scaled]

/-- So has a number that its exponent makes smaller. -/
theorem value?_of_down {digits : List Nat} (down : l.exponent = some (true, digits))
    (short : l.whole.length ≤ 288) : ∃ x, l.value? = some (.float x) := by
  have places := l.places_le
  cases read : exponentValue? digits with
  | none => exact ⟨.zero l.negative, by simp [value?, isInteger, down, read]⟩
  | some shift =>
      obtain ⟨x, scaled⟩ :=
        scaled?_isSome l.significand_le (show l.significand.2 - shift ≤ 288 by omega)
      exact ⟨signed l.negative x, by simp [value?, isInteger, down, read, scaled]⟩

/-- And a number that its exponent makes larger, if its significand can be scaled. -/
theorem value?_of_up {digits : List Nat} {x : Binary64} (up : l.exponent = some (false, digits))
    (fits : numeralFrom 0 digits ≤ greatestExponent)
    (scaled : scaled? l.significand.1 (l.significand.2 + numeralFrom 0 digits) = some x) :
    l.value? = some (.float (signed l.negative x)) := by
  simp [value?, isInteger, up, exponentValue?_eq fits, scaled]

end Literal

/-! ### The digits of a decimal -/

theorem dropZeros_cons (c : Char) (digits : List Char) :
    Binary64.dropZeros (c :: digits) =
      if c = '0' then Binary64.dropZeros digits else c :: digits := by
  split
  · next isZero =>
      subst isZero
      rfl
  · next notZero =>
      rw [Binary64.dropZeros]
      intro _ same
      exact notZero (List.cons.inj same).1

theorem digitChar_eq_zero_iff : ∀ digit : Fin 10, Nat.digitChar digit = '0' ↔ digit = 0 := by
  decide

theorem dropZeros_map {digits : List Nat} (all : ∀ digit ∈ digits, digit < 10) :
    Binary64.dropZeros (digits.map Nat.digitChar) =
      (digits.dropWhile fun digit => digit = 0).map Nat.digitChar := by
  induction digits with
  | nil => rfl
  | cons digit digits ih =>
      obtain ⟨small, others⟩ := List.forall_mem_cons.1 all
      have isZero := digitChar_eq_zero_iff ⟨digit, small⟩
      simp only [Fin.ext_iff, Fin.val_zero] at isZero
      rw [List.map_cons, dropZeros_cons, List.dropWhile_cons]
      by_cases zero : digit = 0
      · simp [zero, ih others]
      · simp [zero, isZero]

theorem numeralFrom_zeros (start zeros : Nat) :
    numeralFrom start (List.replicate zeros 0) = start * 10 ^ zeros := by
  induction zeros generalizing start with
  | zero => simp [numeralFrom]
  | succ zeros ih =>
      have later := ih (start * 10)
      rw [numeralFrom] at later ⊢
      rw [List.replicate_succ, List.foldl_cons, Nat.add_zero, later, Nat.pow_succ]
      ring

/-- Digits are what is left of them without the zeros at their end, and these zeros. -/
theorem exists_zeros_after (digits : List Nat) :
    ∃ zeros, digits =
      (digits.reverse.dropWhile fun digit => digit = 0).reverse ++ List.replicate zeros 0 := by
  have split := List.rdropWhile_append_rtakeWhile (p := fun digit => decide (digit = 0))
    (l := digits)
  have zeros : digits.rtakeWhile (fun digit => decide (digit = 0)) =
      List.replicate (digits.rtakeWhile fun digit => decide (digit = 0)).length 0 :=
    List.eq_replicate_iff.2 ⟨rfl, fun digit member => by simpa using List.mem_rtakeWhile_imp member⟩
  rw [zeros] at split
  exact ⟨_, split.symm⟩

/-- The digits of a count without the zeros at their end. -/
theorem shortestDigits {count : Nat} (positive : 0 < count) :
    ∃ first others zeros,
      (Binary64.dropZeros (Nat.toDigits 10 count).reverse).reverse =
        ((first + 1) :: others).map Nat.digitChar ∧
      (∀ digit ∈ (first + 1) :: others, digit < 10) ∧
      numeralFrom 0 ((first + 1) :: others) * 10 ^ zeros = count ∧
      (Nat.toDigits 10 count).length = others.length + 1 + zeros := by
  obtain ⟨first, rest, starts⟩ : ∃ first rest, decimals count = (first + 1) :: rest := by
    rcases decimals_cases count with one | ⟨first, second, others, several⟩
    · exact ⟨count - 1, [], by rw [one, Nat.sub_add_cancel positive]⟩
    · exact ⟨first, _, several⟩
  have written : Nat.toDigits 10 count = (decimals count).map Nat.digitChar := natChars_eq count
  have small : ∀ digit ∈ (decimals count).reverse, digit < 10 :=
    fun digit member => decimals_lt (List.mem_reverse.1 member)
  rw [written, ← List.map_reverse, dropZeros_map small, ← List.map_reverse, List.length_map]
  obtain ⟨zeros, whole⟩ := exists_zeros_after (decimals count)
  generalize ((decimals count).reverse.dropWhile fun digit => digit = 0).reverse = kept at whole
  cases kept with
  | nil =>
      -- A number does not consist of zeros.
      have isZero : first + 1 ∈ List.replicate zeros 0 := by
        rw [List.nil_append, starts] at whole
        exact whole ▸ List.mem_cons_self
      exact absurd (List.eq_of_mem_replicate isZero) (by omega)
  | cons digit others =>
      have sameFirst : first + 1 = digit := by
        rw [starts, List.cons_append] at whole
        exact (List.cons.inj whole).1
      subst sameFirst
      refine ⟨first, others, zeros, rfl, ?_, ?_, ?_⟩
      · intro digit member
        exact decimals_lt (by rw [whole]; exact List.mem_append_left _ member)
      · rw [← numeralFrom_zeros, ← numeralFrom_append, ← whole, numeralFrom_decimals]
      · rw [whole, List.length_append, List.length_cons, List.length_replicate]

/-! ### Layouts -/

namespace Literal

/-- A decimal with at least one digit before the point and one after it. -/
def withPoint (negative : Bool) (digits : List Nat) (whole : Nat) : Literal :=
  let padded := digits ++ List.replicate (whole - digits.length) 0
  { negative := negative
    whole := padded.take whole
    fraction := some (if (padded.drop whole).isEmpty then [0] else padded.drop whole)
    exponent := none }

/-- A decimal below one. -/
def belowOne (negative : Bool) (digits : List Nat) (zeros : Nat) : Literal :=
  { negative := negative, whole := [0], fraction := some (List.replicate zeros 0 ++ digits)
    exponent := none }

/-- A decimal with an exponent. -/
def withExponent (negative : Bool) (first : Nat) (others : List Nat) (exponent : Int) : Literal :=
  { negative := negative
    whole := [first]
    fraction := if others.isEmpty then none else some others
    exponent := some (decide (exponent < 0), decimals exponent.natAbs) }

theorem magnitudeChars_withPoint (negative : Bool) (digits : List Nat) (whole : Nat) :
    (withPoint negative digits whole).magnitudeChars =
      Scientific.withPoint (digits.map Nat.digitChar) whole := by
  have padded : (digits.map Nat.digitChar) ++
        List.replicate (whole - (digits.map Nat.digitChar).length) '0' =
      (digits ++ List.replicate (whole - digits.length) 0).map Nat.digitChar := by
    rw [List.map_append, List.map_replicate, List.length_map]
    rfl
  rw [Scientific.withPoint, padded, ← List.map_take, ← List.map_drop, withPoint]
  generalize digits ++ List.replicate (whole - digits.length) 0 = all
  cases all.drop whole with
  | nil => rfl
  | cons digit after => simp [magnitudeChars, fractionChars, exponentChars]

theorem magnitudeChars_belowOne (negative : Bool) (digits : List Nat) (zeros : Nat) :
    (belowOne negative digits zeros).magnitudeChars =
      '0' :: '.' :: (List.replicate zeros '0' ++ digits.map Nat.digitChar) := by
  simp [belowOne, magnitudeChars, fractionChars, exponentChars]

theorem magnitudeChars_withExponent (negative : Bool) (first : Nat) (others : List Nat)
    {exponent : Int} (far : ¬(-5 ≤ exponent ∧ exponent ≤ 15)) :
    (withExponent negative first others exponent).magnitudeChars =
      Scientific.chars floatStyle ⟨(first :: others).map Nat.digitChar, exponent⟩ := by
  have written : Nat.toDigits 10 exponent.natAbs = (decimals exponent.natAbs).map Nat.digitChar :=
    natChars_eq _
  have sign : (if 0 ≤ exponent then floatStyle.plus else ['-']) =
      [if decide (exponent < 0) then '-' else '+'] := by
    by_cases below : exponent < 0
    · simp [below]
    · simp [below, floatStyle, Int.not_lt.1 below]
  have notPlain : ¬(floatStyle.leastPlain ≤ exponent ∧ exponent ≤ floatStyle.greatestPlain) := far
  rw [Scientific.chars, if_neg notPlain]
  simp only [sign, written]
  cases others with
  | nil => rfl
  | cons second others => simp [withExponent, magnitudeChars, fractionChars, exponentChars]

/-- The number that a decimal is written as. -/
def ofDecimal (negative : Bool) (first : Nat) (others : List Nat) (exponent : Int) : Literal :=
  if -5 ≤ exponent ∧ exponent ≤ 15 then
    if 0 ≤ exponent then withPoint negative (first :: others) (exponent.toNat + 1)
    else belowOne negative (first :: others) (-exponent - 1).toNat
  else withExponent negative first others exponent

theorem magnitudeChars_ofDecimal (negative : Bool) (first : Nat) (others : List Nat)
    (exponent : Int) :
    (ofDecimal negative first others exponent).magnitudeChars =
      Scientific.chars floatStyle ⟨(first :: others).map Nat.digitChar, exponent⟩ := by
  rw [ofDecimal]
  split
  · next near =>
      have isPlain : floatStyle.leastPlain ≤ exponent ∧ exponent ≤ floatStyle.greatestPlain := near
      rw [Scientific.chars, if_pos isPlain]
      split
      · exact magnitudeChars_withPoint ..
      · exact magnitudeChars_belowOne ..
  · next far => exact magnitudeChars_withExponent negative first others far

theorem negative_ofDecimal (negative : Bool) (first : Nat) (others : List Nat) (exponent : Int) :
    (ofDecimal negative first others exponent).negative = negative := by
  rw [ofDecimal]
  split
  · split
    · rfl
    · rfl
  · rfl

variable {negative : Bool} {first : Nat} {others : List Nat} {exponent : Int}

theorem plain_withPoint (small : ∀ digit ∈ (first + 1) :: others, digit < 10) (whole : Nat) :
    (withPoint negative ((first + 1) :: others) (whole + 1)).Plain := by
  have all : ∀ digit ∈ (first + 1) :: others ++
      List.replicate (whole + 1 - ((first + 1) :: others).length) 0, digit < 10 := by
    refine List.forall_mem_append.2 ⟨small, fun digit member => ?_⟩
    rw [List.eq_of_mem_replicate member]
    decide
  refine ⟨.inr ⟨first, _, rfl⟩, fun digit member => all digit (List.mem_of_mem_take member), ?_,
    by simp [withPoint]⟩
  intro digits isFraction
  simp only [withPoint, Option.some.injEq] at isFraction
  generalize (first + 1) :: others ++
    List.replicate (whole + 1 - ((first + 1) :: others).length) 0 = padded at all isFraction
  split at isFraction
  · subst isFraction
    exact ⟨by simp, by simp⟩
  · next several =>
      subst isFraction
      refine ⟨fun empty => several (by simp [empty]), fun digit member => ?_⟩
      exact all digit (List.mem_of_mem_drop member)

theorem plain_belowOne (small : ∀ digit ∈ first :: others, digit < 10) (zeros : Nat) :
    (belowOne negative (first :: others) zeros).Plain := by
  refine ⟨.inl ⟨0, rfl⟩, by simp [belowOne], ?_, by simp [belowOne]⟩
  intro digits isFraction
  simp only [belowOne, Option.some.injEq] at isFraction
  subst isFraction
  refine ⟨by simp, List.forall_mem_append.2 ⟨fun digit member => ?_, small⟩⟩
  rw [List.eq_of_mem_replicate member]
  decide

theorem plain_withExponent (small : ∀ digit ∈ first :: others, digit < 10) :
    (withExponent negative first others exponent).Plain := by
  obtain ⟨smallFirst, smallOthers⟩ := List.forall_mem_cons.1 small
  refine ⟨.inl ⟨first, rfl⟩, by simpa [withExponent] using smallFirst, ?_, ?_⟩
  · intro digits isFraction
    simp only [withExponent] at isFraction
    split at isFraction
    · cases isFraction
    · next several =>
        cases isFraction
        exact ⟨fun empty => several (by simp [empty]), smallOthers⟩
  · intro down digits isExponent
    simp only [withExponent, Option.some.injEq, Prod.mk.injEq] at isExponent
    obtain ⟨-, rfl⟩ := isExponent
    refine ⟨?_, fun _ => decimals_lt⟩
    rcases decimals_cases exponent.natAbs with one | ⟨_, _, _, several⟩
    · simp [one]
    · simp [several]

theorem plain_ofDecimal (small : ∀ digit ∈ (first + 1) :: others, digit < 10) :
    (ofDecimal negative (first + 1) others exponent).Plain := by
  rw [ofDecimal]
  split
  · split
    · exact plain_withPoint small _
    · exact plain_belowOne small _
  · exact plain_withExponent small

/-- The significand of a number with an exponent is made of all its digits. -/
theorem significand_withExponent (fits : numeralFrom 0 (first :: others) ≤ greatestSignificand) :
    (withExponent negative first others exponent).significand =
      (numeralFrom 0 (first :: others), -(others.length : Int)) := by
  have split : numeralFrom 0 (first :: others) = numeralFrom (numeralFrom 0 [first]) others :=
    numeralFrom_append 0 [first] others
  have later := le_numeralFrom (numeralFrom 0 [first]) others
  rw [split] at fits ⊢
  have start := appendDigits_eq (Nat.le_trans later fits)
  have all := appendDigits_eq fits
  cases others with
  | nil =>
      simp [withExponent, significand, start]
      rfl
  | cons second others => simp [withExponent, significand, start, all]

end Literal

/-! ### Floats -/

/-- A decimal of at most seventeen digits that is not above the reals that round to the float before
the greatest has a value as it is written. -/
theorem value?_ofDecimal (negative : Bool) {first : Nat} {others : List Nat} {exponent : Int}
    (short : others.length ≤ 17) (digits : numeralFrom 0 ((first + 1) :: others) ≤ 10 ^ 17)
    (le : (numeralFrom 0 ((first + 1) :: others) : ℚ) * 10 ^ (exponent - others.length) ≤
      greatestScaled) :
    ∃ x, (Literal.ofDecimal negative (first + 1) others exponent).value? = some (.float x) := by
  rw [Literal.ofDecimal]
  split
  · split
    · refine Literal.value?_of_fraction rfl rfl ?_
      have taken := List.length_take_le (exponent.toNat + 1) ((first + 1) :: others ++
        List.replicate (exponent.toNat + 1 - ((first + 1) :: others).length) 0)
      exact Nat.le_trans taken (by omega)
    · exact Literal.value?_of_fraction rfl rfl (by simp [Literal.belowOne])
  · by_cases below : exponent < 0
    · have down : (Literal.withExponent negative (first + 1) others exponent).exponent =
          some (true, decimals exponent.natAbs) := by
        simp [Literal.withExponent, below]
      exact Literal.value?_of_down down (by simp [Literal.withExponent])
    · -- The value is `significand · 10 ^ places`, and the bound keeps the places small.
      obtain ⟨places, isPlaces⟩ : ∃ places : Int, places = exponent - others.length := ⟨_, rfl⟩
      rw [← isPlaces] at le
      have fits : numeralFrom 0 ((first + 1) :: others) ≤ greatestSignificand :=
        Nat.le_trans digits (by decide)
      have positive : 0 < numeralFrom 0 ((first + 1) :: others) :=
        Nat.lt_of_lt_of_le (Nat.succ_pos _) (le_numeralFrom (0 * 10 + (first + 1)) others)
      have scales : places ≤ 308 ∧
          ∃ x, scaled? (numeralFrom 0 ((first + 1) :: others)) places = some x := by
        by_cases few : places ≤ 288
        · exact ⟨by omega, scaled?_isSome fits few⟩
        · obtain ⟨natural, rfl⟩ := Int.eq_ofNat_of_zero_le (show 0 ≤ places by omega)
          rw [zpow_natCast] at le
          have product : numeralFrom 0 ((first + 1) :: others) * 10 ^ natural ≤ greatestScaled := by
            exact_mod_cast le
          have most := places_of_pow_le (Nat.le_trans (Nat.le_mul_of_pos_left _ positive) product)
          exact ⟨by omega, scaled?_isSome_of_le positive digits product⟩
      obtain ⟨most, x, scaled⟩ := scales
      have up : (Literal.withExponent negative (first + 1) others exponent).exponent =
          some (false, decimals exponent.natAbs) := by
        simp [Literal.withExponent, below]
      refine ⟨_, Literal.value?_of_up (x := x) up ?_ ?_⟩
      · rw [numeralFrom_decimals]
        have bound : greatestExponent = 2 ^ 31 - 1 := rfl
        omega
      · rw [Literal.significand_withExponent fits, numeralFrom_decimals]
        have sum : -(others.length : Int) + exponent.natAbs = places := by omega
        simp only [sum, scaled]

/-- The greatest float, of either sign, is read back as it is written. -/
theorem reads_greatest : ∀ negative : Bool,
    let x : Binary64 := ⟨negative, 2 ^ 53 - 1, 971, by decide⟩
    let l : Literal := ⟨negative, [1], some [7, 9, 7, 6, 9, 3, 1, 3, 4, 8, 6, 2, 3, 1, 5, 7],
      some (false, [3, 0, 8])⟩
    floatChars x = l.chars ∧ (l.value?.any fun
      | .float _ => true
      | .int _ => false) = true := by
  decide +kernel

/-- Zero with a point, as it is written. -/
theorem reads_zero (negative : Bool) :
    ∃ (l : Literal) (y : Binary64), l.negative = negative ∧ l.magnitudeChars = ['0', '.', '0'] ∧
      l.Plain ∧ l.value? = some (.float y) := by
  obtain ⟨y, value⟩ := Literal.value?_of_fraction (l := ⟨negative, [0], some [0], none⟩) rfl rfl
    (by simp)
  exact ⟨_, y, rfl, rfl, ⟨.inl ⟨0, rfl⟩, by simp, by simp, by simp⟩, value⟩

/-- Each float but the greatest, without its sign, is a number that is read back as a float. -/
theorem reads_shortest {x : Binary64} (notZero : x.isZero = false)
    (notGreatest : ¬(x.significand = 2 ^ 53 - 1 ∧ x.exponent = 971)) :
    ∃ (l : Literal) (y : Binary64), l.negative = x.negative ∧
      l.magnitudeChars = x.shortest.chars floatStyle ∧ l.Plain ∧ l.value? = some (.float y) := by
  rcases Binary64.shortest_cases notZero with
    nothing | ⟨count, grid, positive, few, below, found⟩
  · rw [nothing]
    exact reads_zero x.negative
  · obtain ⟨first, others, zeros, kept, small, isCount, length⟩ := shortestDigits positive
    have digits : numeralFrom 0 ((first + 1) :: others) ≤ 10 ^ 17 :=
      Nat.le_trans (Nat.le_mul_of_pos_right _ (Nat.pow_pos (by decide))) (isCount ▸ few)
    have short : (Nat.toDigits 10 count).length ≤ 18 :=
      (Nat.length_toDigits_le_iff (by decide) (by decide)).2 (Nat.lt_of_le_of_lt few (by decide))
    have le : (numeralFrom 0 ((first + 1) :: others) : ℚ) *
        10 ^ (grid + ((Nat.toDigits 10 count).length : Int) - 1 - others.length) ≤
          greatestScaled := by
      have places : grid + ((Nat.toDigits 10 count).length : Int) - 1 - others.length =
          (zeros : Int) + grid := by
        rw [length]
        push_cast
        ring
      have isCountRat : (numeralFrom 0 ((first + 1) :: others) : ℚ) * 10 ^ zeros = count := by
        exact_mod_cast isCount
      rw [places, zpow_add₀ (by norm_num), zpow_natCast, ← mul_assoc, isCountRat, greatestScaled_eq]
      exact le_trans below (Binary64.upperEnd_le notGreatest)
    obtain ⟨y, value⟩ := value?_ofDecimal x.negative (by omega) digits le
    refine ⟨_, y, Literal.negative_ofDecimal .., ?_, Literal.plain_ofDecimal small, value⟩
    rw [found, kept]
    exact Literal.magnitudeChars_ofDecimal ..

/-- Every float that is printed is a number that is read back as a float. -/
theorem reads_floatChars (x : Binary64) :
    ∃ (l : Literal) (y : Binary64), floatChars x = l.chars ∧ l.Plain ∧
      l.value? = some (.float y) := by
  by_cases greatest : x.significand = 2 ^ 53 - 1 ∧ x.exponent = 971
  · obtain ⟨negative, significand, exponent, canonical⟩ := x
    obtain ⟨rfl, rfl⟩ := greatest
    obtain ⟨written, hasValue⟩ := reads_greatest negative
    rw [Option.any_eq_true] at hasValue
    obtain ⟨numeral, value, isFloat⟩ := hasValue
    cases numeral with
    | int n => cases isFloat
    | float y =>
        exact ⟨_, y, written, ⟨.inr ⟨0, [], rfl⟩, by simp, by simp, by simp⟩, value⟩
  · obtain ⟨l, y, sign, written, plain, value⟩ : ∃ (l : Literal) (y : Binary64),
        l.negative = x.negative ∧ l.magnitudeChars =
          (if x.isZero then ['0', '.', '0'] else x.shortest.chars floatStyle) ∧ l.Plain ∧
        l.value? = some (.float y) := by
      cases isZero : x.isZero with
      | true => exact reads_zero x.negative
      | false => exact reads_shortest isZero greatest
    refine ⟨l, y, ?_, plain, value⟩
    rw [Literal.chars, sign, written]
    rfl

end Parley.Json
