/-
Module: Parley.Proofs.Text.Search
Layer: Proofs
Purpose: Looking for things in a text.  A table of ranges is searched by halving, and the search
  finds a character exactly if one of the ranges holds it.  What a scanner skips, what it reads up to
  the next stop and where a line starts are related to splits of the text.
Main exports: Ranges.Increasing, Ranges.holds_iff, Text.dropWhile_eq_iff, Text.takeWhile_append_eq,
  Text.atSomeLine_iff, Text.isDecimalDigit_eq_false_of_isSpace
-/
import Mathlib.Data.List.Chain
import Parley.Text.Blank
import Parley.Text.Search
import Parley.Text.WordClass

namespace Parley

/-! ### Tables of ranges -/

namespace Ranges

variable {table : Ranges} {code : Nat}

/-- A range that ends before another one starts. -/
def Before (one two : Nat × Nat) : Prop :=
  one.1 ≤ one.2 ∧ one.2 < two.1 ∧ two.1 ≤ two.2

instance (one two : Nat × Nat) : Decidable (Before one two) :=
  inferInstanceAs (Decidable (_ ∧ _ ∧ _))

instance : Trans Before Before Before where
  trans one two := ⟨one.1, one.2.1.trans_le (one.2.2.trans two.2.1.le), two.2.2⟩

/-- Each range of a table ends before the next one starts. -/
def Increasing (table : Ranges) : Prop :=
  table.toList.IsChain Before

instance : Decidable (Increasing table) :=
  inferInstanceAs (Decidable (table.toList.IsChain Before))

/-- Then it ends before all the ranges after it. -/
theorem Increasing.before (increasing : Increasing table) {i j : Nat} {one two : Nat × Nat}
    (first : table[i]? = some one) (second : table[j]? = some two) (earlier : i < j) :
    Before one two := by
  rw [← Array.getElem?_toList, List.getElem?_eq_some_iff] at first second
  obtain ⟨inside, rfl⟩ := first
  obtain ⟨insideToo, rfl⟩ := second
  exact List.pairwise_iff_getElem.1 (List.isChain_iff_pairwise.1 increasing) i j inside insideToo
    earlier

/-- A range that starts or ends before another one stands before it. -/
theorem Increasing.index_lt (increasing : Increasing table) {i j : Nat} {one two : Nat × Nat}
    (first : table[i]? = some one) (second : table[j]? = some two)
    (less : one.1 < two.1 ∨ one.2 < two.2) : i < j := by
  rcases Nat.lt_trichotomy i j with earlier | rfl | later
  · exact earlier
  · cases first.symm.trans second
    omega
  · obtain ⟨whole, apart, wholeToo⟩ := increasing.before second first later
    omega

/-- The search between two positions finds a code point exactly if a range between them holds it. -/
theorem search_iff (increasing : Increasing table) {fuel lower upper : Nat}
    (inside : upper ≤ table.size) (enough : upper - lower < fuel) :
    search table code fuel lower upper = true ↔
      ∃ i range, lower ≤ i ∧ i < upper ∧ table[i]? = some range ∧
        range.1 ≤ code ∧ code ≤ range.2 := by
  induction fuel generalizing lower upper with
  | zero => omega
  | succ fuel ih =>
      rw [search]
      split
      case isFalse empty =>
        simp only [Bool.false_eq_true, false_iff]
        rintro ⟨i, _, low, high, -⟩
        omega
      case isTrue nonempty =>
        have within : (lower + upper) / 2 < table.size := by omega
        obtain ⟨⟨first, last⟩, here⟩ : ∃ range, table[(lower + upper) / 2]? = some range :=
          ⟨_, Array.getElem?_eq_getElem within⟩
        simp only [here]
        -- A range on the wrong side of the middle cannot hold the code point.
        split
        case isTrue below =>
          rw [ih (by omega) (by omega)]
          constructor
          · rintro ⟨i, range, low, high, holds⟩
            exact ⟨i, range, low, by omega, holds⟩
          · rintro ⟨i, range, low, high, found, start, stop⟩
            have left := increasing.index_lt found here (.inl (Nat.lt_of_le_of_lt start below))
            exact ⟨i, range, low, left, found, start, stop⟩
        case isFalse notBelow =>
          split
          case isTrue above =>
            rw [ih (by omega) (by omega)]
            constructor
            · rintro ⟨i, range, low, high, holds⟩
              exact ⟨i, range, by omega, high, holds⟩
            · rintro ⟨i, range, low, high, found, start, stop⟩
              have right := increasing.index_lt here found (.inr (Nat.lt_of_lt_of_le above stop))
              exact ⟨i, range, right, high, found, start, stop⟩
          case isFalse notAbove =>
            simp only [true_iff]
            exact ⟨_, _, by omega, by omega, here, by omega, by omega⟩

/-- A character is in a table exactly if one of the ranges holds its code point. -/
theorem holds_iff (increasing : Increasing table) {c : Char} :
    table.holds c = true ↔ ∃ range ∈ table.toList, range.1 ≤ c.toNat ∧ c.toNat ≤ range.2 := by
  rw [holds, search_iff increasing (Nat.le_refl _) (by omega)]
  constructor
  · rintro ⟨i, range, -, -, found, holds⟩
    rw [← Array.getElem?_toList] at found
    exact ⟨range, List.mem_of_getElem? found, holds⟩
  · rintro ⟨range, member, holds⟩
    obtain ⟨i, found⟩ := List.mem_iff_getElem?.1 member
    rw [Array.getElem?_toList] at found
    obtain ⟨inside, -⟩ := Array.getElem?_eq_some_iff.1 found
    exact ⟨i, range, Nat.zero_le _, inside, found, holds⟩

end Ranges

namespace Text

/-! ### Classes of characters -/

theorem decimalDigits_increasing : Ranges.Increasing decimalDigits := by decide +kernel

theorem wordChars_increasing : Ranges.Increasing wordChars := by decide +kernel

/-- No white space is a digit. -/
theorem isDecimalDigit_eq_false_of_isSpace {c : Char} (space : isSpace c = true) :
    isDecimalDigit c = false := by
  have apart : ∀ range ∈ decimalDigits.toList,
      0x21 ≤ range.1 ∧ (range.2 < 0x85 ∨ 0x85 < range.1) ∧ (range.2 < 0xA0 ∨ 0xA0 < range.1) ∧
        (range.2 < 0x1680 ∨ 0x1680 < range.1) ∧ (range.2 < 0x2000 ∨ 0x3000 < range.1) := by
    decide +kernel
  rw [← Bool.not_eq_true, isDecimalDigit, Ranges.holds_iff decimalDigits_increasing]
  rintro ⟨range, member, start, stop⟩
  have := apart range member
  simp only [isSpace, Bool.or_eq_true, Bool.and_eq_true, decide_eq_true_eq, beq_iff_eq] at space
  omega

/-! ### Stretches of a text -/

section Stretch

variable {α : Type} {allowed : α → Bool} {text part rest : List α}

/-- What is left when characters of a class are skipped: the text is a stretch of the class and this
rest, which does not start with a character of the class. -/
theorem dropWhile_eq_iff :
    text.dropWhile allowed = rest ↔
      ∃ part, text = part ++ rest ∧ (∀ c ∈ part, allowed c = true) ∧
        rest.head?.any allowed = false := by
  constructor
  · rintro rfl
    refine ⟨text.takeWhile allowed, List.takeWhile_append_dropWhile.symm,
      List.all_eq_true.1 List.all_takeWhile, ?_⟩
    cases left : text.dropWhile allowed with
    | nil => rfl
    | cons c rest =>
        have stops := List.head?_dropWhile_not allowed text
        rw [left] at stops
        simpa using stops
  · rintro ⟨part, rfl, all, stops⟩
    rw [List.dropWhile_append_of_pos all]
    cases rest with
    | nil => rfl
    | cons c rest => exact List.dropWhile_cons_of_neg (by simpa using stops)

/-- A stretch of a class is skipped as a whole if what follows is not of the class. -/
theorem takeWhile_append_eq (all : ∀ c ∈ part, allowed c = true)
    (stops : rest.head?.any allowed = false) : (part ++ rest).takeWhile allowed = part := by
  rw [List.takeWhile_append_of_pos all]
  cases rest with
  | nil => simp
  | cons c rest => rw [List.takeWhile_cons_of_neg (by simpa using stops), List.append_nil]

theorem drop_length_takeWhile (allowed : α → Bool) (text : List α) :
    text.drop (text.takeWhile allowed).length = text.dropWhile allowed := by
  calc text.drop (text.takeWhile allowed).length
      = (text.takeWhile allowed ++ text.dropWhile allowed).drop
          (text.takeWhile allowed).length := by rw [List.takeWhile_append_dropWhile]
    _ = text.dropWhile allowed := List.drop_left

end Stretch

/-- A stretch in which no character is `stop`. -/
theorem forall_bne_iff {stop : Char} {part : List Char} :
    (∀ c ∈ part, (c != stop) = true) ↔ stop ∉ part := by
  constructor
  · intro all member
    exact bne_iff_ne.1 (all stop member) rfl
  · intro free c member
    exact bne_iff_ne.2 fun same => free (same ▸ member)

/-- The text after the first `stop` goes on from the place where there has been none before. -/
theorem dropWhile_ne_eq_cons_iff {stop c : Char} {text rest : List Char} :
    (text.dropWhile fun c => c != stop) = c :: rest ↔
      c = stop ∧ ∃ part, text = part ++ stop :: rest ∧ stop ∉ part := by
  rw [dropWhile_eq_iff]
  constructor
  · rintro ⟨part, rfl, all, stops⟩
    have same : c = stop := by simpa using stops
    subst same
    exact ⟨rfl, part, rfl, forall_bne_iff.1 all⟩
  · rintro ⟨rfl, part, rfl, free⟩
    exact ⟨part, rfl, forall_bne_iff.2 free, by simp⟩

/-! ### Starts of lines -/

/-- Whether a place is the start of a line, given the text before it. -/
def LineStart (before : List Char) : Prop :=
  before = [] ∨ before.getLast? = some '\n'

theorem afterSomeFeed_iff {test : List Char → Bool} {text : List Char} :
    afterSomeFeed test text = true ↔
      ∃ before rest, text = before ++ '\n' :: rest ∧ test rest = true := by
  induction text with
  | nil => simp [afterSomeFeed]
  | cons c text ih =>
      rw [afterSomeFeed, Bool.or_eq_true, Bool.and_eq_true, beq_iff_eq, ih]
      constructor
      · rintro (⟨rfl, found⟩ | ⟨before, rest, rfl, found⟩)
        · exact ⟨[], text, rfl, found⟩
        · exact ⟨c :: before, rest, rfl, found⟩
      · rintro ⟨before, rest, split, found⟩
        cases before with
        | nil =>
            cases split
            exact .inl ⟨rfl, found⟩
        | cons d before =>
            injection split with _ split
            exact .inr ⟨before, rest, split, found⟩

/-- `atSomeLine` finds a start of a line exactly if there is one. -/
theorem atSomeLine_iff {test : List Char → Bool} {text : List Char} :
    atSomeLine test text = true ↔
      ∃ before rest, text = before ++ rest ∧ LineStart before ∧ test rest = true := by
  rw [atSomeLine, Bool.or_eq_true, afterSomeFeed_iff]
  constructor
  · rintro (found | ⟨before, rest, rfl, found⟩)
    · exact ⟨[], text, rfl, .inl rfl, found⟩
    · exact ⟨before ++ ['\n'], rest, by simp, .inr (by simp), found⟩
  · rintro ⟨before, rest, rfl, rfl | feed, found⟩
    · exact .inl found
    · obtain ⟨line, rfl⟩ := List.getLast?_eq_some_iff.1 feed
      exact .inr ⟨line, rest, by simp, found⟩

end Text

end Parley
