/-
Module: Parley.Proofs.Json.Literals
Layer: Proofs
Purpose: Numbers that were printed are read back, digit by digit: each number that is written with
  its digits, a point and digits, and an exponent with a sign, each where it has to be.  A natural
  number of 64 bits comes back with its value.
Main exports: Json.decimals, Json.Literal.chars, Json.Literal.Plain, Json.Literal.Plain.spells,
  Json.spells_natChars, Json.visible_natChars
-/
import Parley.Proofs.Json.Words

namespace Parley.Json

/-! ### Decimal digits -/

/-- The decimal digits of a number, highest first. -/
def decimals (n : Nat) : List Nat :=
  if n < 10 then [n] else decimals (n / 10) ++ [n % 10]

theorem natChars_eq (n : Nat) : natChars n = (decimals n).map Nat.digitChar := by
  induction n using decimals.induct with
  | case1 n small => rw [decimals, if_pos small, natChars, Nat.toDigits_of_lt_base small]; rfl
  | case2 n notSmall ih =>
      rw [decimals, if_neg notSmall, natChars, Nat.toDigits_of_base_le (by decide) (by omega)]
      rw [natChars] at ih
      simp [ih]

theorem decimals_lt {n digit : Nat} (member : digit ∈ decimals n) : digit < 10 := by
  induction n using decimals.induct with
  | case1 n small =>
      rw [decimals, if_pos small, List.mem_singleton] at member
      omega
  | case2 n notSmall ih =>
      rw [decimals, if_neg notSmall, List.mem_append, List.mem_singleton] at member
      rcases member with early | last
      · exact ih early
      · omega

/-- A number of several digits does not start with a zero. -/
theorem decimals_cases (n : Nat) :
    decimals n = [n] ∨ ∃ first second others, decimals n = (first + 1) :: second :: others := by
  induction n using decimals.induct with
  | case1 n small => exact .inl (by rw [decimals, if_pos small])
  | case2 n notSmall ih =>
      right
      rw [decimals, if_neg notSmall]
      rcases ih with one | ⟨first, second, others, more⟩
      · refine ⟨n / 10 - 1, n % 10, [], ?_⟩
        rw [one]
        simp
        omega
      · exact ⟨first, second, others ++ [n % 10], by rw [more]; rfl⟩

/-- The number with the given decimal digits after those of another. -/
def numeralFrom (start : Nat) (digits : List Nat) : Nat :=
  digits.foldl (fun sum digit => sum * 10 + digit) start

theorem le_numeralFrom (start : Nat) (digits : List Nat) : start ≤ numeralFrom start digits := by
  induction digits generalizing start with
  | nil => exact Nat.le_refl start
  | cons digit digits ih =>
      have later := ih (start * 10 + digit)
      rw [numeralFrom, List.foldl_cons]
      rw [numeralFrom] at later
      omega

theorem numeralFrom_append (start : Nat) (one two : List Nat) :
    numeralFrom start (one ++ two) = numeralFrom (numeralFrom start one) two :=
  List.foldl_append

theorem numeralFrom_decimals (n : Nat) : numeralFrom 0 (decimals n) = n := by
  induction n using decimals.induct with
  | case1 n small =>
      rw [decimals, if_pos small]
      simp [numeralFrom]
  | case2 n notSmall ih =>
      rw [decimals, if_neg notSmall, numeralFrom_append, ih]
      simp [numeralFrom]
      omega

/-- Digits that do not exceed the greatest significand are all read. -/
theorem appendDigits_eq {start : Nat} {digits : List Nat}
    (fits : numeralFrom start digits ≤ greatestSignificand) :
    appendDigits start digits = (numeralFrom start digits, []) := by
  induction digits generalizing start with
  | nil => rfl
  | cons digit digits ih =>
      have first := le_numeralFrom (start * 10 + digit) digits
      rw [numeralFrom, List.foldl_cons] at fits
      rw [numeralFrom] at first
      rw [appendDigits, if_pos (Nat.le_trans first fits)]
      exact ih fits

/-- The digits of an exponent that does not exceed the greatest are all read. -/
theorem exponentValue?_eq {digits : List Nat} (fits : numeralFrom 0 digits ≤ greatestExponent) :
    exponentValue? digits = some (numeralFrom 0 digits) := by
  suffices read : ∀ start, numeralFrom start digits ≤ greatestExponent →
      digits.foldl (fun sum? digit => sum?.bind fun sum =>
        if sum * 10 + digit ≤ greatestExponent then some (sum * 10 + digit) else none)
        (some start) = some (numeralFrom start digits) from read 0 fits
  clear fits
  induction digits with
  | nil => exact fun _ _ => rfl
  | cons digit digits ih =>
      intro start fits
      have first := le_numeralFrom (start * 10 + digit) digits
      rw [numeralFrom, List.foldl_cons] at fits
      rw [numeralFrom] at first
      rw [List.foldl_cons, Option.bind_some, if_pos (Nat.le_trans first fits)]
      exact ih _ fits

theorem digitValue?_digitChar : ∀ n : Fin 10, digitValue? (Nat.digitChar n) = some n.val := by
  decide

/-- A text that does not start with a digit. -/
def NoDigit (text : List Char) : Prop :=
  ∀ c ∈ text.head?, digitValue? c = none

theorem Stops.noDigit {text : List Char} (stops : Stops text) : NoDigit text :=
  fun c first => (stops c first).1

theorem scanDigits_map {digits : List Nat} (all : ∀ digit ∈ digits, digit < 10) {rest : List Char}
    (ends : NoDigit rest) : scanDigits (digits.map Nat.digitChar ++ rest) = (digits, rest) := by
  induction digits with
  | nil =>
      cases rest with
      | nil => rfl
      | cons c rest => simp [scanDigits, ends c rfl]
  | cons digit digits ih =>
      have value := digitValue?_digitChar ⟨digit, all digit List.mem_cons_self⟩
      have others := ih fun other member => all other (List.mem_cons_of_mem _ member)
      simp only at value
      simp [scanDigits, value, others]

theorem scanSomeDigits?_map {digits : List Nat} (some : digits ≠ [])
    (all : ∀ digit ∈ digits, digit < 10) {rest : List Char} (ends : NoDigit rest) :
    scanSomeDigits? (digits.map Nat.digitChar ++ rest) = .some (digits, rest) := by
  cases digits with
  | nil => exact absurd rfl some
  | cons first others => rw [scanSomeDigits?, scanDigits_map all ends]

/-! ### Numbers with all their parts -/

namespace Literal

/-- The digits after the point, as they are written. -/
def fractionChars : Option (List Nat) → List Char
  | none => []
  | some digits => '.' :: digits.map Nat.digitChar

/-- The exponent, as it is written with its sign. -/
def exponentChars : Option (Bool × List Nat) → List Char
  | none => []
  | some (down, digits) => 'e' :: (if down then '-' else '+') :: digits.map Nat.digitChar

/-- A number without its sign, as it is written. -/
def magnitudeChars (l : Literal) : List Char :=
  l.whole.map Nat.digitChar ++ (fractionChars l.fraction ++ exponentChars l.exponent)

/-- A number as it is written. -/
def chars (l : Literal) : List Char :=
  if l.negative then '-' :: l.magnitudeChars else l.magnitudeChars

/-- The parts are lists of digits that can be written: none of them is empty, and only a single zero
may stand first. -/
structure Plain (l : Literal) : Prop where
  whole : (∃ digit, l.whole = [digit]) ∨ ∃ first others, l.whole = (first + 1) :: others
  wholeDigits : ∀ digit ∈ l.whole, digit < 10
  fraction : ∀ digits, l.fraction = some digits → digits ≠ [] ∧ ∀ digit ∈ digits, digit < 10
  exponent : ∀ down digits, l.exponent = some (down, digits) →
    digits ≠ [] ∧ ∀ digit ∈ digits, digit < 10

variable {l : Literal} {rest : List Char}

theorem noDigit_exponentChars (exponent : Option (Bool × List Nat)) (stops : Stops rest) :
    NoDigit (exponentChars exponent ++ rest) := by
  cases exponent with
  | none => exact stops.noDigit
  | some _ => simp [exponentChars, NoDigit, digitValue?]

theorem noDigit_fractionChars (fraction : Option (List Nat)) (ends : NoDigit rest) :
    NoDigit (fractionChars fraction ++ rest) := by
  cases fraction with
  | none => exact ends
  | some _ => simp [fractionChars, NoDigit, digitValue?]

theorem head_ne_point (exponent : Option (Bool × List Nat)) (stops : Stops rest) :
    ∀ c ∈ (exponentChars exponent ++ rest).head?, c ≠ '.' := by
  cases exponent with
  | none => exact fun c first => (stops c first).2.1
  | some _ => simp [exponentChars]

theorem scanWhole?_map (plain : l.Plain) (ends : NoDigit rest) :
    scanWhole? (l.whole.map Nat.digitChar ++ rest) = some (l.whole, rest) := by
  rw [scanWhole?, scanDigits_map plain.wholeDigits ends]
  rcases plain.whole with ⟨digit, one⟩ | ⟨first, others, several⟩
  · simp [one]
  · simp [several]

theorem scanExponent?_chars (plain : l.Plain) (stops : Stops rest) :
    scanExponent? (exponentChars l.exponent ++ rest) = some (l.exponent, rest) := by
  cases isExponent : l.exponent with
  | none =>
      cases rest with
      | nil => rfl
      | cons c rest =>
          have notExponent := stops c rfl
          simp [exponentChars, scanExponent?, notExponent]
  | some exponent =>
      obtain ⟨down, digits⟩ := exponent
      obtain ⟨some, all⟩ := plain.exponent down digits isExponent
      have scanned := scanSomeDigits?_map some all stops.noDigit
      cases down with
      | true => simp [exponentChars, scanExponent?, scanned]
      | false => simp [exponentChars, scanExponent?, scanned]

/-- A number is read back part by part. -/
theorem scanNumber?_chars (plain : l.Plain) (stops : Stops rest) :
    scanNumber? l.negative (l.magnitudeChars ++ rest) = some (l, rest) := by
  have exponent := scanExponent?_chars plain stops
  have whole := scanWhole?_map plain
    (noDigit_fractionChars l.fraction (noDigit_exponentChars l.exponent stops))
  rw [magnitudeChars, List.append_assoc, List.append_assoc, scanNumber?, whole]
  cases isFraction : l.fraction with
  | none =>
      have notPoint := head_ne_point l.exponent stops
      rw [fractionChars, List.nil_append]
      generalize exponentChars l.exponent ++ rest = text at notPoint exponent
      cases text with
      | nil => simp [exponent, ← isFraction]
      | cons c text =>
          have different : c ≠ '.' := notPoint c rfl
          simp [different, exponent, ← isFraction]
  | some digits =>
      obtain ⟨some, all⟩ := plain.fraction digits isFraction
      have scanned := scanSomeDigits?_map some all (noDigit_exponentChars l.exponent stops)
      simp [fractionChars, scanned, exponent, ← isFraction]

/-- A number starts with a digit, which starts no other word. -/
theorem nextToken?_digitChar (digit : Fin 10) (text : List Char) :
    nextToken? (Nat.digitChar digit :: text) =
      (scanNumber? false (Nat.digitChar digit :: text)).map fun found =>
        (.number found.1.value?, found.2) := by
  match digit with
  | 0 | 1 | 2 | 3 | 4 | 5 | 6 | 7 | 8 | 9 => rfl

theorem isBlank_digitChar : ∀ digit : Fin 10, isBlank (Nat.digitChar digit) = false := by
  decide

/-- The first digit of a number. -/
theorem Plain.starts (plain : l.Plain) :
    ∃ (digit : Fin 10) (text : List Char), l.magnitudeChars = Nat.digitChar digit :: text := by
  obtain ⟨first, others, split⟩ : ∃ first others, l.whole = first :: others := by
    rcases plain.whole with ⟨digit, one⟩ | ⟨first, others, several⟩
    · exact ⟨_, _, one⟩
    · exact ⟨_, _, several⟩
  have small : first < 10 := plain.wholeDigits first (by simp [split])
  refine ⟨⟨first, small⟩, others.map Nat.digitChar ++
    (fractionChars l.fraction ++ exponentChars l.exponent), ?_⟩
  rw [magnitudeChars, split]
  rfl

/-- A number is a word with the value that its digits have. -/
theorem Plain.nextToken? (plain : l.Plain) (stops : Stops rest) :
    nextToken? (l.chars ++ rest) = some (.number l.value?, rest) := by
  have scanned := scanNumber?_chars plain stops
  rw [chars]
  cases sign : l.negative with
  | true =>
      rw [sign] at scanned
      simp [Json.nextToken?, scanned]
  | false =>
      obtain ⟨digit, text, starts⟩ := plain.starts
      rw [sign] at scanned
      simp only [starts, List.cons_append, Bool.false_eq_true, if_false] at scanned ⊢
      rw [nextToken?_digitChar, scanned]
      rfl

/-- A number starts with its sign or a digit. -/
theorem Plain.starts_chars (plain : l.Plain) :
    ∃ c text, l.chars = c :: text ∧ isBlank c = false := by
  rw [chars]
  cases l.negative with
  | true => exact ⟨'-', _, rfl, by decide⟩
  | false =>
      obtain ⟨digit, text, starts⟩ := plain.starts
      exact ⟨_, text, starts, isBlank_digitChar digit⟩

/-- A number comes back with the value that its digits have. -/
theorem Plain.spells (plain : l.Plain) : Spells l.chars [.number l.value?] := by
  obtain ⟨c, text, starts, notBlank⟩ := plain.starts_chars
  intro rest more stops scans
  have found := plain.nextToken? stops
  rw [starts, List.cons_append] at found ⊢
  exact .word notBlank found (by simp) scans

end Literal

theorem plain_decimals (negative : Bool) (n : Nat) :
    (Literal.mk negative (decimals n) none none).Plain where
  whole := (decimals_cases n).imp (fun one => ⟨n, one⟩)
    fun ⟨first, second, others, several⟩ => ⟨first, second :: others, several⟩
  wholeDigits := fun _ => decimals_lt
  fraction := by simp
  exponent := by simp

theorem chars_decimals (negative : Bool) (n : Nat) :
    (Literal.mk negative (decimals n) none none).chars =
      if negative then '-' :: natChars n else natChars n := by
  simp [Literal.chars, Literal.magnitudeChars, Literal.fractionChars, Literal.exponentChars,
    natChars_eq]

theorem appendDigits_decimals {n : Nat} (fits : n ≤ greatestSignificand) :
    appendDigits 0 (decimals n) = (n, []) := by
  rw [appendDigits_eq (by rwa [numeralFrom_decimals]), numeralFrom_decimals]

/-- A number of 64 bits comes back from its decimal digits. -/
theorem spells_natChars {n : Nat} (fits : n ≤ greatestSignificand) :
    Spells (natChars n) [.number (some (.int n))] := by
  have value : (Literal.mk false (decimals n) none none).value? = some (.int n) := by
    simp [Literal.value?, Literal.significand, Literal.isInteger, appendDigits_decimals fits]
  have spells := (plain_decimals false n).spells
  rwa [value, chars_decimals, if_neg Bool.false_ne_true] at spells

theorem visible_natChars (n : Nat) : Visible (natChars n) := by
  intro c member
  have isDigit := Nat.isDigit_of_mem_toDigits (by decide) (by decide) member
  simp only [Char.isDigit, Bool.and_eq_true, decide_eq_true_eq] at isDigit
  exact Nat.le_trans (by decide) isDigit.1

end Parley.Json
