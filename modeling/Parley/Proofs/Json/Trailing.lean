/-
Module: Parley.Proofs.Json.Trailing
Layer: Proofs
Purpose: Blanks at the end of a text.  A word that is read off a text is read off it whatever follows
  the text, as long as that does not make a number longer.  So what can be read off a text can be
  read off it with blanks after it.
Main exports: Json.nextToken?_append, Json.ofChars?_append_blanks, Json.decode?_append_blanks
-/
import Parley.Json.Record
import Parley.Proofs.Json.Written

namespace Parley.Json

variable {text rest after : List Char}

/-! ### Words -/

/-- Quoted text ends at its quote. -/
theorem scanPieces_append {done pieces : List Piece}
    (found : scanPieces done text = some (pieces, after)) (rest : List Char) :
    scanPieces done (text ++ rest) = some (pieces, after ++ rest) := by
  induction done, text using scanPieces.induct with
  | case1 done => cases found
  | case2 done text =>
      cases found
      rfl
  | case3 done a b c d text code value ih =>
      rw [scanPieces, value] at found
      simp only [List.cons_append]
      rw [scanPieces, value]
      exact ih found
  | case4 done a b c d text none =>
      rw [scanPieces, none] at found
      cases found
  | case5 done letter text short meant value ih =>
      have notUnit : letter ≠ 'u' := by
        rintro rfl
        cases value
      rw [scanPieces_letter notUnit value] at found
      rw [List.cons_append, List.cons_append, scanPieces_letter notUnit value]
      exact ih found
  | case6 done letter text short none =>
      rw [scanPieces, none] at found
      · cases found
      · exact short
  | case7 done c text notQuote notUnit notEscape unseen =>
      rw [scanPieces, if_pos unseen] at found
      · cases found
      · exact notQuote
      · exact notUnit
      · exact notEscape
  | case8 done c text notQuote notUnit notEscape seen ih =>
      obtain ⟨visible, notBackslash⟩ := not_or.1 seen
      rw [scanPieces_plain (Nat.le_of_not_lt visible) notQuote notBackslash] at found
      rw [List.cons_append, scanPieces_plain (Nat.le_of_not_lt visible) notQuote notBackslash]
      exact ih found

/-- Digits end where no digit follows. -/
theorem scanDigits_append (noDigit : NoDigit rest) (text : List Char) :
    scanDigits (text ++ rest) = ((scanDigits text).1, (scanDigits text).2 ++ rest) := by
  induction text with
  | nil =>
      cases rest with
      | nil => rfl
      | cons c rest => simp [scanDigits, noDigit c rfl]
  | cons c text ih =>
      cases value : digitValue? c with
      | none => simp [scanDigits, value]
      | some digit => simp [scanDigits, value, ih]

theorem scanSomeDigits?_append (noDigit : NoDigit rest) {digits : List Nat}
    (found : scanSomeDigits? text = some (digits, after)) :
    scanSomeDigits? (text ++ rest) = some (digits, after ++ rest) := by
  rw [scanSomeDigits?] at found ⊢
  rw [scanDigits_append noDigit]
  generalize scanDigits text = scanned at found
  obtain ⟨scanned, left⟩ := scanned
  cases scanned with
  | nil => cases found
  | cons digit others =>
      cases found
      rfl

theorem scanWhole?_append (noDigit : NoDigit rest) {digits : List Nat}
    (found : scanWhole? text = some (digits, after)) :
    scanWhole? (text ++ rest) = some (digits, after ++ rest) := by
  rw [scanWhole?] at found ⊢
  rw [scanDigits_append noDigit]
  generalize scanDigits text = scanned at found
  obtain ⟨scanned, left⟩ := scanned
  dsimp only at found ⊢
  split at found
  · cases found
  · cases found
  · cases found
    simp_all

/-- The sign of an exponent, if there is one, and what follows it. -/
def scanSign : List Char → Bool × List Char
  | '-' :: after => (true, after)
  | '+' :: after => (false, after)
  | after => (false, after)

theorem scanExponent?_cons (c : Char) (text : List Char) :
    scanExponent? (c :: text) =
      if c = 'e' ∨ c = 'E' then
        (scanSomeDigits? (scanSign text).2).map fun found =>
          (some ((scanSign text).1, found.1), found.2)
      else some (none, c :: text) := rfl

theorem scanSign_cons_append (c : Char) (text rest : List Char) :
    scanSign (c :: text ++ rest) =
      ((scanSign (c :: text)).1, (scanSign (c :: text)).2 ++ rest) := by
  by_cases minus : c = '-'
  · subst minus
    rfl
  · by_cases plus : c = '+'
    · subst plus
      rfl
    · simp [scanSign, minus, plus]

theorem scanExponent?_append (stops : Stops rest) {exponent : Option (Bool × List Nat)}
    (found : scanExponent? text = some (exponent, after)) :
    scanExponent? (text ++ rest) = some (exponent, after ++ rest) := by
  cases text with
  | nil =>
      cases found
      cases rest with
      | nil => rfl
      | cons c rest =>
          obtain ⟨-, -, notSmall, notLarge⟩ := stops c rfl
          rw [List.nil_append, scanExponent?_cons, if_neg (by simp [notSmall, notLarge])]
  | cons c text =>
      rw [scanExponent?_cons] at found
      rw [List.cons_append, scanExponent?_cons]
      split at found
      · next isExponent =>
          rw [if_pos isExponent]
          obtain ⟨⟨digits, left⟩, isDigits, same⟩ := Option.map_eq_some_iff.1 found
          cases same
          cases text with
          | nil => cases isDigits
          | cons d text =>
              rw [scanSign_cons_append, scanSomeDigits?_append stops.noDigit isDigits]
              rfl
      · next noExponent =>
          cases found
          rw [if_neg noExponent]
          rfl

/-- The digits after the point, if there is a point, and what follows them. -/
def scanFraction? : List Char → Option (Option (List Nat) × List Char)
  | '.' :: after => (scanSomeDigits? after).map fun found => (some found.1, found.2)
  | rest => some (none, rest)

theorem scanNumber?_eq (negative : Bool) (text : List Char) :
    scanNumber? negative text =
      (scanWhole? text).bind fun whole =>
        (scanFraction? whole.2).bind fun fraction =>
          (scanExponent? fraction.2).bind fun exponent =>
            some (⟨negative, whole.1, fraction.1, exponent.1⟩, exponent.2) := by
  rw [scanNumber?]
  cases scanWhole? text with
  | none => rfl
  | some whole =>
      obtain ⟨digits, left⟩ := whole
      cases left with
      | nil => rfl
      | cons c left =>
          by_cases isPoint : c = '.'
          · subst isPoint
            rfl
          · simp [scanFraction?, isPoint]

theorem scanFraction?_append (stops : Stops rest) {fraction : Option (List Nat)}
    (found : scanFraction? text = some (fraction, after)) :
    scanFraction? (text ++ rest) = some (fraction, after ++ rest) := by
  have noPoint : ∀ text, text.head? ≠ some '.' → scanFraction? text = some (none, text) := by
    intro text different
    rw [scanFraction?]
    rintro text rfl
    exact different rfl
  cases text with
  | nil =>
      cases found
      exact noPoint rest fun isPoint => (stops '.' isPoint).2.1 rfl
  | cons c text =>
      by_cases isPoint : c = '.'
      · subst isPoint
        obtain ⟨⟨digits, left⟩, isDigits, same⟩ := Option.map_eq_some_iff.1 found
        cases same
        rw [List.cons_append, scanFraction?, scanSomeDigits?_append stops.noDigit isDigits]
        rfl
      · have different : (c :: text).head? ≠ some '.' := fun same => isPoint (Option.some.inj same)
        rw [noPoint _ different] at found
        cases found
        exact noPoint _ different

theorem scanNumber?_append (stops : Stops rest) {negative : Bool} {literal : Literal}
    (found : scanNumber? negative text = some (literal, after)) :
    scanNumber? negative (text ++ rest) = some (literal, after ++ rest) := by
  rw [scanNumber?_eq] at found ⊢
  obtain ⟨whole, isWhole, found⟩ := Option.bind_eq_some_iff.1 found
  obtain ⟨fraction, isFraction, found⟩ := Option.bind_eq_some_iff.1 found
  obtain ⟨exponent, isExponent, found⟩ := Option.bind_eq_some_iff.1 found
  cases found
  simp [scanWhole?_append stops.noDigit isWhole, scanFraction?_append stops isFraction,
    scanExponent?_append stops isExponent]

theorem starts_of_scanNumber? {negative : Bool} {found : Literal × List Char}
    (isNumber : scanNumber? negative text = some found) :
    ∃ c others digit, text = c :: others ∧ digitValue? c = some digit := by
  rw [scanNumber?_eq] at isNumber
  obtain ⟨whole, isWhole, -⟩ := Option.bind_eq_some_iff.1 isNumber
  cases text with
  | nil => cases isWhole
  | cons c text =>
      cases value : digitValue? c with
      | none => simp [scanWhole?, scanDigits, value] at isWhole
      | some digit => exact ⟨c, text, digit, rfl, value⟩

/-- No word but a number starts with a digit. -/
theorem nextToken?_of_digit {c : Char} {digit : Nat} (isDigit : digitValue? c = some digit)
    (text : List Char) :
    nextToken? (c :: text) = (scanNumber? false (c :: text)).map fun found =>
      (.number found.1.value?, found.2) := by
  rw [nextToken?]
  all_goals
    intro _ same
    cases same
    cases isDigit

/-- A word that is read off a text is read off it with anything after it that stops a number. -/
theorem nextToken?_append (stops : Stops rest) {token : Token}
    (found : nextToken? text = some (token, after)) :
    nextToken? (text ++ rest) = some (token, after ++ rest) := by
  unfold nextToken? at found
  split at found
  -- brackets, braces, colons and commas, and the three words of letters
  iterate 9
    · cases found
      rfl
  · obtain ⟨⟨pieces, left⟩, isText, same⟩ := Option.map_eq_some_iff.1 found
    cases same
    rw [List.cons_append, nextToken?, scanPieces_append isText]
    rfl
  · obtain ⟨⟨literal, left⟩, isNumber, same⟩ := Option.map_eq_some_iff.1 found
    cases same
    rw [List.cons_append, nextToken?, scanNumber?_append stops isNumber]
    rfl
  · obtain ⟨⟨literal, left⟩, isNumber, same⟩ := Option.map_eq_some_iff.1 found
    cases same
    obtain ⟨c, text, digit, rfl, isDigit⟩ := starts_of_scanNumber? isNumber
    have whole := scanNumber?_append stops isNumber
    rw [List.cons_append] at whole ⊢
    rw [nextToken?_of_digit isDigit, whole]
    rfl

/-! ### Texts -/

section Blanks

variable {blanks : List Char}

theorem scanTokens_blanks (all : ∀ c ∈ blanks, isBlank c = true) (done : List Token) (spare : Nat) :
    scanTokens done (spare + blanks.length) blanks = some done := by
  induction blanks with
  | nil => cases spare <;> rfl
  | cons c blanks ih =>
      obtain ⟨first, others⟩ := List.forall_mem_cons.1 all
      rw [List.length_cons, ← Nat.add_assoc, scanTokens, if_pos first]
      exact ih others

/-- Blanks after a text add no words. -/
theorem scanTokens_append_blanks (all : ∀ c ∈ blanks, isBlank c = true) {done tokens : List Token}
    {fuel : Nat} (found : scanTokens done fuel text = some tokens) :
    scanTokens done (fuel + blanks.length) (text ++ blanks) = some tokens := by
  induction fuel generalizing text done with
  | zero =>
      cases text with
      | nil =>
          cases found
          exact scanTokens_blanks all _ 0
      | cons c text => cases found
  | succ fuel ih =>
      cases text with
      | nil =>
          cases found
          exact scanTokens_blanks all _ (fuel + 1)
      | cons c text =>
          have stops : Stops blanks := by simpa using stops_blanks all stops_nil
          rw [scanTokens] at found
          rw [Nat.add_right_comm, List.cons_append, scanTokens]
          split at found
          · next isBlank =>
              rw [if_pos isBlank]
              exact ih found
          · next notBlank =>
              rw [if_neg notBlank]
              split at found
              · next token after isToken =>
                  have goesOn := nextToken?_append stops isToken
                  rw [List.cons_append] at goesOn
                  rw [goesOn]
                  exact ih found
              · cases found

theorem ofChars?_append_blanks (all : ∀ c ∈ blanks, isBlank c = true) {tokens : List Token}
    (found : Token.ofChars? text = some tokens) : Token.ofChars? (text ++ blanks) = some tokens := by
  obtain ⟨scanned, isScanned, rfl⟩ := Option.map_eq_some_iff.1 found
  rw [Token.ofChars?, List.length_append, scanTokens_append_blanks all isScanned]
  rfl

/-- What is read off a text is read off it with blanks after it. -/
theorem decode?_append_blanks (all : ∀ c ∈ blanks, isBlank c = true) {α : Type}
    {decoder : Decoder α} {value : α} (read : decode? decoder (String.ofList text) = some value) :
    decode? decoder (String.ofList (text ++ blanks)) = some value := by
  simp only [decode?, Document.parse?, String.toList_ofList] at read ⊢
  obtain ⟨document, isDocument, isValue⟩ := Option.bind_eq_some_iff.1 read
  obtain ⟨tokens, isTokens, isOf⟩ := Option.bind_eq_some_iff.1 isDocument
  rw [ofChars?_append_blanks all isTokens, Option.bind_some, isOf, Option.bind_some, isValue]

end Blanks

end Parley.Json
