/-
Module: Parley.Proofs.Json.Words
Layer: Proofs
Purpose: Words that were printed are read back.  What follows a word may be anything but for a
  number, which must not be followed by what would make it longer.  Quoted text comes back with all
  its characters, and is not written with a line end in it.
Main exports: Json.Scans, Json.Scans.ofChars?, Json.Stops, Json.Spells, Json.Spells.append,
  Json.Visible, Json.spells_quoted, Json.visible_quoted
-/
import Parley.Json.Printer
import Parley.Json.Token

namespace Parley.Json

/-! ### Reading without a bound -/

/-- The words of a text: between blanks, each is read where the one before it ends. -/
inductive Scans : List Char → List Token → Prop where
  | nil : Scans [] []
  | blank {c : Char} {text : List Char} {tokens : List Token} :
      isBlank c = true → Scans text tokens → Scans (c :: text) tokens
  | word {c : Char} {text rest : List Char} {token : Token} {tokens : List Token} :
      isBlank c = false → nextToken? (c :: text) = some (token, rest) →
      rest.length ≤ text.length → Scans rest tokens → Scans (c :: text) (token :: tokens)

theorem Scans.scanTokens {text : List Char} {tokens : List Token} (scans : Scans text tokens)
    (done : List Token) {fuel : Nat} (enough : text.length ≤ fuel) :
    scanTokens done fuel text = some (tokens.reverse ++ done) := by
  induction scans generalizing done fuel with
  | nil => simp [Json.scanTokens]
  | blank isBlank _ ih =>
      obtain _ | fuel := fuel
      · simp at enough
      · rw [Json.scanTokens, if_pos isBlank]
        exact ih done (by simpa using enough)
  | word notBlank found shorter _ ih =>
      obtain _ | fuel := fuel
      · simp at enough
      · rw [List.length_cons] at enough
        rw [Json.scanTokens, if_neg (by simp [notBlank]), found]
        simp [ih _ (show _ ≤ fuel by omega)]

/-- The length of the text is fuel enough. -/
theorem Scans.ofChars? {text : List Char} {tokens : List Token} (scans : Scans text tokens) :
    Token.ofChars? text = some tokens := by
  simp [Token.ofChars?, scans.scanTokens [] (Nat.le_refl _)]

/-! ### Spelling -/

/-- A text that does not go on with a number that stands before it. -/
def Stops (text : List Char) : Prop :=
  ∀ c ∈ text.head?, digitValue? c = none ∧ c ≠ '.' ∧ c ≠ 'e' ∧ c ≠ 'E'

/-- A text spells words if these are read off it, whatever follows that stops a number. -/
def Spells (text : List Char) (tokens : List Token) : Prop :=
  ∀ rest more, Stops rest → Scans rest more → Scans (text ++ rest) (tokens ++ more)

theorem stops_nil : Stops [] := by simp [Stops]

theorem stops_cons {c : Char} (text : List Char)
    (stops : digitValue? c = none ∧ c ≠ '.' ∧ c ≠ 'e' ∧ c ≠ 'E') : Stops (c :: text) := by
  simpa [Stops] using stops

theorem Spells.ofChars? {text : List Char} {tokens : List Token} (spells : Spells text tokens) :
    Token.ofChars? text = some tokens := by
  have scans := spells [] [] stops_nil .nil
  rw [List.append_nil, List.append_nil] at scans
  exact scans.ofChars?

theorem spells_nil : Spells [] [] := fun _ _ _ scans => scans

/-- Texts one after the other spell the words of both. -/
theorem Spells.append {one two : List Char} {tokens more : List Token} (spells : Spells one tokens)
    (spellsToo : Spells two more) (stops : ∀ rest, Stops rest → Stops (two ++ rest)) :
    Spells (one ++ two) (tokens ++ more) := by
  intro rest others restStops scans
  rw [List.append_assoc, List.append_assoc]
  exact spells _ _ (stops rest restStops) (spellsToo rest others restStops scans)

/-- Blanks before a text are passed over. -/
theorem Spells.blanks {blanks text : List Char} {tokens : List Token}
    (all : ∀ c ∈ blanks, isBlank c = true) (spells : Spells text tokens) :
    Spells (blanks ++ text) tokens := by
  induction blanks with
  | nil => exact spells
  | cons c blanks ih =>
      have restSpells := ih fun other member => all other (List.mem_cons_of_mem _ member)
      intro rest more stops scans
      exact .blank (all c List.mem_cons_self) (restSpells rest more stops scans)

/-- A word that is read whatever follows it. -/
theorem spells_word {c : Char} {text : List Char} {token : Token} (notBlank : isBlank c = false)
    (found : ∀ rest, nextToken? (c :: (text ++ rest)) = some (token, rest)) :
    Spells (c :: text) [token] :=
  fun rest _ _ scans => .word notBlank (found rest) (by simp) scans

/-- A mark is a word, whatever follows it. -/
theorem Spells.mark {c : Char} {token : Token} {text : List Char} {tokens : List Token}
    (notBlank : isBlank c = false) (found : ∀ rest, nextToken? (c :: rest) = some (token, rest))
    (spells : Spells text tokens) : Spells (c :: text) (token :: tokens) :=
  fun rest more stops scans =>
    .word notBlank (found (text ++ rest)) (Nat.le_refl _) (spells rest more stops scans)

/-- A text without control characters, in particular without line ends. -/
def Visible (text : List Char) : Prop := ∀ c ∈ text, 32 ≤ c.toNat

theorem visible_cons {c : Char} {text : List Char} :
    Visible (c :: text) ↔ 32 ≤ c.toNat ∧ Visible text :=
  List.forall_mem_cons

theorem visible_append {one two : List Char} :
    Visible (one ++ two) ↔ Visible one ∧ Visible two :=
  List.forall_mem_append

/-! ### Quoted text -/

/-- How a character is written: by a letter, by its number, or as it is. -/
theorem escaped_cases (c : Char) :
    (∃ letter, escaped c = ['\\', letter] ∧ letter ≠ 'u' ∧ escapeValue? letter = some c ∧
        32 ≤ letter.toNat) ∨
      (c.toNat < 32 ∧
        escaped c = ['\\', 'u', '0', '0', hexDigit (c.toNat / 16), hexDigit (c.toNat % 16)]) ∨
      (32 ≤ c.toNat ∧ c ≠ '"' ∧ c ≠ '\\' ∧ escaped c = [c]) := by
  by_cases byLetter : c ∈ ['"', '\\', '\n', '\r', '\t', '\x08', '\x0c']
  · left
    simp only [List.mem_cons, List.not_mem_nil, or_false] at byLetter
    rcases byLetter with rfl | rfl | rfl | rfl | rfl | rfl | rfl
    · exact ⟨'"', by decide⟩
    · exact ⟨'\\', by decide⟩
    · exact ⟨'n', by decide⟩
    · exact ⟨'r', by decide⟩
    · exact ⟨'t', by decide⟩
    · exact ⟨'b', by decide⟩
    · exact ⟨'f', by decide⟩
  · right
    simp only [List.mem_cons, List.not_mem_nil, or_false, not_or] at byLetter
    by_cases control : c.toNat < 32
    · exact .inl ⟨control, by simp [escaped, byLetter, control]⟩
    · exact .inr ⟨by omega, byLetter.1, byLetter.2.1, by simp [escaped, byLetter, control]⟩

/-- The piece that a character is read back as.  Only what is written by number takes six
characters. -/
def pieceOf (c : Char) : Piece :=
  if (escaped c).length = 6 then .unit c.toNat else .char c

theorem unitValue?_hexDigit : ∀ n : Fin 32,
    unitValue? '0' '0' (hexDigit (n / 16)) (hexDigit (n % 16)) = some n.val := by
  decide

theorem scanPieces_letter {letter meant : Char} (isLetter : letter ≠ 'u')
    (value : escapeValue? letter = some meant) (done : List Piece) (rest : List Char) :
    scanPieces done ('\\' :: letter :: rest) = scanPieces (.char meant :: done) rest := by
  rw [scanPieces]
  · rw [value]
  · intro _ _ _ _ _ same
    exact absurd same isLetter

theorem scanPieces_plain {c : Char} (visible : 32 ≤ c.toNat) (notQuote : c ≠ '"')
    (notBackslash : c ≠ '\\') (done : List Piece) (rest : List Char) :
    scanPieces done (c :: rest) = scanPieces (.char c :: done) rest := by
  rw [scanPieces, if_neg (by simp [notBackslash]; omega)]
  · exact notQuote
  · intro _ _ _ _ _ same
    exact absurd same notBackslash
  · intro _ _ same
    exact absurd same notBackslash

/-- One character is read back as its piece. -/
theorem scanPieces_escaped (c : Char) (done : List Piece) (rest : List Char) :
    scanPieces done (escaped c ++ rest) = scanPieces (pieceOf c :: done) rest := by
  rcases escaped_cases c with ⟨letter, written, isLetter, value, -⟩ | ⟨control, written⟩ |
    ⟨visible, notQuote, notBackslash, written⟩
  · simp [pieceOf, written, scanPieces_letter isLetter value]
  · have value := unitValue?_hexDigit ⟨c.toNat, control⟩
    simp only at value
    simp [pieceOf, written, scanPieces, value]
  · simp [pieceOf, written, scanPieces_plain visible notQuote notBackslash]

/-- Quoted characters are read back up to the closing quote. -/
theorem scanPieces_flatMap (text : List Char) (done : List Piece) (rest : List Char) :
    scanPieces done (text.flatMap escaped ++ '"' :: rest) =
      some ((text.map pieceOf).reverse ++ done, rest) := by
  induction text generalizing done with
  | nil => rfl
  | cons c text ih => simp [scanPieces_escaped, ih]

/-- A piece stands for its character. -/
theorem joinPieces?_pieceOf (c : Char) (done : List Char) (rest : List Piece) :
    joinPieces? done (pieceOf c :: rest) = joinPieces? (c :: done) rest := by
  rcases escaped_cases c with ⟨letter, written, -⟩ | ⟨control, written⟩ | ⟨-, -, -, written⟩
  · simp [pieceOf, written, joinPieces?]
  · -- A control character is no half of a surrogate pair.
    have notHigh : isHighHalf c.toNat = false := by
      simp only [isHighHalf, Bool.and_eq_false_iff, decide_eq_false_iff_not]
      omega
    have notLow : isLowHalf c.toNat = false := by
      simp only [isLowHalf, Bool.and_eq_false_iff, decide_eq_false_iff_not]
      omega
    rcases rest with _ | ⟨_ | _, _⟩
    · simp [pieceOf, written, joinPieces?, notHigh, notLow]
    · simp [pieceOf, written, joinPieces?, notHigh, notLow]
    · simp [pieceOf, written, joinPieces?, notHigh, notLow]
  · simp [pieceOf, written, joinPieces?]

theorem joinPieces?_map (text done : List Char) (rest : List Piece) :
    joinPieces? done (text.map pieceOf ++ rest) = joinPieces? (text.reverse ++ done) rest := by
  induction text generalizing done with
  | nil => rfl
  | cons c text ih => simp [joinPieces?_pieceOf, ih]

/-- Text comes back from its quoted form with all its characters. -/
theorem spells_quoted (text : String) : Spells (quoted text) [.text (some text)] := by
  have joined : joinPieces? [] (text.toList.map pieceOf).reverse = some text.toList := by
    have reversed := joinPieces?_map text.toList.reverse [] []
    simpa [joinPieces?] using reversed
  refine spells_word (by decide) fun rest => ?_
  simp [nextToken?, scanPieces_flatMap, joined]

theorem hexDigit_visible : ∀ n : Fin 16, 32 ≤ (hexDigit n).toNat := by
  decide

/-- No control character is left in the written form of a character. -/
theorem visible_of_mem_escaped {c d : Char} (member : d ∈ escaped c) : 32 ≤ d.toNat := by
  rcases escaped_cases c with ⟨letter, written, -, -, visible⟩ | ⟨control, written⟩ |
    ⟨visible, -, -, written⟩
  · rw [written] at member
    simp only [List.mem_cons, List.not_mem_nil, or_false] at member
    rcases member with rfl | rfl
    · decide
    · exact visible
  · rw [written] at member
    simp only [List.mem_cons, List.not_mem_nil, or_false] at member
    rcases member with rfl | rfl | rfl | rfl | rfl | rfl
    · decide
    · decide
    · decide
    · decide
    · exact hexDigit_visible ⟨c.toNat / 16, by omega⟩
    · exact hexDigit_visible ⟨c.toNat % 16, Nat.mod_lt _ (by decide)⟩
  · rw [written, List.mem_singleton] at member
    exact member ▸ visible

theorem visible_quoted (text : String) : Visible (quoted text) := by
  intro c member
  simp only [quoted, List.mem_cons, List.mem_append, List.mem_flatMap, List.not_mem_nil,
    or_false] at member
  rcases member with rfl | ⟨d, -, isPart⟩ | rfl
  · decide
  · exact visible_of_mem_escaped isPart
  · decide

end Parley.Json
