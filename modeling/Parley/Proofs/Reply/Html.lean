/-
Module: Parley.Proofs.Reply.Html
Layer: Proofs
Purpose: Which answers count as HTML: those in which an opening tag is followed by a closing tag.
  Only the first opening tag is tried, and this is enough, because no other opening tag leaves more
  of the text behind it.
Main exports: Html.OpeningTag, Html.ClosingTag, Html.HasElement, Html.elementPattern,
  Html.hasElement_iff, Html.found_elementPattern_iff
-/
import Parley.Proofs.Text.Pattern
import Parley.Reply.Html

namespace Parley.Html

/-! ### Tags -/

/-- The name of a tag, an ASCII letter and then ASCII letters or digits. -/
structure TagName (name : List Char) : Prop where
  letter : name.head?.any isLetter = true
  chars : ∀ c ∈ name, isNameChar c = true

/-- An opening tag: a bracket, a name that ends at a word boundary, anything without a closing
bracket, and a closing bracket. -/
inductive OpeningTag : List Char → Prop where
  | intro {name attributes : List Char} (isName : TagName name)
      (boundary : Text.isWordBoundary name.getLast? (attributes ++ ['>']).head? = true)
      (inside : '>' ∉ attributes) : OpeningTag ('<' :: (name ++ (attributes ++ ['>'])))

/-- A closing tag: a bracket, a slash, a name, white space and a closing bracket. -/
inductive ClosingTag : List Char → Prop where
  | intro {name blank : List Char} (isName : TagName name)
      (isBlank : ∀ c ∈ blank, Text.isSpace c = true) :
      ClosingTag ('<' :: '/' :: (name ++ (blank ++ ['>'])))

/-- Whether an opening tag is followed, possibly lines later, by a closing tag. -/
def HasElement (text : List Char) : Prop :=
  ∃ before opening between closing after,
    text = before ++ (opening ++ (between ++ (closing ++ after))) ∧
      OpeningTag opening ∧ ClosingTag closing

/-! ### Characters of names -/

section Chars

variable {c : Char}

theorem isNameChar_of_isLetter (letter : isLetter c = true) : isNameChar c = true := by
  rw [isNameChar, letter, Bool.true_or]

/-- The characters of names are word characters. -/
theorem isWordChar_of_isNameChar (char : isNameChar c = true) : Text.isWordChar c = true := by
  have ascii : (0x61, 0x7A) ∈ Text.wordChars.toList ∧ (0x41, 0x5A) ∈ Text.wordChars.toList ∧
      (0x30, 0x39) ∈ Text.wordChars.toList := by
    decide +kernel
  rw [Text.isWordChar, Ranges.holds_iff Text.wordChars_increasing]
  simp only [isNameChar, isLetter, Bool.or_eq_true, Bool.and_eq_true, decide_eq_true_eq,
    Char.le_def, UInt32.le_iff_toNat_le] at char
  rcases char with (lower | upper) | digit
  · exact ⟨_, ascii.1, lower⟩
  · exact ⟨_, ascii.2.1, upper⟩
  · exact ⟨_, ascii.2.2, digit⟩

/-- So a name cannot go on where no word character follows. -/
theorem noNameChar_of_noWordChar {next : Option Char} (noWord : next.any Text.isWordChar = false) :
    next.any isNameChar = false := by
  cases next with
  | none => rfl
  | some c =>
      rw [Option.any_some] at noWord ⊢
      exact Bool.eq_false_iff.2 fun char =>
        Bool.eq_false_iff.1 noWord (isWordChar_of_isNameChar char)

/-- White space does not occur in names. -/
theorem isNameChar_eq_false_of_isSpace (space : Text.isSpace c = true) : isNameChar c = false := by
  simp only [Text.isSpace, Bool.or_eq_true, Bool.and_eq_true, decide_eq_true_eq,
    beq_iff_eq] at space
  simp only [← Bool.not_eq_true, isNameChar, isLetter, Bool.or_eq_true, Bool.and_eq_true,
    decide_eq_true_eq, Char.le_def, UInt32.le_iff_toNat_le]
  have code : c.val.toNat = c.toNat := rfl
  have a : 'a'.val.toNat = 97 := rfl
  have z : 'z'.val.toNat = 122 := rfl
  have A : 'A'.val.toNat = 65 := rfl
  have Z : 'Z'.val.toNat = 90 := rfl
  have zero : '0'.val.toNat = 48 := rfl
  have nine : '9'.val.toNat = 57 := rfl
  omega

end Chars

section Names

variable {text name rest : List Char}

/-- A name is never empty, and it ends in a word character. -/
theorem TagName.getLast_any (isName : TagName name) :
    name.getLast?.any Text.isWordChar = true := by
  cases last : name.getLast? with
  | none =>
      obtain rfl := List.getLast?_eq_none_iff.1 last
      exact absurd isName.letter Bool.false_ne_true
  | some c =>
      rw [Option.any_some]
      exact isWordChar_of_isNameChar (isName.chars c (List.mem_of_getLast? last))

/-- So it ends at a word boundary exactly if no word character follows. -/
theorem TagName.boundary_iff (isName : TagName name) {next : Option Char} :
    Text.isWordBoundary name.getLast? next = true ↔ next.any Text.isWordChar = false := by
  rw [Text.isWordBoundary, isName.getLast_any]
  cases next.any Text.isWordChar <;> decide

theorem TagName.not_mem_bracket (isName : TagName name) : '>' ∉ name := fun member =>
  absurd (isName.chars _ member) (by decide)

/-- Reading a name takes all characters a name can have. -/
theorem afterName?_eq_some_iff :
    afterName? text = some rest ↔
      ∃ name, text = name ++ rest ∧ TagName name ∧ rest.head?.any isNameChar = false := by
  cases text with
  | nil =>
      simp only [afterName?, reduceCtorEq, false_iff]
      rintro ⟨name, split, isName, -⟩
      obtain ⟨rfl, -⟩ := List.append_eq_nil_iff.1 split.symm
      exact absurd isName.letter Bool.false_ne_true
  | cons c text =>
      rw [afterName?]
      constructor
      · intro read
        obtain ⟨letter, read⟩ : isLetter c = true ∧ text.dropWhile isNameChar = rest := by
          simpa using read
        obtain ⟨name, rfl, chars, stops⟩ := Text.dropWhile_eq_iff.1 read
        exact ⟨c :: name, rfl,
          ⟨letter, List.forall_mem_cons.2 ⟨isNameChar_of_isLetter letter, chars⟩⟩, stops⟩
      · rintro ⟨name, split, ⟨letter, chars⟩, stops⟩
        cases name with
        | nil => exact absurd letter Bool.false_ne_true
        | cons d name =>
            injection split with same split
            subst same
            have skipped := Text.dropWhile_eq_iff.2
              ⟨name, split, (List.forall_mem_cons.1 chars).2, stops⟩
            have letter : isLetter c = true := letter
            rw [if_pos letter, skipped]

end Names

/-! ### Reading tags -/

section Reading

variable {text after rest before opening : List Char}

theorem head?_append_bracket (attributes after : List Char) :
    (attributes ++ '>' :: after).head? = (attributes ++ ['>']).head? := by
  cases attributes <;> rfl

/-- The scanner reads an opening tag exactly if the text starts with one. -/
theorem openingEnd?_eq_some_iff :
    openingEnd? text = some after ↔ ∃ opening, text = opening ++ after ∧ OpeningTag opening := by
  constructor
  · intro read
    rw [openingEnd?.eq_def] at read
    split at read
    case h_2 => cases read
    case h_1 text =>
      cases name : afterName? text with
      | none => simp [name] at read
      | some rest =>
          simp only [name] at read
          obtain ⟨name, rfl, isName, -⟩ := afterName?_eq_some_iff.1 name
          split at read
          case isTrue => cases read
          case isFalse noWord =>
            split at read
            case h_1 => cases read
            case h_2 c found skipped =>
              cases read
              obtain ⟨rfl, attributes, rfl, inside⟩ := Text.dropWhile_ne_eq_cons_iff.1 skipped
              refine ⟨_, ?_, .intro isName (isName.boundary_iff.2 ?_) inside⟩
              · simp
              · rwa [Bool.not_eq_true, head?_append_bracket] at noWord
  · rintro ⟨_, rfl, @⟨name, attributes, isName, boundary, inside⟩⟩
    have noWord := isName.boundary_iff.1 boundary
    rw [← head?_append_bracket attributes after] at noWord
    have read := afterName?_eq_some_iff.2 ⟨name, rfl, isName, noNameChar_of_noWordChar noWord⟩
    have skipped : ((attributes ++ '>' :: after).dropWhile fun c => c != '>') = '>' :: after :=
      Text.dropWhile_ne_eq_cons_iff.2 ⟨rfl, attributes, rfl, inside⟩
    simp only [List.cons_append, List.append_assoc, List.nil_append, openingEnd?, read, noWord,
      Bool.false_eq_true, if_false, skipped]

/-- An opening tag has one closing bracket, its last character. -/
theorem OpeningTag.eq_append (isOpening : OpeningTag opening) :
    ∃ inner, opening = inner ++ ['>'] ∧ '>' ∉ inner := by
  obtain @⟨name, attributes, isName, -, inside⟩ := isOpening
  refine ⟨'<' :: (name ++ attributes), by simp, ?_⟩
  simp only [List.mem_cons, List.mem_append, not_or]
  exact ⟨by decide, isName.not_mem_bracket, inside⟩

/-- A tag at the start of a text ends no later than any tag further on: otherwise the closing bracket
of the other would be inside the first. -/
theorem OpeningTag.suffix {first : List Char} (isFirst : OpeningTag first)
    (isOpening : OpeningTag opening) (split : first ++ after = before ++ (opening ++ rest)) :
    rest <:+ after := by
  obtain ⟨inner, rfl, free⟩ := isFirst.eq_append
  obtain ⟨body, rfl, -⟩ := isOpening.eq_append
  have split : inner ++ '>' :: after = (before ++ body) ++ '>' :: rest := by simpa using split
  rcases List.append_eq_append_iff.1 split with ⟨middle, longer, same⟩ | ⟨middle, shorter, same⟩
  · cases middle with
    | nil =>
        cases same
        exact List.suffix_refl _
    | cons c middle =>
        injection same with _ same
        exact ⟨middle ++ ['>'], by simp [same]⟩
  · cases middle with
    | nil =>
        cases same
        exact List.suffix_refl _
    | cons c middle =>
        injection same with isBracket
        exact absurd (by simp [shorter, ← isBracket]) free

/-- Somewhere in a text is an opening tag, which some text follows. -/
def Opens (text after : List Char) : Prop :=
  ∃ before opening, text = before ++ (opening ++ after) ∧ OpeningTag opening

theorem not_opens_nil : ¬Opens [] after := by
  rintro ⟨before, _, split, isOpening⟩
  obtain ⟨inner, rfl, -⟩ := isOpening.eq_append
  simp at split

/-- It is here or further on. -/
theorem opens_cons_iff {c : Char} :
    Opens (c :: text) after ↔ openingEnd? (c :: text) = some after ∨ Opens text after := by
  rw [openingEnd?_eq_some_iff]
  constructor
  · rintro ⟨before, opening, split, isOpening⟩
    cases before with
    | nil => exact .inl ⟨opening, split, isOpening⟩
    | cons d before =>
        injection split with _ split
        exact .inr ⟨before, opening, split, isOpening⟩
  · rintro (⟨opening, split, isOpening⟩ | ⟨before, opening, rfl, isOpening⟩)
    · exact ⟨[], opening, split, isOpening⟩
    · exact ⟨c :: before, opening, rfl, isOpening⟩

theorem firstOpening?_eq_none_iff : firstOpening? text = none ↔ ∀ after, ¬Opens text after := by
  induction text with
  | nil => simp [firstOpening?, not_opens_nil]
  | cons c text ih =>
      rw [firstOpening?]
      cases read : openingEnd? (c :: text) with
      | some after =>
          exact iff_of_false (by simp) fun never => never after (opens_cons_iff.2 (.inl read))
      | none => simp [opens_cons_iff, read, ih]

/-- What follows the first opening tag is all that can follow one. -/
theorem firstOpening?_eq_some (found : firstOpening? text = some after) :
    Opens text after ∧ ∀ rest, Opens text rest → rest <:+ after := by
  induction text with
  | nil => cases found
  | cons c text ih =>
      rw [firstOpening?] at found
      cases read : openingEnd? (c :: text) with
      | some first =>
          rw [read] at found
          cases found
          refine ⟨opens_cons_iff.2 (.inl read), ?_⟩
          rintro rest ⟨before, opening, split, isOpening⟩
          obtain ⟨tag, here, isFirst⟩ := openingEnd?_eq_some_iff.1 read
          exact isFirst.suffix isOpening (here.symm.trans split)
      | none =>
          rw [read] at found
          obtain ⟨opens, least⟩ := ih found
          refine ⟨opens_cons_iff.2 (.inr opens), fun rest others => ?_⟩
          rw [opens_cons_iff, read] at others
          exact least rest (others.resolve_left (by simp))

/-- The scanner reads a closing tag exactly if the text starts with one. -/
theorem closesHere_iff :
    closesHere text = true ↔ ∃ closing after, text = closing ++ after ∧ ClosingTag closing := by
  constructor
  · intro closes
    rw [closesHere.eq_def] at closes
    split at closes
    case h_2 => cases closes
    case h_1 text =>
      cases name : afterName? text with
      | none => simp [name] at closes
      | some rest =>
          simp only [name, beq_iff_eq] at closes
          obtain ⟨name, rfl, isName, -⟩ := afterName?_eq_some_iff.1 name
          obtain ⟨after, skipped⟩ := List.head?_eq_some_iff.1 closes
          obtain ⟨blank, rfl, isBlank, -⟩ := Text.dropWhile_eq_iff.1 skipped
          exact ⟨_, after, by simp, .intro isName isBlank⟩
  · rintro ⟨_, after, rfl, @⟨name, blank, isName, isBlank⟩⟩
    have stops : (blank ++ '>' :: after).head?.any isNameChar = false := by
      cases blank with
      | nil => exact rfl
      | cons c blank => exact isNameChar_eq_false_of_isSpace (isBlank c List.mem_cons_self)
    have read := afterName?_eq_some_iff.2 ⟨name, rfl, isName, stops⟩
    have skipped : (blank ++ '>' :: after).dropWhile Text.isSpace = '>' :: after :=
      Text.dropWhile_eq_iff.2 ⟨blank, rfl, isBlank, rfl⟩
    simp [closesHere, read, skipped]

end Reading

/-- The search finds an element exactly if there is one. -/
theorem hasElement_iff {text : List Char} : hasElement text = true ↔ HasElement text := by
  rw [hasElement]
  cases found : firstOpening? text with
  | none =>
      have never := firstOpening?_eq_none_iff.1 found
      simp only [Bool.false_eq_true, false_iff]
      rintro ⟨before, opening, between, closing, after, split, isOpening, -⟩
      exact never _ ⟨before, opening, split, isOpening⟩
  | some rest =>
      obtain ⟨⟨before, opening, split, isOpening⟩, least⟩ := firstOpening?_eq_some found
      simp only [Text.somewhere_iff, closesHere_iff]
      constructor
      · rintro ⟨between, _, rfl, closing, after, rfl, isClosing⟩
        exact ⟨before, opening, between, closing, after, split, isOpening, isClosing⟩
      · rintro ⟨before, opening, between, closing, after, split, isOpening, isClosing⟩
        obtain ⟨more, rfl⟩ := least _ ⟨before, opening, split, isOpening⟩
        exact ⟨more ++ between, closing ++ after, by simp, closing, after, rfl, isClosing⟩

/-! ### The pattern -/

section Element

open Pattern (Matches)

variable {before part after : List Char}

/-- `[a-zA-Z][a-zA-Z0-9]*` -/
def tagNamePattern : Pattern := .seq (.one isLetter) (.many (.one isNameChar))

/-- `<([a-zA-Z][a-zA-Z0-9]*)\b[^>]*>` -/
def openingTagPattern : Pattern :=
  .sequence [.char '<', tagNamePattern, .boundary, .many (.not '>'), .char '>']

/-- `</([a-zA-Z][a-zA-Z0-9]*)\s*>` -/
def closingTagPattern : Pattern :=
  .sequence [.char '<', .char '/', tagNamePattern, .many (.one Text.isSpace), .char '>']

/-- The two tags with anything between them, line feeds included. -/
def elementPattern : Pattern :=
  .sequence [openingTagPattern, .many (.one fun _ => true), closingTagPattern]

theorem matches_tagName : Matches tagNamePattern before part after ↔ TagName part := by
  rw [tagNamePattern, Pattern.matches_seq]
  constructor
  · rintro ⟨_, name, rfl, matchesLetter, matchesRest⟩
    obtain ⟨c, rfl, letter⟩ := Pattern.matches_one.1 matchesLetter
    have chars := Pattern.matches_many_one.1 matchesRest
    exact ⟨letter, List.forall_mem_cons.2 ⟨isNameChar_of_isLetter letter, chars⟩⟩
  · rintro ⟨letter, chars⟩
    cases part with
    | nil => exact absurd letter Bool.false_ne_true
    | cons c name =>
        exact ⟨[c], name, rfl, .one letter,
          Pattern.matches_many_one.2 (List.forall_mem_cons.1 chars).2⟩

/-- A name is not empty, so what stands before it does not matter to the boundary at its end. -/
theorem TagName.getLast?_append {name : List Char} (isName : TagName name) (before : List Char) :
    (before ++ name).getLast? = name.getLast? := by
  cases name with
  | nil => exact absurd isName.letter Bool.false_ne_true
  | cons c name => rw [List.getLast?_append, List.getLast?_cons, Option.some_or]

theorem matches_openingTag : Matches openingTagPattern before part after ↔ OpeningTag part := by
  simp only [openingTagPattern, Pattern.sequence, Pattern.matches_seq, matches_tagName,
    Pattern.matches_boundary, Pattern.matches_many_not, Pattern.matches_char, Pattern.matches_empty]
  constructor
  · rintro ⟨_, _, rfl, rfl, name, _, rfl, isName, _, _, rfl, ⟨rfl, boundary⟩, attributes, _, rfl,
      inside, _, _, rfl, rfl, rfl⟩
    rw [isName.getLast?_append] at boundary
    refine .intro isName ?_ inside
    simpa [head?_append_bracket] using boundary
  · rintro @⟨name, attributes, isName, boundary, inside⟩
    refine ⟨['<'], _, rfl, rfl, name, _, rfl, isName, [], _, rfl, ⟨rfl, ?_⟩, attributes, _, rfl,
      inside, ['>'], [], rfl, rfl, rfl⟩
    rw [isName.getLast?_append]
    simpa [head?_append_bracket] using boundary

theorem matches_closingTag : Matches closingTagPattern before part after ↔ ClosingTag part := by
  simp only [closingTagPattern, Pattern.sequence, Pattern.matches_seq, matches_tagName,
    Pattern.matches_many_one, Pattern.matches_char, Pattern.matches_empty]
  constructor
  · rintro ⟨_, _, rfl, rfl, _, _, rfl, rfl, name, _, rfl, isName, blank, _, rfl, isBlank,
      _, _, rfl, rfl, rfl⟩
    exact .intro isName isBlank
  · rintro @⟨name, blank, isName, isBlank⟩
    exact ⟨['<'], _, rfl, rfl, ['/'], _, rfl, rfl, name, _, rfl, isName, blank, _, rfl, isBlank,
      ['>'], [], rfl, rfl, rfl⟩

/-- The pattern is found exactly in the texts with an element. -/
theorem found_elementPattern_iff {text : List Char} : elementPattern.Found text ↔ HasElement text := by
  simp only [Pattern.Found, elementPattern, Pattern.sequence, Pattern.matches_seq,
    matches_openingTag, matches_closingTag, Pattern.matches_many_one, Pattern.matches_empty,
    implies_true, true_and]
  constructor
  · rintro ⟨before, _, after, rfl, opening, _, rfl, isOpening, between, _, rfl, closing, _, rfl,
      isClosing, rfl⟩
    exact ⟨before, opening, between, closing, after, by simp, isOpening, isClosing⟩
  · rintro ⟨before, opening, between, closing, after, rfl, isOpening, isClosing⟩
    exact ⟨before, opening ++ (between ++ (closing ++ [])), after, by simp, opening, _, rfl,
      isOpening, between, _, rfl, closing, [], rfl, isClosing, rfl⟩

end Element

end Parley.Html
