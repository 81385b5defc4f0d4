/-
Module: Parley.Proofs.Text.Pattern
Layer: Proofs
Purpose: Regular patterns over characters and which part of a text they match.  A match is relative
  to the text before and after it, because word boundaries and starts of lines look there.  Nothing
  here says how a match is looked for: a pattern is found in a text if any part of it matches.
Main exports: Pattern, Pattern.Matches, Pattern.Found, Pattern.matches_seq, Pattern.matches_many_one,
  Pattern.matches_some_one, Pattern.matches_some_not, Pattern.matches_upTo_one
-/
import Parley.Proofs.Text.Search

namespace Parley

/-- Regular patterns. -/
inductive Pattern where
  /-- The empty text. -/
  | empty
  /-- One character of a class. -/
  | one (allowed : Char → Bool)
  /-- The empty text at a word boundary. -/
  | boundary
  /-- The empty text at the start of a line. -/
  | lineStart
  /-- One pattern after another. -/
  | seq (first second : Pattern)
  /-- One of two patterns. -/
  | either (left right : Pattern)
  /-- Any number of matches of a pattern, one after another. -/
  | many (each : Pattern)

namespace Pattern

/-- One given character. -/
def char (c : Char) : Pattern := .one (· == c)

/-- One character other than a given one. -/
def not (c : Char) : Pattern := .one (· != c)

/-- One or more matches of a pattern. -/
def some (each : Pattern) : Pattern := .seq each (.many each)

/-- At most so many matches of a pattern. -/
def upTo (each : Pattern) : Nat → Pattern
  | 0 => .empty
  | count + 1 => .either .empty (.seq each (upTo each count))

/-- One match of a pattern and at most so many further ones. -/
def oneAnd (each : Pattern) (further : Nat) : Pattern := .seq each (upTo each further)

/-- Several patterns one after another. -/
def sequence : List Pattern → Pattern
  | [] => .empty
  | first :: rest => .seq first (sequence rest)

/-- One of several patterns. -/
def choice (first : Pattern) : List Pattern → Pattern
  | [] => first
  | second :: rest => .either first (choice second rest)

/-- Whether a pattern matches a part of a text, given the text before and after the part. -/
inductive Matches : Pattern → (before part after : List Char) → Prop where
  | empty {before after} : Matches .empty before [] after
  | one {allowed before c after} (isAllowed : allowed c = true) :
      Matches (.one allowed) before [c] after
  | boundary {before after} (isBoundary : Text.isWordBoundary before.getLast? after.head? = true) :
      Matches .boundary before [] after
  | lineStart {before after} (isStart : Text.LineStart before) : Matches .lineStart before [] after
  | seq {first second before one two after} (matchesFirst : Matches first before one (two ++ after))
      (matchesSecond : Matches second (before ++ one) two after) :
      Matches (.seq first second) before (one ++ two) after
  | left {left right before part after} (matchesLeft : Matches left before part after) :
      Matches (.either left right) before part after
  | right {left right before part after} (matchesRight : Matches right before part after) :
      Matches (.either left right) before part after
  | done {each before after} : Matches (.many each) before [] after
  | more {each before one two after} (matchesOne : Matches each before one (two ++ after))
      (matchesRest : Matches (.many each) (before ++ one) two after) :
      Matches (.many each) before (one ++ two) after

/-- Whether some part of a text matches. -/
def Found (pattern : Pattern) (text : List Char) : Prop :=
  ∃ before part after, text = before ++ part ++ after ∧ Matches pattern before part after

section Matches

variable {first second left right each : Pattern} {allowed : Char → Bool}
  {before part after : List Char}

@[simp] theorem matches_empty : Matches .empty before part after ↔ part = [] := by
  constructor
  · rintro ⟨⟩
    rfl
  · rintro rfl
    exact .empty

@[simp] theorem matches_one :
    Matches (.one allowed) before part after ↔ ∃ c, part = [c] ∧ allowed c = true := by
  constructor
  · rintro ⟨⟩
    exact ⟨_, rfl, ‹_›⟩
  · rintro ⟨c, rfl, isAllowed⟩
    exact .one isAllowed

@[simp] theorem matches_char {c : Char} : Matches (char c) before part after ↔ part = [c] := by
  rw [char, matches_one]
  simp

@[simp] theorem matches_boundary :
    Matches .boundary before part after ↔
      part = [] ∧ Text.isWordBoundary before.getLast? after.head? = true := by
  constructor
  · rintro ⟨⟩
    exact ⟨rfl, ‹_›⟩
  · rintro ⟨rfl, isBoundary⟩
    exact .boundary isBoundary

@[simp] theorem matches_lineStart :
    Matches .lineStart before part after ↔ part = [] ∧ Text.LineStart before := by
  constructor
  · rintro ⟨⟩
    exact ⟨rfl, ‹_›⟩
  · rintro ⟨rfl, isStart⟩
    exact .lineStart isStart

theorem matches_seq :
    Matches (.seq first second) before part after ↔
      ∃ one two, part = one ++ two ∧ Matches first before one (two ++ after) ∧
        Matches second (before ++ one) two after := by
  constructor
  · rintro ⟨⟩
    exact ⟨_, _, rfl, ‹_›, ‹_›⟩
  · rintro ⟨one, two, rfl, matchesFirst, matchesSecond⟩
    exact .seq matchesFirst matchesSecond

@[simp] theorem matches_either :
    Matches (.either left right) before part after ↔
      Matches left before part after ∨ Matches right before part after := by
  constructor
  · rintro ⟨⟩
    · exact .inl ‹_›
    · exact .inr ‹_›
  · rintro (matchesLeft | matchesRight)
    · exact .left matchesLeft
    · exact .right matchesRight

/-! ### Repetitions of one character -/

/-- Any number of characters of a class. -/
@[simp] theorem matches_many_one :
    Matches (.many (.one allowed)) before part after ↔ ∀ c ∈ part, allowed c = true := by
  constructor
  · generalize asks : Pattern.many (.one allowed) = pattern
    intro isMatch
    induction isMatch with
    | done => simp
    | more matchesOne _ _ ih =>
        cases asks
        obtain ⟨c, rfl, isAllowed⟩ := matches_one.1 matchesOne
        simpa [isAllowed] using ih rfl
    | _ => cases asks
  · intro all
    induction part generalizing before with
    | nil => exact .done
    | cons c part ih =>
        have isAllowed := all c List.mem_cons_self
        have rest : Matches (.many (.one allowed)) (before ++ [c]) part after :=
          ih fun d member => all d (List.mem_cons_of_mem _ member)
        exact .more (.one isAllowed) rest

@[simp] theorem matches_some_one :
    Matches (some (.one allowed)) before part after ↔
      part ≠ [] ∧ ∀ c ∈ part, allowed c = true := by
  rw [some, matches_seq]
  constructor
  · rintro ⟨_, two, rfl, matchesOne, matchesRest⟩
    obtain ⟨c, rfl, isAllowed⟩ := matches_one.1 matchesOne
    simpa [isAllowed] using matches_many_one.1 matchesRest
  · rintro ⟨nonempty, all⟩
    obtain ⟨c, two, rfl⟩ := List.exists_cons_of_ne_nil nonempty
    obtain ⟨isAllowed, rest⟩ := List.forall_mem_cons.1 all
    exact ⟨[c], two, rfl, .one isAllowed, matches_many_one.2 rest⟩

/-- Any number of characters other than a given one. -/
@[simp] theorem matches_many_not {c : Char} :
    Matches (.many (.not c)) before part after ↔ c ∉ part := by
  rw [Pattern.not, matches_many_one, Text.forall_bne_iff]

@[simp] theorem matches_some_not {c : Char} :
    Matches (some (.not c)) before part after ↔ part ≠ [] ∧ c ∉ part := by
  rw [Pattern.not, matches_some_one, Text.forall_bne_iff]

@[simp] theorem matches_upTo_one {count : Nat} :
    Matches (upTo (.one allowed) count) before part after ↔
      part.length ≤ count ∧ ∀ c ∈ part, allowed c = true := by
  induction count generalizing before part with
  | zero =>
      rw [upTo, matches_empty]
      cases part <;> simp
  | succ count ih =>
      rw [upTo, matches_either, matches_empty, matches_seq]
      constructor
      · rintro (rfl | ⟨_, two, rfl, matchesOne, matchesRest⟩)
        · simp
        · obtain ⟨c, rfl, isAllowed⟩ := matches_one.1 matchesOne
          simpa [isAllowed] using ih.1 matchesRest
      · rintro ⟨short, all⟩
        cases part with
        | nil => exact .inl rfl
        | cons c two =>
            obtain ⟨isAllowed, rest⟩ := List.forall_mem_cons.1 all
            exact .inr ⟨[c], two, rfl, .one isAllowed, ih.2 ⟨Nat.le_of_succ_le_succ short, rest⟩⟩

@[simp] theorem matches_oneAnd_one {further : Nat} :
    Matches (oneAnd (.one allowed) further) before part after ↔
      part ≠ [] ∧ part.length ≤ further + 1 ∧ ∀ c ∈ part, allowed c = true := by
  rw [oneAnd, matches_seq]
  constructor
  · rintro ⟨_, two, rfl, matchesOne, matchesRest⟩
    obtain ⟨c, rfl, isAllowed⟩ := matches_one.1 matchesOne
    simpa [isAllowed] using matches_upTo_one.1 matchesRest
  · rintro ⟨nonempty, short, all⟩
    obtain ⟨c, two, rfl⟩ := List.exists_cons_of_ne_nil nonempty
    obtain ⟨isAllowed, rest⟩ := List.forall_mem_cons.1 all
    exact ⟨[c], two, rfl, .one isAllowed,
      matches_upTo_one.2 ⟨Nat.le_of_succ_le_succ short, rest⟩⟩

end Matches

end Pattern

end Parley
