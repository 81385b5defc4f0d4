/-
Module: Parley.Text.Search
Layer: Text
Purpose: Looking for a place in a text: any place, or the start of any line.
Main exports: Text.somewhere, Text.atSomeLine
-/

namespace Parley.Text

/-- Whether the text from some place on passes a test. -/
def somewhere (test : List Char → Bool) : List Char → Bool
  | [] => test []
  | c :: rest => test (c :: rest) || somewhere test rest

/-- Whether the text after some line feed passes a test. -/
def afterSomeFeed (test : List Char → Bool) : List Char → Bool
  | [] => false
  | c :: rest => (c == '\n' && test rest) || afterSomeFeed test rest

/-- Whether the text from some line start on passes a test; a text starts with a line start. -/
def atSomeLine (test : List Char → Bool) (text : List Char) : Bool :=
  test text || afterSomeFeed test text

/-- What follows a given start, if the text has it. -/
def after? : List Char → List Char → Option (List Char)
  | [], text => some text
  | _ :: _, [] => none
  | c :: start, d :: text => if c = d then after? start text else none

/-- `somewhere` finds a place exactly if there is one. -/
theorem somewhere_iff {test : List Char → Bool} {text : List Char} :
    somewhere test text = true ↔ ∃ before rest, text = before ++ rest ∧ test rest = true := by
  induction text with
  | nil =>
      constructor
      · intro found
        exact ⟨[], [], rfl, found⟩
      · rintro ⟨before, rest, split, found⟩
        obtain ⟨rfl, rfl⟩ := List.append_eq_nil_iff.1 split.symm
        exact found
  | cons c text ih =>
      rw [somewhere, Bool.or_eq_true, ih]
      constructor
      · rintro (found | ⟨before, rest, rfl, found⟩)
        · exact ⟨[], _, rfl, found⟩
        · exact ⟨c :: before, rest, rfl, found⟩
      · rintro ⟨before, rest, split, found⟩
        cases before with
        | nil => exact .inl (by rw [List.nil_append] at split; rw [split]; exact found)
        | cons d before =>
            injection split with _ split
            exact .inr ⟨before, rest, split, found⟩

end Parley.Text
