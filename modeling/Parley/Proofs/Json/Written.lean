/-
Module: Parley.Proofs.Json.Written
Layer: Proofs
Purpose: Documents that were printed are read back: text, natural numbers, lists and records, each
  from the written forms of its parts.  Compact forms are without control characters.
Main exports: Json.Tells, Json.Writes, Json.Writes.parse?, Json.writes_quoted, Json.writes_natChars,
  Json.writes_listChars, Json.writes_prettyTexts, Json.writes_recordChars, Json.visible_listChars,
  Json.visible_recordChars
-/
import Parley.Json.Document
import Parley.Proofs.Json.Literals

namespace Parley.Json

open Document (Frame Reader close steps step startValue)

/-- Where a value is due, reading the words finishes the document and no more. -/
def Tells (tokens : List Token) (document : Document) : Prop :=
  ∀ frames more, steps ⟨frames, .value⟩ (tokens ++ more) = steps (close frames document) more

/-- A written form of a document. -/
def Writes (text : List Char) (document : Document) : Prop :=
  ∃ tokens, Spells text tokens ∧ Tells tokens document

/-- A written form is read back. -/
theorem Writes.parse? {text : List Char} {document : Document} (writes : Writes text document) :
    Document.parse? (String.ofList text) = some document := by
  obtain ⟨tokens, spells, tells⟩ := writes
  have read := tells [] []
  rw [List.append_nil] at read
  simp [Document.parse?, spells.ofChars?, Document.ofTokens?, read, close, steps]

theorem writes_quoted (text : String) : Writes (quoted text) (.text (some text)) :=
  ⟨_, spells_quoted text, fun _ _ => rfl⟩

theorem writes_natChars {n : Nat} (fits : n ≤ greatestSignificand) :
    Writes (natChars n) (.number (some (.int n))) :=
  ⟨_, spells_natChars fits, fun _ _ => rfl⟩

theorem Writes.blanks {blanks text : List Char} {document : Document}
    (all : ∀ c ∈ blanks, isBlank c = true) (writes : Writes text document) :
    Writes (blanks ++ text) document := by
  obtain ⟨tokens, spells, tells⟩ := writes
  exact ⟨tokens, spells.blanks all, tells⟩

/-! ### Lists -/

/-- What tells a document does not start by ending a list. -/
theorem Tells.head {tokens : List Token} {document : Document} (tells : Tells tokens document) :
    ∃ token others, tokens = token :: others ∧ token ≠ .bracketClose := by
  have read := tells [] []
  rw [List.append_nil] at read
  cases tokens with
  | nil => simp [steps, close] at read
  | cons token others =>
      refine ⟨token, others, rfl, ?_⟩
      rintro rfl
      simp [steps, step, startValue, close] at read

theorem stops_blanks {blanks : List Char} (all : ∀ c ∈ blanks, isBlank c = true) {text : List Char}
    (stops : Stops text) : Stops (blanks ++ text) := by
  cases blanks with
  | nil => exact stops
  | cons c blanks =>
      have blank := all c List.mem_cons_self
      simp only [isBlank, Bool.or_eq_true, decide_eq_true_eq] at blank
      apply stops_cons
      rcases blank with ((rfl | rfl) | rfl) | rfl
      · decide
      · decide
      · decide
      · decide

section Lists

variable {α : Type} {text : α → List Char} {document : α → Document} {blanks : List Char}

/-- The items of a list from the first one on, up to the end of the list. -/
theorem spells_items (allBlank : ∀ c ∈ blanks, isBlank c = true) (first : α) (others : List α)
    (writes : ∀ item ∈ first :: others, Writes (text item) (document item)) :
    ∃ tokens, Spells (separated ((first :: others).map text) ++ (blanks ++ [']'])) tokens ∧
      (∃ token more, tokens = token :: more ∧ token ≠ .bracketClose) ∧
      ∀ done outer more, steps ⟨.list done :: outer, .value⟩ (tokens ++ more) =
        steps (close outer (.list (done.reverse ++ (first :: others).map document))) more := by
  obtain ⟨tokens, spells, tells⟩ := writes first List.mem_cons_self
  obtain ⟨token, rest, starts, notClose⟩ := tells.head
  induction others generalizing first tokens token rest with
  | nil =>
      have ends : Spells (blanks ++ [']']) [.bracketClose] :=
        (spells_nil.mark (by decide) fun _ => rfl).blanks allBlank
      refine ⟨tokens ++ [.bracketClose], ?_, ⟨token, rest ++ [.bracketClose], ?_, notClose⟩, ?_⟩
      · refine spells.append ends fun rest _ => ?_
        rw [List.append_assoc]
        exact stops_blanks allBlank (stops_cons _ (by decide))
      · rw [starts, List.cons_append]
      · intro done outer more
        rw [List.append_assoc, tells]
        simp [close, steps, step]
  | cons second others ih =>
      obtain ⟨later, laterSpells, laterTells⟩ := writes second (by simp)
      obtain ⟨laterToken, laterRest, laterStarts, laterNotClose⟩ := laterTells.head
      obtain ⟨middle, middleSpells, -, middleSteps⟩ := ih second
        (fun item member => writes item (List.mem_cons_of_mem _ member)) later laterSpells
        laterTells laterToken laterRest laterStarts laterNotClose
      refine ⟨tokens ++ (.comma :: middle), ?_, ⟨token, rest ++ (.comma :: middle), ?_, notClose⟩,
        ?_⟩
      · have goesOn := middleSpells.mark (c := ',') (by decide) fun _ => rfl
        have all := spells.append goesOn fun _ _ => stops_cons _ (by decide)
        simpa [separated] using all
      · rw [starts, List.cons_append]
      · intro done outer more
        rw [List.append_assoc, tells]
        simp [close, steps, step, middleSteps]

/-- A list is read back from the written forms of its items.  Blanks may stand before its end. -/
theorem writes_list (allBlank : ∀ c ∈ blanks, isBlank c = true) (items : List α)
    (writes : ∀ item ∈ items, Writes (text item) (document item)) :
    Writes ('[' :: (separated (items.map text) ++ (blanks ++ [']'])))
      (.list (items.map document)) := by
  cases items with
  | nil =>
      have ends : Spells (blanks ++ [']']) [.bracketClose] :=
        (spells_nil.mark (by decide) fun _ => rfl).blanks allBlank
      exact ⟨_, ends.mark (by decide) fun _ => rfl, fun _ _ => rfl⟩
  | cons first others =>
      obtain ⟨tokens, spells, ⟨token, rest, rfl, notClose⟩, read⟩ :=
        spells_items allBlank first others writes
      refine ⟨_, spells.mark (by decide) fun _ => rfl, ?_⟩
      intro frames more
      -- Where the first item is due, its first word is taken as where any value is due.
      have sameStep : step ⟨.list [] :: frames, .item⟩ token =
          step ⟨.list [] :: frames, .value⟩ token := by
        cases token with
        | bracketClose => exact absurd rfl notClose
        | _ => rfl
      have read := read [] frames more
      rw [List.cons_append, steps] at read
      rw [List.cons_append, List.cons_append, steps]
      simp only [step, startValue]
      rw [steps, sameStep, read]
      rfl

theorem writes_listChars (items : List α)
    (writes : ∀ item ∈ items, Writes (text item) (document item)) :
    Writes (listChars (items.map text)) (.list (items.map document)) :=
  writes_list (show ∀ c ∈ [], isBlank c = true by simp) items writes

end Lists

/-- A list of texts is read back from its form with one text a line. -/
theorem writes_prettyTexts (texts : List String) :
    Writes (prettyTexts texts) (.list (texts.map fun text => .text (some text))) := by
  cases texts with
  | nil =>
      have each : ∀ text ∈ [], Writes (quoted text) (.text (some text)) := by simp
      exact writes_listChars [] each
  | cons first others =>
      have lines : ∀ text ∈ first :: others,
          Writes (['\n', ' ', ' '] ++ quoted text) (.text (some text)) :=
        fun text _ => (writes_quoted text).blanks (by simp [isBlank])
      have blank : ∀ c ∈ ['\n'], isBlank c = true := by simp [isBlank]
      exact writes_list blank (first :: others) lines

/-! ### Records -/

/-- A member of a record: its name, its written value and its value. -/
abbrev WrittenMember : Type := String × List Char × Document

/-- The members of a record from the first one on, up to the end of the record. -/
theorem spells_members (first : WrittenMember) (others : List WrittenMember)
    (writes : ∀ member ∈ first :: others, Writes member.2.1 member.2.2) :
    ∃ tokens, Spells (separated ((first :: others).map fun member =>
        quoted member.1 ++ ':' :: member.2.1) ++ ['}']) (.text (some first.1) :: tokens) ∧
      ∀ done outer more, steps ⟨outer, .colon done (some first.1)⟩ (tokens ++ more) =
        steps (close outer (.record (done.reverse ++
          (first :: others).map fun member => (some member.1, member.2.2)))) more := by
  obtain ⟨tokens, valueSpells, tells⟩ := writes first List.mem_cons_self
  have spells : Spells (quoted first.1 ++ ':' :: first.2.1)
      (.text (some first.1) :: .colon :: tokens) :=
    (spells_quoted first.1).append (valueSpells.mark (c := ':') (by decide) fun _ => rfl)
      fun _ _ => stops_cons _ (by decide)
  induction others generalizing first tokens with
  | nil =>
      refine ⟨.colon :: tokens ++ [.braceClose], ?_, ?_⟩
      · have ends : Spells ['}'] [.braceClose] := spells_nil.mark (by decide) fun _ => rfl
        exact spells.append ends fun _ _ => stops_cons _ (by decide)
      · intro done outer more
        rw [List.append_assoc, List.cons_append, steps]
        simp only [step]
        rw [tells]
        simp [close, steps, step]
  | cons second others ih =>
      obtain ⟨later, laterValueSpells, laterTells⟩ := writes second (by simp)
      have laterSpells : Spells (quoted second.1 ++ ':' :: second.2.1)
          (.text (some second.1) :: .colon :: later) :=
        (spells_quoted second.1).append
          (laterValueSpells.mark (c := ':') (by decide) fun _ => rfl)
          fun _ _ => stops_cons _ (by decide)
      obtain ⟨middle, middleSpells, middleSteps⟩ := ih second
        (fun member isMember => writes member (List.mem_cons_of_mem _ isMember)) later
        laterValueSpells laterTells laterSpells
      refine ⟨.colon :: tokens ++ (.comma :: .text (some second.1) :: middle), ?_, ?_⟩
      · have goesOn := middleSpells.mark (c := ',') (by decide) fun _ => rfl
        have all := spells.append goesOn fun _ _ => stops_cons _ (by decide)
        simpa [separated] using all
      · intro done outer more
        rw [List.append_assoc, List.cons_append, steps]
        simp only [step]
        rw [tells]
        simp [close, steps, step, middleSteps]

/-- A record is read back from its names and the written forms of its members. -/
theorem writes_recordChars (members : List WrittenMember)
    (writes : ∀ member ∈ members, Writes member.2.1 member.2.2) :
    Writes (recordChars (members.map fun member => (member.1, member.2.1)))
      (.record (members.map fun member => (some member.1, member.2.2))) := by
  unfold recordChars
  rw [List.map_map]
  cases members with
  | nil =>
      have ends : Spells ['}'] [.braceClose] := spells_nil.mark (by decide) fun _ => rfl
      exact ⟨_, ends.mark (by decide) fun _ => rfl, fun _ _ => rfl⟩
  | cons first others =>
      obtain ⟨tokens, spells, read⟩ := spells_members first others writes
      refine ⟨_, spells.mark (by decide) fun _ => rfl, ?_⟩
      intro frames more
      exact read [] frames more

/-! ### Control characters -/

theorem visible_separated {texts : List (List Char)} (all : ∀ text ∈ texts, Visible text) :
    Visible (separated texts) := by
  induction texts with
  | nil => simp [separated, Visible]
  | cons first others ih =>
      have firstVisible := all first List.mem_cons_self
      have othersVisible := ih fun text member => all text (List.mem_cons_of_mem _ member)
      cases others with
      | nil => exact firstVisible
      | cons second others =>
          exact visible_append.2 ⟨firstVisible, visible_cons.2 ⟨by decide, othersVisible⟩⟩

theorem visible_listChars {items : List (List Char)} (all : ∀ item ∈ items, Visible item) :
    Visible (listChars items) := by
  have ends : Visible [']'] := by simp [Visible]
  exact visible_cons.2 ⟨by decide, visible_append.2 ⟨visible_separated all, ends⟩⟩

theorem visible_recordChars {fields : List (String × List Char)}
    (all : ∀ field ∈ fields, Visible field.2) : Visible (recordChars fields) := by
  have ends : Visible ['}'] := by simp [Visible]
  refine visible_cons.2 ⟨by decide, visible_append.2 ⟨visible_separated ?_, ends⟩⟩
  intro text member
  obtain ⟨field, isField, rfl⟩ := List.mem_map.1 member
  exact visible_append.2 ⟨visible_quoted field.1, visible_cons.2 ⟨by decide, all field isField⟩⟩

end Parley.Json
