/-
Module: Parley.Proofs.Json.Reading
Layer: Proofs
Purpose: What the values that are read off text have in common, whatever the text is: their integers
  fit 64 bits and their records are in key order.  Numbers are read within these bounds, and nothing
  that the reader does with words changes them.
Main exports: Json.parts, Json.Throughout, Json.Regular, Json.Literal.value?_inRange,
  Json.Document.steps_inRange, Json.parse?_regular
-/
import Mathlib.Algebra.Group.Int.Defs
import Parley.Json.Document
import Parley.Proofs.Dictionary

namespace Parley.Json

/-! ### Values and their parts -/

/-- The items of a list, and the values of a record. -/
def parts : Json → List Json
  | .arr items => items
  | .obj fields => fields.map (·.2)
  | _ => []

/-- A property of a value and of all values in it. -/
inductive Throughout (holds : Json → Prop) : Json → Prop where
  | intro {value : Json} :
      holds value → (∀ part ∈ value.parts, Throughout holds part) → Throughout holds value

section Throughout

variable {holds : Json → Prop} {value : Json}

theorem Throughout.here (all : Throughout holds value) : holds value := by
  obtain ⟨here, -⟩ := all
  exact here

theorem Throughout.part (all : Throughout holds value) {part : Json} (isPart : part ∈ value.parts) :
    Throughout holds part := by
  obtain ⟨-, below⟩ := all
  exact below part isPart

theorem Throughout.field {fields : Json.Object} (all : Throughout holds (.obj fields))
    {entry : String × Json} (member : entry ∈ fields) : Throughout holds entry.2 :=
  all.part (List.mem_map_of_mem member)

end Throughout

/-- The integers of 64 bits, with a sign or without. -/
def Fits64 (n : Int) : Prop := -2 ^ 63 ≤ n ∧ n < 2 ^ 64

/-- What every value has that is read off text: an integer is one of 64 bits, and a record is in key
order. -/
structure Regular (value : Json) : Prop where
  inRange : ∀ n, value = .int n → Fits64 n
  inOrder : ∀ fields, value = .obj fields → Dictionary.Sorted fields

/-- A value that is no integer and has no parts. -/
theorem regular_leaf {value : Json} (notInt : ∀ n, value ≠ .int n)
    (notObject : ∀ fields, value ≠ .obj fields) (noParts : value.parts = []) :
    Throughout Regular value :=
  .intro ⟨fun n same => absurd same (notInt n), fun fields same => absurd same (notObject fields)⟩
    (by simp [noParts])

theorem regular_int {n : Int} (fits : Fits64 n) : Throughout Regular (.int n) :=
  .intro ⟨fun _ same => Json.int.inj same ▸ fits, by simp⟩ (by simp [parts])

theorem regular_str (text : String) : Throughout Regular (.str text) :=
  regular_leaf (by simp) (by simp) rfl

theorem regular_list {items : List Json} (each : ∀ item ∈ items, Throughout Regular item) :
    Throughout Regular (.arr items) :=
  .intro ⟨by simp, by simp⟩ each

theorem regular_record {fields : Json.Object} (sorted : Dictionary.Sorted fields)
    (each : ∀ field ∈ fields, Throughout Regular field.2) : Throughout Regular (.obj fields) :=
  .intro ⟨by simp, fun _ same => Json.obj.inj same ▸ sorted⟩ (List.forall_mem_map.2 each)

/-! ### Numbers -/

/-- A numeral that is an integer is one of 64 bits. -/
def Numeral.InRange (numeral : Numeral) : Prop := ∀ n, numeral = .int n → Fits64 n

theorem appendDigits_le {start : Nat} (fits : start ≤ greatestSignificand) (digits : List Nat) :
    (appendDigits start digits).1 ≤ greatestSignificand := by
  induction digits generalizing start with
  | nil => exact fits
  | cons digit digits ih =>
      rw [appendDigits]
      split
      · next fitsToo => exact ih fitsToo
      · exact fits

theorem Literal.significand_le (l : Literal) : l.significand.1 ≤ greatestSignificand := by
  have start := appendDigits_le (Nat.zero_le greatestSignificand) l.whole
  rw [significand]
  cases l.fraction with
  | none => exact start
  | some digits => exact appendDigits_le start digits

theorem Literal.value?_inRange {l : Literal} {numeral : Numeral}
    (found : l.value? = some numeral) : numeral.InRange := by
  have least := l.significand_le
  have bound : greatestSignificand = 2 ^ 64 - 1 := rfl
  have power : Nat.pow 2 63 = 2 ^ 63 := rfl
  rintro n rfl
  simp only [Literal.value?] at found
  split at found
  · split at found
    · cases found
      exact ⟨by omega, by omega⟩
    · split at found
      · cases found
        exact ⟨by omega, by omega⟩
      · simp at found
  · split at found
    · simp at found
    · split at found
      · simp at found
      · split at found
        · cases found
        · cases found

/-! ### Words -/

/-- A word that is an integer is one of 64 bits. -/
def Token.InRange (token : Token) : Prop :=
  ∀ numeral, token = .number (some numeral) → numeral.InRange

theorem Token.inRange_number (l : Literal) : Token.InRange (.number l.value?) := by
  intro numeral same
  cases found : l.value? with
  | none => simp [found] at same
  | some other =>
      simp only [found, Token.number.injEq, Option.some.injEq] at same
      exact same ▸ Literal.value?_inRange found

theorem nextToken?_inRange {text rest : List Char} {token : Token}
    (found : nextToken? text = some (token, rest)) : token.InRange := by
  unfold nextToken? at found
  split at found
  all_goals
    simp only [Option.map_eq_some_iff, Option.some.injEq, Prod.mk.injEq] at found
  case h_11 | h_12 =>
    obtain ⟨_, -, rfl, -⟩ := found
    exact Token.inRange_number _
  case h_10 =>
    obtain ⟨_, -, rfl, -⟩ := found
    exact fun _ other => nomatch other
  all_goals
    obtain ⟨rfl, -⟩ := found
    exact fun _ other => nomatch other

theorem scanTokens_inRange {done tokens : List Token} {fuel : Nat} {text : List Char}
    (inRange : ∀ token ∈ done, token.InRange) (found : scanTokens done fuel text = some tokens) :
    ∀ token ∈ tokens, token.InRange := by
  induction fuel generalizing done text with
  | zero =>
      cases text with
      | nil =>
          cases found
          exact inRange
      | cons c text => cases found
  | succ fuel ih =>
      cases text with
      | nil =>
          cases found
          exact inRange
      | cons c text =>
          rw [scanTokens] at found
          split at found
          · exact ih inRange found
          · split at found
            · next read =>
                exact ih (List.forall_mem_cons.2 ⟨nextToken?_inRange read, inRange⟩) found
            · cases found

theorem Token.ofChars?_inRange {text : List Char} {tokens : List Token}
    (found : Token.ofChars? text = some tokens) : ∀ token ∈ tokens, token.InRange := by
  obtain ⟨reversed, scanned, rfl⟩ := Option.map_eq_some_iff.1 found
  intro token member
  exact scanTokens_inRange (by simp) scanned token (List.mem_reverse.1 member)

/-! ### Documents -/

namespace Document

/-- The integers in a document are of 64 bits. -/
inductive InRange : Document → Prop where
  | null : InRange .null
  | bool (value : Bool) : InRange (.bool value)
  | number {value? : Option Numeral} :
      (∀ numeral, value? = some numeral → numeral.InRange) → InRange (.number value?)
  | notFinite : InRange .notFinite
  | text (value? : Option String) : InRange (.text value?)
  | list {items : List Document} : (∀ item ∈ items, InRange item) → InRange (.list items)
  | record {members : List (Option String × Document)} :
      (∀ member ∈ members, InRange member.2) → InRange (.record members)

/-- The integers in an open list or record are of 64 bits. -/
def Frame.InRange : Frame → Prop
  | .list items => ∀ item ∈ items, Document.InRange item
  | .record members _ => ∀ member ∈ members, Document.InRange member.2

/-- The integers that a phase holds are of 64 bits. -/
def Phase.InRange : Phase → Prop
  | .key members => ∀ member ∈ members, Document.InRange member.2
  | .colon members _ => ∀ member ∈ members, Document.InRange member.2
  | .complete document => Document.InRange document
  | _ => True

/-- The integers read so far are of 64 bits. -/
structure Reader.InRange (reader : Reader) : Prop where
  frames : ∀ frame ∈ reader.frames, frame.InRange
  phase : reader.phase.InRange

section Reader

variable {reader next : Reader} {frames : List Frame} {document : Document} {token : Token}

theorem close_inRange (inFrames : ∀ frame ∈ frames, frame.InRange)
    (inDocument : document.InRange) : (close frames document).InRange := by
  rcases frames with _ | ⟨⟨items⟩ | ⟨members, key⟩, outer⟩
  · exact ⟨by simp [close], inDocument⟩
  · obtain ⟨here, others⟩ := List.forall_mem_cons.1 inFrames
    exact ⟨List.forall_mem_cons.2 ⟨List.forall_mem_cons.2 ⟨inDocument, here⟩, others⟩, trivial⟩
  · obtain ⟨here, others⟩ := List.forall_mem_cons.1 inFrames
    exact ⟨List.forall_mem_cons.2 ⟨List.forall_mem_cons.2 ⟨inDocument, here⟩, others⟩, trivial⟩

theorem startValue_inRange (inFrames : ∀ frame ∈ frames, frame.InRange) (inToken : token.InRange)
    (started : startValue frames token = some next) : next.InRange := by
  cases token with
  | null =>
      cases started
      exact close_inRange inFrames .null
  | bool value =>
      cases started
      exact close_inRange inFrames (.bool value)
  | number value? =>
      cases started
      exact close_inRange inFrames (.number fun numeral same => inToken numeral (same ▸ rfl))
  | text value? =>
      cases started
      exact close_inRange inFrames (.text value?)
  | bracketOpen =>
      cases started
      have empty : Frame.InRange (.list []) := fun _ member => nomatch member
      exact ⟨List.forall_mem_cons.2 ⟨empty, inFrames⟩, trivial⟩
  | braceOpen =>
      cases started
      exact ⟨inFrames, trivial⟩
  | braceClose => cases started
  | bracketClose => cases started
  | colon => cases started
  | comma => cases started

/-- The innermost list or record ends. -/
theorem closeList_inRange {items : List Document}
    (inFrames : ∀ frame ∈ Frame.list items :: frames, frame.InRange) :
    (close frames (.list items.reverse)).InRange := by
  obtain ⟨here, others⟩ := List.forall_mem_cons.1 inFrames
  exact close_inRange others (.list fun item member => here item (List.mem_reverse.1 member))

theorem closeRecord_inRange {members : List (Option String × Document)} {key : Option String}
    (inFrames : ∀ frame ∈ Frame.record members key :: frames, frame.InRange) :
    (close frames (.record members.reverse)).InRange := by
  obtain ⟨here, others⟩ := List.forall_mem_cons.1 inFrames
  exact close_inRange others
    (.record fun member isMember => here member (List.mem_reverse.1 isMember))

/-- One word keeps the integers within 64 bits. -/
theorem step_inRange (inReader : reader.InRange) (inToken : token.InRange)
    (stepped : step reader token = some next) : next.InRange := by
  obtain ⟨frames, phase⟩ := reader
  obtain ⟨inFrames, inPhase⟩ := inReader
  cases phase with
  | value => exact startValue_inRange inFrames inToken stepped
  | item =>
      rcases frames with _ | ⟨⟨items⟩ | ⟨members, key⟩, outer⟩
      · exact startValue_inRange inFrames inToken stepped
      · cases token with
        | bracketClose =>
            cases stepped
            exact closeList_inRange inFrames
        | _ => exact startValue_inRange inFrames inToken stepped
      · exact startValue_inRange inFrames inToken stepped
  | firstKey =>
      cases token with
      | braceClose =>
          cases stepped
          exact close_inRange inFrames (.record (by simp))
      | text name =>
          cases stepped
          exact ⟨inFrames, fun _ member => nomatch member⟩
      | _ => simp [step] at stepped
  | key members =>
      cases token with
      | text name =>
          cases stepped
          exact ⟨inFrames, inPhase⟩
      | _ => simp [step] at stepped
  | colon members name =>
      cases token with
      | colon =>
          cases stepped
          exact ⟨List.forall_mem_cons.2 ⟨inPhase, inFrames⟩, trivial⟩
      | _ => simp [step] at stepped
  | more =>
      rcases frames with _ | ⟨⟨items⟩ | ⟨members, key⟩, outer⟩
      · simp [step] at stepped
      · cases token with
        | comma =>
            cases stepped
            exact ⟨inFrames, trivial⟩
        | bracketClose =>
            cases stepped
            exact closeList_inRange inFrames
        | _ => simp [step] at stepped
      · obtain ⟨here, others⟩ := List.forall_mem_cons.1 inFrames
        cases token with
        | comma =>
            cases stepped
            exact ⟨others, here⟩
        | braceClose =>
            cases stepped
            exact closeRecord_inRange inFrames
        | _ => simp [step] at stepped
  | complete document => simp [step] at stepped

/-- Words one after another keep the integers within 64 bits. -/
theorem steps_inRange {tokens : List Token} (inReader : reader.InRange)
    (inTokens : ∀ token ∈ tokens, token.InRange) (stepped : steps reader tokens = some next) :
    next.InRange := by
  induction tokens generalizing reader with
  | nil =>
      cases stepped
      exact inReader
  | cons token tokens ih =>
      obtain ⟨inToken, inOthers⟩ := List.forall_mem_cons.1 inTokens
      rw [steps] at stepped
      split at stepped
      · next one => exact ih (step_inRange inReader inToken one) inOthers stepped
      · cases stepped

end Reader

theorem parse?_inRange {text : String} {document : Document}
    (parsed : Document.parse? text = some document) : document.InRange := by
  obtain ⟨tokens, words, spelled⟩ := Option.bind_eq_some_iff.1 parsed
  have start : Reader.InRange ⟨[], .value⟩ := ⟨by simp, trivial⟩
  rw [ofTokens?] at spelled
  split at spelled
  · next read =>
      cases spelled
      exact (steps_inRange start (Token.ofChars?_inRange words) read).phase
  · cases spelled

/-! ### Values -/

mutual

theorem value?_regular (depth : Nat) (document : Document) {value : Json}
    (inDocument : document.InRange) (found : value? depth document = some value) :
    Throughout Regular value := by
  cases document with
  | null =>
      cases found
      exact regular_leaf (by simp) (by simp) rfl
  | bool truth =>
      cases found
      exact regular_leaf (by simp) (by simp) rfl
  | number value? =>
      obtain ⟨numeral, rfl, rfl⟩ := Option.map_eq_some_iff.1 found
      cases inDocument with
      | number inNumeral =>
          cases numeral with
          | int n =>
              exact regular_int (inNumeral _ rfl n rfl)
          | float x =>
              exact regular_leaf (fun _ same => nomatch same) (fun _ same => nomatch same) rfl
  | notFinite =>
      cases found
      exact regular_leaf (by simp) (by simp) rfl
  | text value? =>
      obtain ⟨text, -, rfl⟩ := Option.map_eq_some_iff.1 found
      exact regular_str text
  | list items =>
      cases inDocument with
      | list inItems =>
          cases depth with
          | zero => cases found
          | succ depth =>
              obtain ⟨values, all, rfl⟩ := Option.map_eq_some_iff.1 found
              exact regular_list (values?_regular depth items inItems all)
  | record members =>
      cases inDocument with
      | record inMembers =>
          cases depth with
          | zero => cases found
          | succ depth =>
              obtain ⟨fields, all, rfl⟩ := Option.map_eq_some_iff.1 found
              exact regular_record (Dictionary.Sorted.ofList fields) fun field isField =>
                fields?_regular depth members inMembers all field
                  (Dictionary.mem_of_mem_ofList isField)

theorem values?_regular (depth : Nat) (items : List Document) {values : List Json}
    (inItems : ∀ item ∈ items, InRange item) (found : values? depth items = some values) :
    ∀ value ∈ values, Throughout Regular value := by
  cases items with
  | nil =>
      cases found
      simp
  | cons item items =>
      obtain ⟨inItem, inOthers⟩ := List.forall_mem_cons.1 inItems
      simp only [values?, Option.bind_eq_bind, Option.pure_def, Option.bind_eq_some_iff,
        Option.some.injEq] at found
      obtain ⟨value, isValue, others, areOthers, rfl⟩ := found
      exact List.forall_mem_cons.2
        ⟨value?_regular depth item inItem isValue, values?_regular depth items inOthers areOthers⟩

theorem fields?_regular (depth : Nat) (members : List (Option String × Document))
    {fields : List (String × Json)} (inMembers : ∀ member ∈ members, InRange member.2)
    (found : fields? depth members = some fields) :
    ∀ field ∈ fields, Throughout Regular field.2 := by
  cases members with
  | nil =>
      cases found
      simp
  | cons member members =>
      obtain ⟨name?, member⟩ := member
      obtain ⟨inMember, inOthers⟩ := List.forall_mem_cons.1 inMembers
      simp only [fields?, Option.bind_eq_bind, Option.pure_def, Option.bind_eq_some_iff,
        Option.some.injEq] at found
      obtain ⟨name, -, value, isValue, others, areOthers, rfl⟩ := found
      exact List.forall_mem_cons.2
        ⟨value?_regular depth member inMember isValue,
          fields?_regular depth members inOthers areOthers⟩

end

end Document

/-- Every integer in the value of a text is of 64 bits, and every record is in key order. -/
theorem parse?_regular {text : String} {value : Json} (parsed : parse? text = some value) :
    Throughout Regular value := by
  obtain ⟨document, read, found⟩ := Option.bind_eq_some_iff.1 parsed
  exact Document.value?_regular _ document (Document.parse?_inRange read) found

end Parley.Json
