/-
Module: Parley.Proofs.Transcript.Damaged
Layer: Proofs
Purpose: What is read off a transcript file with lines in it that are no turns.  Wherever such lines
  stand, whatever they hold and however they end, the turns are read back as they were written, in
  order.
Main exports: Transcript.NoTurn, Transcript.Damaged, Transcript.splitLines_cons,
  Transcript.ofLines_damaged
-/
import Parley.Proofs.Json.Trailing
import Parley.Proofs.Session.Directory
import Parley.Proofs.Transcript.Written

namespace Parley.Transcript

/-! ### Lines -/

theorem splitLines_eq (text : List Char) :
    splitLines text =
      let (current, done) := text.foldl readChar ([], [])
      (if current.isEmpty then done else current.reverse :: done).reverse :=
  rfl

/-- Lines that are finished stay as they are. -/
theorem foldl_readChar_done (text current : List Char) (done : List (List Char)) :
    text.foldl readChar (current, done) =
      ((text.foldl readChar (current, [])).1, (text.foldl readChar (current, [])).2 ++ done) := by
  induction text generalizing current done with
  | nil => rfl
  | cons c text ih =>
      rw [List.foldl_cons, List.foldl_cons]
      by_cases isEnd : c = '\n'
      · rw [readChar, readChar, if_pos isEnd, if_pos isEnd, ih [] (endLine current :: done),
          ih [] [endLine current], List.append_assoc]
        rfl
      · rw [readChar, readChar, if_neg isEnd, if_neg isEnd]
        exact ih (c :: current) done

/-- A text begins with its first line. -/
theorem splitLines_cons {line : List Char} (oneLine : '\n' ∉ line) (text : List Char) :
    splitLines (line ++ '\n' :: text) = endLine line.reverse :: splitLines text := by
  rw [splitLines_eq, splitLines_eq, List.foldl_append, foldl_readChar line [] [] oneLine,
    List.append_nil, List.foldl_cons, readChar, if_pos rfl, foldl_readChar_done text [] [_]]
  dsimp only
  split
  · rw [List.reverse_append]
    rfl
  · rw [← List.cons_append, List.reverse_append]
    rfl

/-- A text without line ends is one line, or none. -/
theorem splitLines_of_oneLine {line : List Char} (oneLine : '\n' ∉ line) :
    splitLines line = if line.isEmpty then [] else [line] := by
  rw [splitLines_eq, foldl_readChar line [] [] oneLine, List.append_nil]
  cases line with
  | nil => rfl
  | cons c line => simp

/-- No more than a carriage return is taken off a line. -/
theorem endLine_cases (line : List Char) :
    endLine line.reverse = line ∨ line = endLine line.reverse ++ ['\r'] := by
  unfold endLine
  split
  · next rest same =>
      right
      rw [← List.reverse_cons, ← same, List.reverse_reverse]
  · left
    exact List.reverse_reverse line

/-! ### Lines that are no turns -/

/-- A line that spells no turn: a blank one, or JSON of another form, or no JSON at all. -/
structure NoTurn (line : List Char) : Prop where
  oneLine : '\n' ∉ line
  unreadable : Turn.ofText? (String.ofList line) = none

theorem NoTurn.turnOnLine? {line : List Char} (noTurn : NoTurn line) : turnOnLine? line = none := by
  rw [Transcript.turnOnLine?]
  split
  · rfl
  · exact noTurn.unreadable

/-- Nor does it spell a turn without the carriage return at its end: with it, it would spell that turn
too. -/
theorem NoTurn.endLine {line : List Char} (noTurn : NoTurn line) :
    NoTurn (endLine line.reverse) := by
  rcases endLine_cases line with same | returned
  · rwa [same]
  · refine ⟨fun member => noTurn.oneLine ?_, ?_⟩
    · rw [returned]
      exact List.mem_append_left _ member
    · have blank : ∀ c ∈ ['\r'], Json.isBlank c = true := by simp [Json.isBlank]
      cases isTurn : Turn.ofText? (String.ofList (Transcript.endLine line.reverse)) with
      | none => rfl
      | some turn =>
          have whole := Json.decode?_append_blanks blank isTurn
          rw [← returned] at whole
          exact absurd (noTurn.unreadable.symm.trans whole) (by simp)

/-- A written transcript with other lines before, between and after its own. -/
inductive Damaged : Transcript → List Char → Prop where
  | nil : Damaged [] []
  /-- The last line may lack its end. -/
  | unfinished {line : List Char} : NoTurn line → Damaged [] line
  | turn {turn : Turn} {turns : Transcript} {text : List Char} :
      Damaged turns text → Damaged (turn :: turns) (turn.chars ++ '\n' :: text)
  | other {line text : List Char} {turns : Transcript} (ending : List Char) :
      NoTurn line → ending ∈ [['\n'], ['\r', '\n']] → Damaged turns text →
      Damaged turns (line ++ ending ++ text)

theorem filterMap_damaged {turns : Transcript} {text : List Char} (damaged : Damaged turns text) :
    (splitLines text).filterMap turnOnLine? = turns := by
  induction damaged with
  | nil => rfl
  | unfinished noTurn =>
      rw [splitLines_of_oneLine noTurn.oneLine]
      split
      · rfl
      · rw [List.filterMap_cons_none noTurn.turnOnLine?]
        rfl
  | @turn turn turns text _ ih =>
      have plain : '\n' ∉ turn.chars ∧ '\r' ∉ turn.chars :=
        ⟨fun isEnd => absurd (turn.visible_chars _ isEnd) (by decide),
          fun isReturn => absurd (turn.visible_chars _ isReturn) (by decide)⟩
      rw [splitLines_cons plain.1, endLine_reverse plain.2,
        List.filterMap_cons_some (turnOnLine?_chars turn), ih]
  | @other line text turns ending noTurn isEnding _ ih =>
      simp only [List.mem_cons, List.not_mem_nil, or_false] at isEnding
      rcases isEnding with rfl | rfl
      · rw [List.append_assoc, List.singleton_append, splitLines_cons noTurn.oneLine,
          List.filterMap_cons_none noTurn.endLine.turnOnLine?, ih]
      · have oneLine : '\n' ∉ line ++ ['\r'] := by simp [noTurn.oneLine]
        have split : line ++ ['\r', '\n'] ++ text = (line ++ ['\r']) ++ '\n' :: text := by simp
        have returned : Transcript.endLine (line ++ ['\r']).reverse = line := by
          simp [Transcript.endLine]
        rw [split, splitLines_cons oneLine, returned,
          List.filterMap_cons_none noTurn.turnOnLine?, ih]

/-- A transcript is read back from its written form, whatever lines that are no turns stand before,
between and after its own; and so it is loaded from a file with such a text. -/
theorem ofLines_damaged {turns : Transcript} {text : String}
    (damaged : Damaged turns text.toList) :
    ofLines text = turns ∧
      ∀ (session : String) (directory : Directory),
        FileStore.isUsableId session = true →
        Dictionary.find? directory.memory session = none →
        Dictionary.find? directory.files (FileStore.transcriptFile session) = some text →
        (directory.run (FileStore.load session)).1 = .ok turns := by
  have read : ofLines text = turns := filterMap_damaged damaged
  refine ⟨read, fun session directory usable forgotten isText => ?_⟩
  rw [Directory.run_load, forgotten]
  dsimp only
  rw [if_pos usable, isText, FileStore.turnsIn, read]

/-- Two lines in one turn, and separators of several kinds. -/
def spoken : Turn := Turn.plain .user "one\ntwo\u2028\"three\""

/-- The turn between what is no JSON and a record that lacks a role, and the start of another. -/
def torn : List Char :=
  "no turn".toList ++ ['\n'] ++ (spoken.chars ++ '\n' ::
    ("\x7b\"id\":1\x7d".toList ++ ['\r', '\n'] ++ "\x7b\"role\":\"us".toList))

theorem damaged_torn : Damaged [spoken] torn := by
  have noJson : NoTurn "no turn".toList := ⟨by decide +kernel, by decide +kernel⟩
  have noRole : NoTurn "\x7b\"id\":1\x7d".toList := ⟨by decide +kernel, by decide +kernel⟩
  have unfinished : NoTurn "\x7b\"role\":\"us".toList := ⟨by decide +kernel, by decide +kernel⟩
  have last := Damaged.other ['\r', '\n'] noRole (by simp) (.unfinished unfinished)
  exact .other ['\n'] noJson (by simp) (.turn last)

/-- A directory with nothing but this text. -/
def tornFile : Directory :=
  { room := 255, files := [("hall.jsonl", String.ofList torn)], memory := [] }

theorem ofLines_damaged_torn :
    Damaged [spoken] (String.ofList torn).toList ∧ ofLines (String.ofList torn) = [spoken] ∧
      (tornFile.run (FileStore.load "hall")).1 = .ok [spoken] := by
  have damaged : Damaged [spoken] (String.ofList torn).toList := by
    rw [String.toList_ofList]
    exact damaged_torn
  obtain ⟨read, loaded⟩ := ofLines_damaged damaged
  exact ⟨damaged, read, loaded "hall" _ (by decide +kernel) rfl rfl⟩

end Parley.Transcript
