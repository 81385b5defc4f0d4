/-
Module: Parley.Proofs.Session.Interrupted
Layer: Proofs
Purpose: Saves that stop anywhere: before a step, after it, or in the middle of writing the
  temporary file.  Whoever opens the directory afresh finds what was saved complete or not at all,
  and finds everything else as it was.  Temporary files are never read, and no two sessions have a
  file in common.
Main exports: FileStore.files, FileStore.files_disjoint, FileStore.Saving, Directory.reads,
  Directory.readsNotes, Directory.Replaced, FileStore.interrupted_saving
-/
import Parley.Proofs.Session.Directory
import Parley.Proofs.Transcript.Written

namespace Parley

open Dictionary (find?)
open Program (keeps_run_bind)

/-- The names of the files that a step is about. -/
def FileQuestion.names : FileQuestion → List String
  | .read name => [name]
  | .write name _ => [name]
  | .rename source target => [source, target]
  | .remove name => [name]
  | .remembered _ => []
  | .remember _ _ => []
  | .forget _ => []

namespace FileStore

/-! ### Names -/

theorem temporary_inj {one two : String} : temporary one = temporary two ↔ one = two :=
  String.append_left_inj _

/-- The names of all files that are written for a session. -/
def files (session : String) : List String :=
  [transcriptFile session, notesFile session, temporary (transcriptFile session),
    temporary (notesFile session)]

/-- No two sessions have a file in common, whatever their ids end with. -/
theorem files_disjoint {one two name : String} (member : name ∈ files one)
    (memberToo : name ∈ files two) : one = two := by
  simp only [files, List.mem_cons, List.not_mem_nil, or_false] at member memberToo
  rcases member with rfl | rfl | rfl | rfl
  · rcases memberToo with same | same | same | same
    · exact transcriptFile_inj.1 same
    · exact absurd same (transcriptFile_ne_notesFile _ _)
    · exact absurd same (transcriptFile_ne_temporary _ _)
    · exact absurd same (transcriptFile_ne_temporary _ _)
  · rcases memberToo with same | same | same | same
    · exact absurd same.symm (transcriptFile_ne_notesFile _ _)
    · exact notesFile_inj.1 same
    · exact absurd same (notesFile_ne_temporary _ _)
    · exact absurd same (notesFile_ne_temporary _ _)
  · rcases memberToo with same | same | same | same
    · exact absurd same.symm (transcriptFile_ne_temporary _ _)
    · exact absurd same.symm (notesFile_ne_temporary _ _)
    · exact transcriptFile_inj.1 (temporary_inj.1 same)
    · exact absurd (temporary_inj.1 same) (transcriptFile_ne_notesFile _ _)
  · rcases memberToo with same | same | same | same
    · exact absurd same.symm (transcriptFile_ne_temporary _ _)
    · exact absurd same.symm (notesFile_ne_temporary _ _)
    · exact absurd (temporary_inj.1 same).symm (transcriptFile_ne_notesFile _ _)
    · exact notesFile_inj.1 (temporary_inj.1 same)

/-- A name of something directly in a directory. -/
structure IsChild (name : String) : Prop where
  noSeparator : '/' ∉ name.toList ∧ '\\' ∉ name.toList
  notEmpty : name ≠ ""
  notDots : name ≠ "." ∧ name ≠ ".."

/-- An ending that is put after a usable id makes it the name of a child. -/
theorem isChild_append {session ending : String} (usable : isUsableId session = true)
    (plain : '/' ∉ ending.toList ∧ '\\' ∉ ending.toList) (long : 3 ≤ ending.length) :
    IsChild (session ++ ending) := by
  simp only [isUsableId, Bool.and_eq_true, Bool.not_eq_true', List.contains_eq_mem,
    decide_eq_false_iff_not] at usable
  obtain ⟨⟨⟨-, noSlash⟩, noBackslash⟩, -⟩ := usable
  have longToo : 3 ≤ (session ++ ending).length := by
    rw [String.length_append]
    omega
  constructor
  · rw [String.toList_append]
    exact ⟨by simp [noSlash, plain.1], by simp [noBackslash, plain.2]⟩
  · intro same
    rw [same] at longToo
    exact absurd longToo (by decide)
  · constructor
    · intro same
      rw [same] at longToo
      exact absurd longToo (by decide)
    · intro same
      rw [same] at longToo
      exact absurd longToo (by decide)

theorem isChild_of_mem_files {session name : String} (usable : isUsableId session = true)
    (member : name ∈ files session) : IsChild name := by
  simp only [files, transcriptFile, notesFile, temporary, List.mem_cons, List.not_mem_nil, or_false,
    String.append_assoc] at member
  rcases member with rfl | rfl | rfl | rfl
  · exact isChild_append usable (by decide) (by decide)
  · exact isChild_append usable (by decide) (by decide)
  · exact isChild_append usable (by decide) (by decide)
  · exact isChild_append usable (by decide) (by decide)

end FileStore

/-! ### A directory opened afresh -/

namespace Directory

variable {directory other : Directory} {session : String}

/-- The transcript of a session, as a directory opened afresh has it. -/
def reads (directory : Directory) (session : String) : Except Fault Transcript :=
  (directory.reopen.run (FileStore.load session)).1

/-- The system messages of a session, as a directory opened afresh has them. -/
def readsNotes (directory : Directory) (session : String) : Except Fault (List String) :=
  (directory.reopen.run (FileStore.loadNotes session)).1

theorem reads_eq (directory : Directory) (session : String) :
    directory.reads session =
      if FileStore.isUsableId session then
        .ok (FileStore.turnsIn (find? directory.files (FileStore.transcriptFile session)))
      else .error (unusable session) := by
  rw [reads, run_load]
  simp only [reopen, Dictionary.find?_nil]
  split
  · rfl
  · rfl

theorem readsNotes_eq (directory : Directory) (session : String) :
    directory.readsNotes session =
      if FileStore.isUsableId session then
        messagesIn (find? directory.files (FileStore.notesFile session))
      else .error (unusable session) := by
  rw [readsNotes, run_loadNotes]
  rfl

/-- What is read of a transcript is in the transcript file. -/
theorem reads_congr (same : find? other.files (FileStore.transcriptFile session) =
    find? directory.files (FileStore.transcriptFile session)) :
    other.reads session = directory.reads session := by
  rw [reads_eq, reads_eq, same]

/-- What is read of system messages is in their file. -/
theorem readsNotes_congr (same : find? other.files (FileStore.notesFile session) =
    find? directory.files (FileStore.notesFile session)) :
    other.readsNotes session = directory.readsNotes session := by
  rw [readsNotes_eq, readsNotes_eq, same]

end Directory

namespace FileStore

open Directory (MayAnswer)

/-! ### Saves -/

/-- What may be saved for a session. -/
inductive Saving where
  | transcript (turns : Transcript)
  | notes (messages : List String)

namespace Saving

/-- The operation that saves. -/
def program (session : String) : Saving → FileProgram Unit
  | .transcript turns => save session turns
  | .notes messages => saveNotes session messages

/-- The file in which it is saved. -/
def file (session : String) : Saving → String
  | .transcript _ => transcriptFile session
  | .notes _ => notesFile session

/-- The text that is saved. -/
def text : Saving → String
  | .transcript turns => turns.lines
  | .notes messages => String.ofList (Json.prettyTexts messages)

/-- What is done when the file is replaced. -/
def finish (session : String) : Saving → FileProgram Unit
  | .transcript turns => remember session turns
  | .notes _ => pure ()

theorem program_eq (session : String) (saving : Saving) :
    saving.program session = (do
      checkId session
      replace (saving.file session) saving.text
      saving.finish session) := by
  cases saving with
  | transcript turns => rfl
  | notes messages =>
      simp only [program, saveNotes, file, text, finish]
      simp

end Saving

/-- A file is as it was or has its new text, and no other file is different but the temporary one
beside it. -/
def Replaced (name content : String) (before after : Dictionary String) : Prop :=
  AgreeBut [temporary name] before after ∨
    AgreeBut [name, temporary name] before after ∧ find? after name = some content

/-- Any file but a temporary one is as it was, if it is not the one that has its new text. -/
theorem Replaced.cases {name content other : String} {before after : Dictionary String}
    (replaced : Replaced name content before after) (lasting : ∀ name, other ≠ temporary name) :
    find? after other = find? before other ∨ other = name ∧ find? after other = some content := by
  rcases replaced with agree | ⟨agree, written⟩
  · exact .inl (agree other (by simp [lasting name]))
  · by_cases same : other = name
    · subst same
      exact .inr ⟨rfl, written⟩
    · exact .inl (agree other (by simp [same, lasting name]))

/-- Where a file is being replaced: what has become of the files, and which files are touched. -/
def replacing (name content : String) (before : Directory) : Contract fileInterface Directory where
  asks := fun state question =>
    Replaced name content before.files state.files ∧
      ∀ touched ∈ FileQuestion.names question, touched = name ∨ touched = temporary name
  answers := MayAnswer


/-- A save, at every step, has replaced its file or not. -/
theorem keeps_saving (session : String) (saving : Saving) (before : Directory)
    (usable : isUsableId session = true) :
    (saving.program session).run.Keeps (replacing (saving.file session) saving.text before)
      (fun _ after => Replaced (saving.file session) saving.text before.files after.files)
      before := by
  have unchanged : Replaced (saving.file session) saving.text before.files before.files :=
    .inl (.refl _ _)
  rw [saving.program_eq, checkId, if_pos usable, pure_bind, keeps_run_bind]
  apply keeps_replace_asking
  · exact ⟨unchanged, by simp [FileQuestion.names]⟩
  · intro files agree
    exact ⟨.inl agree, by simp [FileQuestion.names]⟩
  · intro files agree written
    have replaced : Replaced (saving.file session) saving.text before.files files :=
      .inr ⟨agree, written⟩
    cases saving with
    | transcript turns =>
        refine Program.keeps_query.2 ⟨⟨replaced, by simp [FileQuestion.names]⟩, ?_⟩
        rintro _ after (exact | impossible)
        · cases exact
          exact replaced
        · exact absurd impossible id
    | notes messages => exact replaced
  · intro fault files agree
    exact .inl agree

/-- Without a usable id nothing is asked at all. -/
theorem run_saving_of_unusable (session : String) (saving : Saving)
    (unusable : isUsableId session = false) :
    ∃ fault, (saving.program session).run = .done (.error fault) := by
  rw [saving.program_eq, checkId, unusable]
  exact ⟨_, rfl⟩

/-- A file of a session that lies directly in the directory and is no other session's. -/
structure IsOwn (session name : String) : Prop where
  own : name ∈ files session
  noOther : ∀ other, other ≠ session → name ∉ files other
  child : IsChild name

/-- Wherever a save stops, its file is replaced or as it was, and the step that would be next is
about files of its session. -/
theorem replaced_of_leads {session : String} {saving : Saving} {before after : Directory}
    {left : Program fileInterface (Except Fault Unit)}
    (leads : Program.Leads MayAnswer (saving.program session).run before left after) :
    Replaced (saving.file session) saving.text before.files after.files ∧
      ∀ question next, left = .ask question next → ∀ name ∈ FileQuestion.names question,
        IsOwn session name := by
  cases usable : isUsableId session with
  | false =>
      obtain ⟨fault, refused⟩ := run_saving_of_unusable session saving usable
      rw [refused] at leads
      cases leads
      exact ⟨.inl (.refl _ _), by simp⟩
  | true =>
      have keeps := (keeps_saving session saving before usable).leads leads
      have owns : ∀ name, name = saving.file session ∨ name = temporary (saving.file session) →
          IsOwn session name := by
        intro name isName
        have own : name ∈ files session := by
          cases saving with
          | transcript turns => rcases isName with rfl | rfl <;> simp [files, Saving.file]
          | notes messages => rcases isName with rfl | rfl <;> simp [files, Saving.file]
        exact ⟨own, fun other different others => different (files_disjoint others own),
          isChild_of_mem_files usable own⟩
      cases left with
      | done result => exact ⟨keeps, by simp⟩
      | ask question next =>
          obtain ⟨⟨replaced, touched⟩, -⟩ := keeps
          refine ⟨replaced, ?_⟩
          intro asked after same name isName
          cases same
          exact owns name (touched name isName)

/-! ### Interruptions -/

section Interruptions

variable {name content : String} {before after : Directory}

/-- A transcript is read as before, if its file is not the one that has its new text. -/
theorem reads_of_replaced (session : String)
    (replaced : Replaced name content before.files after.files) :
    after.reads session = before.reads session ∨
      transcriptFile session = name ∧ after.reads session = .ok (turnsIn (some content)) := by
  rcases replaced.cases (transcriptFile_ne_temporary session) with same | ⟨isName, written⟩
  · exact .inl (Directory.reads_congr same)
  · cases usable : isUsableId session with
    | false =>
        left
        rw [Directory.reads_eq, Directory.reads_eq, usable]
        rfl
    | true => exact .inr ⟨isName, by rw [Directory.reads_eq, usable, if_pos rfl, written]⟩

/-- System messages are read as before, if their file is not the one that has its new text. -/
theorem readsNotes_of_replaced (session : String)
    (replaced : Replaced name content before.files after.files) :
    after.readsNotes session = before.readsNotes session ∨
      notesFile session = name ∧
        after.readsNotes session = Directory.messagesIn (some content) := by
  rcases replaced.cases (notesFile_ne_temporary session) with same | ⟨isName, written⟩
  · exact .inl (Directory.readsNotes_congr same)
  · cases usable : isUsableId session with
    | false =>
        left
        rw [Directory.readsNotes_eq, Directory.readsNotes_eq, usable]
        rfl
    | true => exact .inr ⟨isName, by rw [Directory.readsNotes_eq, usable, if_pos rfl, written]⟩

/-- What is in a temporary file is not read. -/
theorem reads_temporary (directory : Directory) (name text other : String) :
    let spoiled : Directory :=
      { directory with files := Dictionary.insert (temporary name) text directory.files }
    spoiled.reads other = directory.reads other ∧
      spoiled.readsNotes other = directory.readsNotes other := by
  have agree := agreeBut_insert directory.files (temporary name) text
  constructor
  · exact Directory.reads_congr (agree _ (by simp [transcriptFile_ne_temporary]))
  · exact Directory.readsNotes_congr (agree _ (by simp [notesFile_ne_temporary]))

end Interruptions

/-- A save that stops anywhere: whoever opens the directory afresh then reads what was there before
or what was to be saved, and reads the other kind and all other sessions as before.  No temporary
file is read, whatever is in it, and each step is about files of the session alone. -/
theorem interrupted_saving (session : String) (saving : Saving) (before after : Directory)
    (left : Program fileInterface (Except Fault Unit))
    (stopped : Program.Leads MayAnswer (saving.program session).run before left after) :
    (match saving with
      | .transcript turns =>
          (after.reads session = before.reads session ∨ after.reads session = .ok turns) ∧
            after.readsNotes session = before.readsNotes session
      | .notes messages =>
          (after.readsNotes session = before.readsNotes session ∨
              after.readsNotes session = .ok messages) ∧
            after.reads session = before.reads session) ∧
      (∀ other, other ≠ session → after.reads other = before.reads other ∧
        after.readsNotes other = before.readsNotes other) ∧
      (∀ name text other,
        let spoiled : Directory :=
          { after with files := Dictionary.insert (temporary name) text after.files }
        spoiled.reads other = after.reads other ∧
          spoiled.readsNotes other = after.readsNotes other) ∧
      ∀ question next, left = .ask question next → ∀ name ∈ FileQuestion.names question,
        IsOwn session name := by
  obtain ⟨replaced, owns⟩ := replaced_of_leads stopped
  have newTurns : ∀ turns : Transcript, turnsIn (some turns.lines) = turns :=
    fun turns => turns.ofLines_lines
  have newMessages : ∀ messages, Directory.messagesIn
      (some (String.ofList (Json.prettyTexts messages))) = .ok messages := by
    intro messages
    simp [Directory.messagesIn, Json.decode?_prettyTexts]
  refine ⟨?_, ?_, reads_temporary after, owns⟩
  · cases saving with
    | transcript turns =>
        constructor
        · rcases reads_of_replaced session replaced with same | ⟨-, isNew⟩
          · exact .inl same
          · exact .inr (isNew.trans (by rw [Saving.text, newTurns]))
        · rcases readsNotes_of_replaced session replaced with same | ⟨isName, -⟩
          · exact same
          · exact absurd isName.symm (transcriptFile_ne_notesFile _ _)
    | notes messages =>
        constructor
        · rcases readsNotes_of_replaced session replaced with same | ⟨-, isNew⟩
          · exact .inl same
          · exact .inr (isNew.trans (by rw [Saving.text, newMessages]))
        · rcases reads_of_replaced session replaced with same | ⟨isName, -⟩
          · exact same
          · exact absurd isName (transcriptFile_ne_notesFile _ _)
  · intro other different
    constructor
    · rcases reads_of_replaced other replaced with same | ⟨isName, -⟩
      · exact same
      · cases saving with
        | transcript turns => exact absurd (transcriptFile_inj.1 isName) different
        | notes messages => exact absurd isName (transcriptFile_ne_notesFile _ _)
    · rcases readsNotes_of_replaced other replaced with same | ⟨isName, -⟩
      · exact same
      · cases saving with
        | transcript turns => exact absurd isName.symm (transcriptFile_ne_notesFile _ _)
        | notes messages => exact absurd (notesFile_inj.1 isName) different

/-- A directory with the transcript of one session. -/
def oneSession : Directory :=
  ⟨Directory.greatestName, [("log.system.jsonl", Transcript.lines [.plain .user "hi"])], []⟩

/-- The same directory with a temporary file that was written in part. -/
def halfWritten : Directory :=
  { oneSession with
    files := Dictionary.insert "log.system.jsonl.tmp" "half of it" oneSession.files }

/-- A save of one turn stops while its temporary file is written. -/
theorem interrupted_saving_half_written :
    let saving : Saving := .transcript [.plain .user "bye"]
    Program.Leads MayAnswer (saving.program "log.system").run oneSession
        (.done (.error .files)) halfWritten ∧
      (halfWritten.reads "log.system" = oneSession.reads "log.system" ∨
        halfWritten.reads "log.system" = .ok [.plain .user "bye"]) ∧
      halfWritten.readsNotes "log" = oneSession.readsNotes "log" := by
  intro saving
  have stopped : Program.Leads MayAnswer (saving.program "log.system").run oneSession
      (.done (.error .files)) halfWritten := by
    have failed : MayAnswer (.write "log.system.jsonl.tmp" saving.text) oneSession
        (.error .files) halfWritten :=
      .inr ⟨⟨_, rfl⟩, _, rfl, agreeBut_insert oneSession.files _ _⟩
    exact .ask failed (.refl _ _)
  obtain ⟨own, others, -, -⟩ := interrupted_saving "log.system" saving oneSession halfWritten
    (.done (.error .files)) stopped
  exact ⟨stopped, own.1, (others "log" (by decide)).2⟩

end FileStore

end Parley
