/-
Module: Parley.Proofs.Session.FileStore
Layer: Proofs
Purpose: The file store when steps on the directory may fail.  A step that fails leaves every file as
  it was, apart from the temporary file it was about.  No name of a session's files is a name of
  another's, so what an operation does to the directory it does to its own session; and a file is
  only replaced as a whole, so an operation that fails leaves the session's files as they were.
Main exports: Directory.MayAnswer, Directory.faulty, Directory.stored, Directory.AgreeBut,
  FileStore.keeps_load, FileStore.keeps_save, FileStore.keeps_loadNotes, FileStore.keeps_saveNotes
-/
import Parley.Proofs.Program.Contract
import Parley.Session.FileStore

namespace Parley

open Dictionary (find?)
open Program (keeps_run_bind)

namespace FileStore

/-! ### Names -/

/-- Names that end differently are different. -/
theorem append_ne_append {one two oneEnd twoEnd : String}
    (differ : oneEnd.toList.getLast? ≠ twoEnd.toList.getLast?)
    (some : oneEnd.toList.getLast?.isSome) (someToo : twoEnd.toList.getLast?.isSome) :
    one ++ oneEnd ≠ two ++ twoEnd := by
  intro same
  have ends := congrArg (fun name : String => name.toList.getLast?) same
  simp only [String.toList_append, List.getLast?_append] at ends
  rw [Option.or_of_isSome some, Option.or_of_isSome someToo] at ends
  exact differ ends

theorem transcriptFile_inj {one two : String} :
    transcriptFile one = transcriptFile two ↔ one = two :=
  String.append_left_inj _

theorem notesFile_inj {one two : String} : notesFile one = notesFile two ↔ one = two :=
  String.append_left_inj _

theorem transcriptFile_ne_notesFile (one two : String) : transcriptFile one ≠ notesFile two :=
  append_ne_append (by decide) (by decide) (by decide)

theorem transcriptFile_ne_temporary (session name : String) :
    transcriptFile session ≠ temporary name :=
  append_ne_append (by decide) (by decide) (by decide)

theorem notesFile_ne_temporary (session name : String) : notesFile session ≠ temporary name :=
  append_ne_append (by decide) (by decide) (by decide)

end FileStore

/-! ### Steps that fail -/

/-- Files that agree but for some names. -/
def AgreeBut (names : List String) (before after : Dictionary String) : Prop :=
  ∀ name, name ∉ names → find? after name = find? before name

theorem AgreeBut.refl (names : List String) (files : Dictionary String) :
    AgreeBut names files files := fun _ _ => rfl

theorem AgreeBut.trans {names : List String} {one two three : Dictionary String}
    (first : AgreeBut names one two) (second : AgreeBut names two three) :
    AgreeBut names one three :=
  fun name outside => (second name outside).trans (first name outside)

theorem AgreeBut.mono {names more : List String} {before after : Dictionary String}
    (agree : AgreeBut names before after) (within : ∀ name ∈ names, name ∈ more) :
    AgreeBut more before after :=
  fun name outside => agree name fun member => outside (within name member)

theorem agreeBut_insert (files : Dictionary String) (name content : String) :
    AgreeBut [name] files (Dictionary.insert name content files) := by
  intro other outside
  have different : name ≠ other := fun same => outside (by simp [same])
  exact Dictionary.find?_insert_of_ne content files different

theorem agreeBut_erase (files : Dictionary String) (name : String) :
    AgreeBut [name] files (Dictionary.erase files name) := by
  intro other outside
  have different : name ≠ other := fun same => outside (by simp [same])
  exact Dictionary.find?_erase_of_ne files different

namespace Directory

/-- How a step may fail: with any fault.  A failed write leaves anything under the name it was to
write, a failed renaming leaves anything under the old name, and nothing else changes. -/
def MayFail : (question : FileQuestion) → Directory → question.Answer → Directory → Prop
  | .read _, before, answer, after => (∃ fault, answer = .error fault) ∧ after = before
  | .write name _, before, answer, after =>
      (∃ fault, answer = .error fault) ∧
        ∃ files, after = { before with files := files } ∧ AgreeBut [name] before.files files
  | .rename source _, before, answer, after =>
      (∃ fault, answer = .error fault) ∧
        ∃ files, after = { before with files := files } ∧ AgreeBut [source] before.files files
  | .remove _, before, answer, after => (∃ fault, answer = .error fault) ∧ after = before
  | .remembered _, _, _, _ => False
  | .remember _ _, _, _, _ => False
  | .forget _, _, _, _ => False

/-- A step does what it should, or fails. -/
def MayAnswer (question : FileQuestion) (before : Directory) (answer : question.Answer)
    (after : Directory) : Prop :=
  (answer, after) = before.answer question ∨ MayFail question before answer after

/-- A directory whose steps may fail. -/
def faulty : Contract fileInterface Directory where
  asks := fun _ _ => True
  answers := MayAnswer

/-- An operation in which no step fails is one of those in which steps may fail. -/
theorem leads_run {α : Type} (operation : FileStore.FileProgram α) (directory : Directory) :
    Program.Leads MayAnswer operation.run directory (.done (directory.run operation).1)
      (directory.run operation).2 :=
  Program.leads_run (fun _ _ => .inl rfl) _ _

/-- The transcript of a session: the remembered one, or what the file says. -/
def stored (directory : Directory) (session : String) : Transcript :=
  match find? directory.memory session with
  | some turns => turns
  | none => FileStore.turnsIn (find? directory.files (FileStore.transcriptFile session))

/-- Whether the transcript of a session can be read at all. -/
def Readable (directory : Directory) (session : String) : Prop :=
  (find? directory.memory session).isSome ∨ FileStore.isUsableId session = true

section Frame

variable {before after : Directory} {names : List String} {session : String}

/-- What is stored depends on the memory and on files of its own. -/
theorem stored_of_agree (memoryEq : after.memory = before.memory)
    (agree : AgreeBut names before.files after.files)
    (outside : FileStore.transcriptFile session ∉ names) :
    after.stored session = before.stored session := by
  rw [stored, stored, memoryEq, agree _ outside]

/-- Storing a transcript for a session leaves what is stored for others alone. -/
theorem stored_of_saved {turns : Transcript}
    (agree : AgreeBut [FileStore.transcriptFile session,
      FileStore.temporary (FileStore.transcriptFile session)] before.files after.files)
    (memoryEq : after.memory = Dictionary.insert session turns before.memory) (other : String) :
    after.stored other = if other = session then turns else before.stored other := by
  split
  · next same =>
      subst same
      rw [stored, memoryEq, Dictionary.find?_insert_self]
  · next different =>
      have outside : FileStore.transcriptFile other ∉
          [FileStore.transcriptFile session,
            FileStore.temporary (FileStore.transcriptFile session)] := by
        simp [FileStore.transcriptFile_inj, different, FileStore.transcriptFile_ne_temporary]
      rw [stored, stored, memoryEq, Dictionary.find?_insert_of_ne _ _ (Ne.symm different),
        agree _ outside]

theorem readable_of_saved {turns : Transcript} {other : String}
    (memoryEq : after.memory = Dictionary.insert session turns before.memory)
    (usable : FileStore.isUsableId session = true) (readable : after.Readable other) :
    before.Readable other := by
  by_cases same : session = other
  · exact .inr (same ▸ usable)
  · rw [Readable, memoryEq, Dictionary.find?_insert_of_ne _ _ same] at readable
    exact readable

end Frame

end Directory

namespace FileStore

open Directory (faulty MayAnswer)

variable {directory : Directory} {session : String}

/-! ### Single steps -/

theorem keeps_checkId {post : Except Fault Unit → Directory → Prop}
    (usable : isUsableId session = true → post (.ok ()) directory)
    (refused : ∀ fault, post (.error fault) directory) :
    (checkId session).run.Keeps faulty post directory := by
  rw [checkId]
  split
  · next isUsable => exact usable isUsable
  · exact refused _

theorem keeps_read {name : String} {post : Except Fault (Option String) → Directory → Prop}
    (found : post (.ok (find? directory.files name)) directory)
    (failed : ∀ fault, post (.error fault) directory) :
    (read name).run.Keeps faulty post directory := by
  refine Program.keeps_query.2 ⟨trivial, ?_⟩
  intro answer after answered
  rcases answered with exact | ⟨⟨fault, rfl⟩, rfl⟩
  · cases exact
    exact found
  · exact failed fault

/-- A file is replaced as a whole or left as it was, under any contract that lets it be written and
renamed. -/
theorem keeps_replace_asking (asks : Directory → FileQuestion → Prop) {name content : String}
    {post : Except Fault Unit → Directory → Prop}
    (writes : asks directory (.write (temporary name) content))
    (renames : ∀ files, AgreeBut [temporary name] directory.files files →
      asks { directory with files := files } (.rename (temporary name) name))
    (replaced : ∀ files, AgreeBut [name, temporary name] directory.files files →
      find? files name = some content → post (.ok ()) { directory with files := files })
    (failed : ∀ fault files, AgreeBut [temporary name] directory.files files →
      post (.error fault) { directory with files := files }) :
    (replace name content).run.Keeps { faulty with asks := asks } post directory := by
  rw [replace, keeps_run_bind]
  refine Program.keeps_query.2 ⟨writes, ?_⟩
  intro answer written answered
  rcases answered with exact | ⟨⟨fault, rfl⟩, files, rfl, agree⟩
  · simp only [Directory.answer, Directory.guarded] at exact
    split at exact
    · cases exact
      have wrote := agreeBut_insert directory.files (temporary name) content
      refine Program.keeps_query.2 ⟨renames _ wrote, ?_⟩
      intro answer renamed answered
      rcases answered with exact | ⟨⟨fault, rfl⟩, files, rfl, agree⟩
      · simp only [Directory.answer, Directory.guarded, Dictionary.find?_insert_self] at exact
        split at exact
        · cases exact
          have erased := agreeBut_erase (Dictionary.insert (temporary name) content directory.files)
            (temporary name)
          have moved : AgreeBut [name, temporary name] _ _ := (wrote.trans erased).mono (by simp)
          refine replaced _ (moved.trans ?_) (Dictionary.find?_insert_self _ _ _)
          exact (agreeBut_insert _ name content).mono (by simp)
        · cases exact
          exact failed _ _ wrote
      · exact failed fault files (wrote.trans agree)
    · cases exact
      exact failed _ directory.files (.refl _ _)
  · exact failed fault files agree

/-- A file is replaced as a whole or left as it was. -/
theorem keeps_replace {name content : String} {post : Except Fault Unit → Directory → Prop}
    (replaced : ∀ files, AgreeBut [name, temporary name] directory.files files →
      find? files name = some content → post (.ok ()) { directory with files := files })
    (failed : ∀ fault files, AgreeBut [temporary name] directory.files files →
      post (.error fault) { directory with files := files }) :
    (replace name content).run.Keeps faulty post directory :=
  keeps_replace_asking (fun _ _ => True) trivial (fun _ _ => trivial) replaced failed

/-! ### Operations -/

/-- What is remembered on reading is what would be read again. -/
theorem stored_remember (other : String) :
    ({ directory with
        memory := Dictionary.insert session (directory.stored session) directory.memory }
      : Directory).stored other = directory.stored other := by
  by_cases same : session = other
  · subst same
    simp [Directory.stored]
  · simp [Directory.stored, Dictionary.find?_insert_of_ne _ _ same]

/-- Loading gives the stored transcript and changes nothing that is stored. -/
theorem keeps_load :
    (load session).run.Keeps faulty
      (fun result after =>
        after.files = directory.files ∧
        (∀ other, after.stored other = directory.stored other) ∧
        (∀ other, after.Readable other → directory.Readable other) ∧
        ∀ turns, result = .ok turns →
          turns = directory.stored session ∧ directory.Readable session)
      directory := by
  rw [load, keeps_run_bind]
  refine Program.keeps_query.2 ⟨trivial, ?_⟩
  intro answer after answered
  rcases answered with exact | impossible
  · cases exact
    cases remembered : find? directory.memory session with
    | some turns =>
        refine ⟨rfl, fun _ => rfl, fun _ readable => readable, ?_⟩
        intro other same
        cases same
        exact ⟨by simp [Directory.stored, remembered], .inl (by simp [remembered])⟩
    | none =>
        dsimp only
        rw [keeps_run_bind]
        apply keeps_checkId
        · intro usable
          dsimp only
          rw [keeps_run_bind]
          apply keeps_read
          · dsimp only
            rw [keeps_run_bind]
            refine Program.keeps_query.2 ⟨trivial, ?_⟩
            intro _ after answered
            have storedEq : turnsIn (find? directory.files (transcriptFile session)) =
                directory.stored session := by
              simp [Directory.stored, remembered]
            rcases answered with exact | impossible
            · cases exact
              simp only [storedEq]
              refine ⟨rfl, stored_remember, ?_, ?_⟩
              · intro other readable
                exact Directory.readable_of_saved rfl usable readable
              · intro turns same
                cases same
                exact ⟨rfl, .inr usable⟩
            · exact absurd impossible id
          · intro fault
            exact ⟨rfl, fun _ => rfl, fun _ readable => readable, by simp⟩
        · intro fault
          exact ⟨rfl, fun _ => rfl, fun _ readable => readable, by simp⟩
  · exact absurd impossible id

/-- What can be read is read, if no step fails. -/
theorem run_load (readable : directory.Readable session) :
    (directory.run (load session)).1 = .ok (directory.stored session) := by
  let exactly : Contract fileInterface Directory :=
    { asks := fun _ _ => True
      answers := fun question before answer after => (answer, after) = before.answer question }
  have keeps : (load session).run.Keeps exactly
      (fun result _ => result = .ok (directory.stored session)) directory := by
    rw [load, keeps_run_bind]
    refine Program.keeps_query.2 ⟨trivial, ?_⟩
    intro answer after exact
    cases exact
    cases remembered : find? directory.memory session with
    | some turns => simp [Directory.stored, remembered]
    | none =>
        have usable : isUsableId session = true := by
          rcases readable with isRemembered | usable
          · simp [remembered] at isRemembered
          · exact usable
        dsimp only
        rw [checkId, if_pos usable, pure_bind, keeps_run_bind]
        refine Program.keeps_query.2 ⟨trivial, ?_⟩
        intro answer after exact
        cases exact
        dsimp only
        rw [keeps_run_bind]
        refine Program.keeps_query.2 ⟨trivial, ?_⟩
        intro answer after exact
        cases exact
        simp [Directory.stored, remembered]
  exact keeps.leads (Program.leads_run (fun _ _ => rfl) _ _)

/-- Saving replaces the file of the session and what is remembered of it; if it fails, only the
temporary file may have changed. -/
theorem keeps_save {turns : Transcript} :
    (save session turns).run.Keeps faulty
      (fun result after =>
        match result with
        | .ok _ =>
            AgreeBut [transcriptFile session, temporary (transcriptFile session)] directory.files
              after.files ∧
            find? after.files (transcriptFile session) = some turns.lines ∧
            after.memory = Dictionary.insert session turns directory.memory ∧
            isUsableId session = true
        | .error _ =>
            AgreeBut [temporary (transcriptFile session)] directory.files after.files ∧
            after.memory = directory.memory)
      directory := by
  rw [save, keeps_run_bind]
  apply keeps_checkId
  · intro usable
    dsimp only
    rw [keeps_run_bind]
    apply keeps_replace
    · intro files agree written
      refine Program.keeps_query.2 ⟨trivial, ?_⟩
      intro _ after answered
      rcases answered with exact | impossible
      · cases exact
        exact ⟨agree, written, rfl, usable⟩
      · exact absurd impossible id
    · intro fault files agree
      exact ⟨agree, rfl⟩
  · intro fault
    exact ⟨.refl _ _, rfl⟩

/-- Loading system messages changes nothing. -/
theorem keeps_loadNotes :
    (loadNotes session).run.Keeps faulty (fun _ after => after = directory) directory := by
  rw [loadNotes, keeps_run_bind]
  refine keeps_checkId ?_ fun _ => rfl
  intro _
  dsimp only
  rw [keeps_run_bind]
  refine keeps_read ?_ fun _ => rfl
  dsimp only
  split
  · exact rfl
  · split
    · exact rfl
    · exact rfl

/-- Saving system messages touches their file and its temporary one. -/
theorem keeps_saveNotes {messages : List String} :
    (saveNotes session messages).run.Keeps faulty
      (fun _ after =>
        AgreeBut [notesFile session, temporary (notesFile session)] directory.files after.files ∧
        after.memory = directory.memory)
      directory := by
  rw [saveNotes, keeps_run_bind]
  apply keeps_checkId
  · intro _
    apply keeps_replace
    · intro files agree _
      exact ⟨agree, rfl⟩
    · intro fault files agree
      exact ⟨agree.mono (by simp), rfl⟩
  · intro fault
    exact ⟨.refl _ _, rfl⟩

end FileStore

end Parley
