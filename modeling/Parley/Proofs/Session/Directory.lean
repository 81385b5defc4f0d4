/-
Module: Parley.Proofs.Session.Directory
Layer: Proofs
Purpose: What single steps on a directory may come to, and what the operations of the file store do
  where no step fails: their results and the directory they leave, each as one equation.
Main exports: Directory.mayAnswer_write, Directory.mayAnswer_rename, Directory.mayAnswer_remove,
  Directory.run_bind, Directory.run_load, Directory.run_save, Directory.run_delete,
  Directory.run_loadNotes, Directory.run_saveNotes
-/
import Parley.Proofs.Program.Agreement
import Parley.Proofs.Session.FileStore

namespace Parley

open Dictionary (find?)
open FileStore (FileProgram transcriptFile notesFile temporary isUsableId turnsIn)

namespace Directory

variable {α β : Type} {directory : Directory} {session : String}

/-! ### Steps that may fail -/

section Steps

variable {after : Directory}

/-- A step that is refused for names that do not fit changes nothing. -/
theorem guarded_cases {names : List String} {files : Dictionary String}
    {answer : Except Fault Unit} (exact : (answer, after) = directory.guarded names files) :
    (answer = .ok () ∧ after = { directory with files := files }) ∨
      (∃ fault, answer = .error fault) ∧ after = directory := by
  rw [guarded] at exact
  split at exact
  · cases exact
    exact .inl ⟨rfl, rfl⟩
  · cases exact
    exact .inr ⟨⟨_, rfl⟩, rfl⟩

theorem mayAnswer_write {name content : String} {answer : Except Fault Unit}
    (answered : MayAnswer (.write name content) directory answer after) :
    (answer = .ok () ∧
        after = { directory with files := Dictionary.insert name content directory.files }) ∨
      (∃ fault, answer = .error fault) ∧
        ∃ files, after = { directory with files := files } ∧
          AgreeBut [name] directory.files files := by
  rcases answered with exact | failed
  · rcases guarded_cases exact with done | ⟨failed, rfl⟩
    · exact .inl done
    · exact .inr ⟨failed, _, rfl, .refl _ _⟩
  · exact .inr failed

theorem mayAnswer_rename {source target : String} {answer : Except Fault Unit}
    (answered : MayAnswer (.rename source target) directory answer after) :
    (answer = .ok () ∧ ∃ content, find? directory.files source = some content ∧
        after = { directory with
          files := Dictionary.insert target content (Dictionary.erase directory.files source) }) ∨
      (∃ fault, answer = .error fault) ∧
        ∃ files, after = { directory with files := files } ∧
          AgreeBut [source] directory.files files := by
  rcases answered with exact | failed
  · simp only [Directory.answer] at exact
    split at exact
    · cases exact
      exact .inr ⟨⟨_, rfl⟩, _, rfl, .refl _ _⟩
    · next content found =>
        rcases guarded_cases exact with ⟨isOk, isAfter⟩ | ⟨failed, rfl⟩
        · exact .inl ⟨isOk, content, found, isAfter⟩
        · exact .inr ⟨failed, _, rfl, .refl _ _⟩
  · exact .inr failed

theorem mayAnswer_remove {name : String} {answer : Except Fault Unit}
    (answered : MayAnswer (.remove name) directory answer after) :
    (answer = .ok () ∧
        after = { directory with files := Dictionary.erase directory.files name }) ∨
      (∃ fault, answer = .error fault) ∧ after = directory := by
  rcases answered with exact | failed
  · exact guarded_cases exact
  · exact .inr failed

theorem mayAnswer_remember {turns : Transcript} {answer : Unit}
    (answered : MayAnswer (.remember session turns) directory answer after) :
    after = { directory with
      memory := Dictionary.insert session turns directory.memory } := by
  rcases answered with exact | impossible
  · exact congrArg Prod.snd exact
  · exact absurd impossible id

theorem mayAnswer_forget {answer : Unit}
    (answered : MayAnswer (.forget session) directory answer after) :
    after = { directory with memory := Dictionary.erase directory.memory session } := by
  rcases answered with exact | impossible
  · exact congrArg Prod.snd exact
  · exact absurd impossible id

end Steps

/-! ### Steps that do not fail -/

/-- A sequence is run one part after another, up to the first fault. -/
theorem run_bind (first : FileProgram α) (next : α → FileProgram β) (directory : Directory) :
    directory.run (first >>= next) =
      match directory.run first with
      | (.ok value, after) => after.run (next value)
      | (.error fault, after) => (.error fault, after) := by
  rw [run, ExceptT.run_bind]
  refine (Program.run_bind (I := fileInterface) answer first.run _ directory).trans ?_
  unfold run
  generalize Program.run (I := fileInterface) answer first.run directory = result
  obtain ⟨result, after⟩ := result
  cases result with
  | ok value => rfl
  | error fault => rfl

/-- The fault of an id that cannot name a file. -/
def unusable (session : String) : Fault :=
  .storage ("session id " ++ Text.quote session ++ " is not usable as a file name")

theorem run_checkId (session : String) (directory : Directory) :
    directory.run (FileStore.checkId session) =
      (if isUsableId session then .ok () else .error (unusable session), directory) := by
  rw [FileStore.checkId]
  split
  · rfl
  · rfl

/-- Replacing a file leaves all others alone, its temporary file apart. -/
theorem agreeBut_replaced (files : Dictionary String) (name content : String) :
    AgreeBut [name, temporary name] files
      (Dictionary.insert name content (Dictionary.erase
        (Dictionary.insert (temporary name) content files) (temporary name))) := by
  have wrote := (agreeBut_insert files (temporary name) content).mono
    (by simp : ∀ other ∈ [temporary name], other ∈ [name, temporary name])
  have erased := (agreeBut_erase (Dictionary.insert (temporary name) content files)
    (temporary name)).mono (by simp : ∀ other ∈ [temporary name], other ∈ [name, temporary name])
  exact (wrote.trans erased).trans ((agreeBut_insert _ name content).mono (by simp))

/-- A file is written if its name fits. -/
theorem run_write (name content : String) (directory : Directory) :
    directory.run (FileStore.write name content) =
      if fits directory.room name then
        (.ok (), { directory with files := Dictionary.insert name content directory.files })
      else (.error .files, directory) := by
  have written : directory.run (FileStore.write name content) =
      directory.guarded [name] (Dictionary.insert name content directory.files) := rfl
  rw [written, guarded]
  simp

/-- A file that is there is renamed if both names fit. -/
theorem run_rename {source content : String}
    (found : find? directory.files source = some content) (target : String) :
    directory.run (FileStore.rename source target) =
      if fits directory.room source && fits directory.room target then
        (.ok (), { directory with
          files := Dictionary.insert target content (Dictionary.erase directory.files source) })
      else (.error .files, directory) := by
  have moved : directory.run (FileStore.rename source target) =
      directory.answer (.rename source target) := rfl
  simp only [moved, answer, found, guarded]
  simp

/-- A file whose name and temporary name fit is replaced. -/
theorem run_replace {name : String} (fits : fits directory.room name = true)
    (temporaryFits : Directory.fits directory.room (temporary name) = true) (content : String) :
    directory.run (FileStore.replace name content) =
      (.ok (), { directory with
        files := Dictionary.insert name content (Dictionary.erase
          (Dictionary.insert (temporary name) content directory.files) (temporary name)) }) := by
  rw [FileStore.replace, run_bind, run_write, if_pos temporaryFits]
  exact (run_rename (Dictionary.find?_insert_self _ _ _) _).trans
    (if_pos (by simp [fits, temporaryFits]))

/-- Whether a file can be replaced depends on its name only. -/
theorem run_replace_fst (name content : String) (directory : Directory) :
    (directory.run (FileStore.replace name content)).1 =
      if fits directory.room (temporary name) && fits directory.room name then .ok ()
      else .error .files := by
  rw [FileStore.replace, run_bind, run_write]
  cases temporaryFits : fits directory.room (temporary name) with
  | false => rfl
  | true =>
      rw [if_pos rfl]
      dsimp only
      rw [run_rename (Dictionary.find?_insert_self _ _ _), temporaryFits]
      cases fits directory.room name <;> rfl

/-! ### Operations -/

/-- Loading gives the remembered transcript, or the one in the file, and then remembers it. -/
theorem run_load (session : String) (directory : Directory) :
    directory.run (FileStore.load session) =
      match find? directory.memory session with
      | some turns => (.ok turns, directory)
      | none =>
          if isUsableId session then
            (.ok (turnsIn (find? directory.files (transcriptFile session))),
              { directory with
                memory := Dictionary.insert session
                  (turnsIn (find? directory.files (transcriptFile session))) directory.memory })
          else (.error (unusable session), directory) := by
  have asked : directory.run (FileStore.remembered session) =
      (.ok (find? directory.memory session), directory) := rfl
  rw [FileStore.load, run_bind, asked]
  cases find? directory.memory session with
  | some turns => rfl
  | none =>
      dsimp only
      rw [run_bind, run_checkId]
      cases isUsableId session with
      | true => rfl
      | false => rfl

/-- The transcript file is replaced, and the transcript is remembered. -/
theorem run_save (usable : isUsableId session = true)
    (fits : fits directory.room (transcriptFile session) = true)
    (temporaryFits : Directory.fits directory.room (temporary (transcriptFile session)) = true)
    (turns : Transcript) :
    directory.run (FileStore.save session turns) =
      (.ok (), { directory with
        files := Dictionary.insert (transcriptFile session) turns.lines (Dictionary.erase
          (Dictionary.insert (temporary (transcriptFile session)) turns.lines directory.files)
          (temporary (transcriptFile session)))
        memory := Dictionary.insert session turns directory.memory }) := by
  rw [FileStore.save, run_bind, run_checkId, usable, if_pos rfl]
  dsimp only
  rw [run_bind, run_replace fits temporaryFits]
  rfl

/-- A file whose name fits is removed. -/
theorem run_remove {name : String} (fits : fits directory.room name = true) :
    directory.run (FileStore.remove name) =
      (.ok (), { directory with files := Dictionary.erase directory.files name }) := by
  have guarded : directory.run (FileStore.remove name) =
      directory.guarded [name] (Dictionary.erase directory.files name) := rfl
  rw [guarded, Directory.guarded, if_pos (by simp [fits])]

/-- A file whose name does not fit cannot be removed, not even if it is not there. -/
theorem run_remove_of_not_fits {name : String} (long : fits directory.room name = false) :
    directory.run (FileStore.remove name) = (.error .files, directory) := by
  have guarded : directory.run (FileStore.remove name) =
      directory.guarded [name] (Dictionary.erase directory.files name) := rfl
  rw [guarded, Directory.guarded, if_neg (by simp [long])]

/-- Both files are removed, and the transcript is forgotten. -/
theorem run_delete (usable : isUsableId session = true)
    (fits : fits directory.room (transcriptFile session) = true)
    (notesFits : Directory.fits directory.room (notesFile session) = true) :
    directory.run (FileStore.delete session) =
      (.ok (), { directory with
        files := Dictionary.erase (Dictionary.erase directory.files (transcriptFile session))
          (notesFile session)
        memory := Dictionary.erase directory.memory session }) := by
  rw [FileStore.delete, run_bind, run_checkId, usable, if_pos rfl]
  dsimp only
  rw [run_bind, run_remove fits]
  dsimp only
  rw [run_bind, run_remove (by exact notesFits)]
  rfl

/-- If the system file cannot be named, the transcript file is removed and the transcript is
remembered as it was. -/
theorem run_delete_of_not_fits (usable : isUsableId session = true)
    (fits : fits directory.room (transcriptFile session) = true)
    (long : Directory.fits directory.room (notesFile session) = false) :
    directory.run (FileStore.delete session) =
      (.error .files, { directory with
        files := Dictionary.erase directory.files (transcriptFile session) }) := by
  rw [FileStore.delete, run_bind, run_checkId, usable, if_pos rfl]
  dsimp only
  rw [run_bind, run_remove fits]
  dsimp only
  rw [run_bind, run_remove_of_not_fits (by exact long)]

/-- The system messages in the text of a file that may not be there. -/
def messagesIn : Option String → Except Fault (List String)
  | none => .ok []
  | some text =>
      match Json.decode? (Json.Decoder.list Json.Decoder.text) text with
      | some messages => .ok messages
      | none => .error .malformed

theorem run_loadNotes (session : String) (directory : Directory) :
    directory.run (FileStore.loadNotes session) =
      (if isUsableId session then messagesIn (find? directory.files (notesFile session))
        else .error (unusable session), directory) := by
  rw [FileStore.loadNotes, run_bind, run_checkId]
  cases isUsableId session with
  | false => rfl
  | true =>
      have read : directory.run (FileStore.read (notesFile session)) =
          (.ok (find? directory.files (notesFile session)), directory) := rfl
      rw [if_pos rfl, if_pos rfl]
      dsimp only
      rw [run_bind, read]
      cases find? directory.files (notesFile session) with
      | none => rfl
      | some text =>
          dsimp only [messagesIn]
          cases Json.decode? (Json.Decoder.list Json.Decoder.text) text with
          | some messages => rfl
          | none => rfl

theorem run_saveNotes (usable : isUsableId session = true)
    (fits : fits directory.room (notesFile session) = true)
    (temporaryFits : Directory.fits directory.room (temporary (notesFile session)) = true)
    (messages : List String) :
    directory.run (FileStore.saveNotes session messages) =
      (.ok (), { directory with
        files := Dictionary.insert (notesFile session) (String.ofList (Json.prettyTexts messages))
          (Dictionary.erase (Dictionary.insert (temporary (notesFile session))
            (String.ofList (Json.prettyTexts messages)) directory.files)
            (temporary (notesFile session))) }) := by
  rw [FileStore.saveNotes, run_bind, run_checkId, usable, if_pos rfl]
  dsimp only
  exact run_replace fits temporaryFits _

end Directory

end Parley
