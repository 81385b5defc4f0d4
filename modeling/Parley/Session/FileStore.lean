/-
Module: Parley.Session.FileStore
Layer: Session
Purpose: Transcripts and system messages kept in files of one directory, a transcript file and a
  system file for each session.  A file is replaced by writing a temporary file beside it and
  renaming that, so a reader finds the old text or the new one.  Transcripts that were read or
  written are remembered, and the memory is brought up to date only after the files are.  Each
  operation is a program over single steps on the directory and the memory.
Main exports: FileQuestion, fileInterface, FileStore.load, FileStore.save, FileStore.delete,
  FileStore.loadNotes, FileStore.saveNotes, Directory, Directory.atPath?, Directory.answer,
  Directory.run
-/
import Parley.Fault
import Parley.Program
import Parley.Transcript.Written

namespace Parley

/-- Steps on the directory and on the memory beside it. -/
inductive FileQuestion where
  /-- The text of a file, `none` if there is no such file. -/
  | read (name : String)
  | write (name content : String)
  | rename (source target : String)
  /-- Remove a file; it need not be there. -/
  | remove (name : String)
  /-- The transcript remembered for a session. -/
  | remembered (session : String)
  | remember (session : String) (turns : Transcript)
  | forget (session : String)
deriving DecidableEq

/-- The type of the answer to a step. -/
def FileQuestion.Answer : FileQuestion → Type
  | .read _ => Except Fault (Option String)
  | .write _ _ => Except Fault Unit
  | .rename _ _ => Except Fault Unit
  | .remove _ => Except Fault Unit
  | .remembered _ => Option Transcript
  | .remember _ _ => Unit
  | .forget _ => Unit

/-- The steps of the file store. -/
def fileInterface : Interface := ⟨FileQuestion, FileQuestion.Answer⟩

namespace FileStore

/-- An operation of the file store. -/
abbrev FileProgram (α : Type) : Type := ExceptT Fault (Program fileInterface) α

/-- One step that cannot fail. -/
def ask (question : FileQuestion) : FileProgram question.Answer :=
  ExceptT.lift (Program.query (I := fileInterface) question)

/-- Read a file. -/
def read (name : String) : FileProgram (Option String) :=
  ExceptT.mk (Program.query (I := fileInterface) (.read name))

/-- Write a file. -/
def write (name content : String) : FileProgram Unit :=
  ExceptT.mk (Program.query (I := fileInterface) (.write name content))

/-- Rename a file. -/
def rename (source target : String) : FileProgram Unit :=
  ExceptT.mk (Program.query (I := fileInterface) (.rename source target))

/-- Remove a file. -/
def remove (name : String) : FileProgram Unit :=
  ExceptT.mk (Program.query (I := fileInterface) (.remove name))

/-- The remembered transcript of a session. -/
def remembered (session : String) : FileProgram (Option Transcript) := ask (.remembered session)

/-- Remember a transcript. -/
def remember (session : String) (turns : Transcript) : FileProgram Unit :=
  ask (.remember session turns)

/-- Forget what is remembered of a session. -/
def forget (session : String) : FileProgram Unit := ask (.forget session)

/-! ### Names -/

/-- A text with two full stops in a row. -/
def hasDoubleDot : List Char → Bool
  | '.' :: '.' :: _ => true
  | _ :: rest => hasDoubleDot rest
  | [] => false

/-- Session ids name files, so what could leave the directory is refused. -/
def isUsableId (session : String) : Bool :=
  let chars := session.toList
  !chars.isEmpty && !chars.contains '/' && !chars.contains '\\' && !hasDoubleDot chars

/-- Refuse an id that cannot name a file. -/
def checkId (session : String) : FileProgram Unit :=
  if isUsableId session then pure ()
  else throw (.storage ("session id " ++ Text.quote session ++ " is not usable as a file name"))

/-- The file of a transcript. -/
def transcriptFile (session : String) : String := session ++ ".jsonl"

/-- The file of the system messages. -/
def notesFile (session : String) : String := session ++ ".system.json"

/-- The file that is written before it takes the place of another. -/
def temporary (name : String) : String := name ++ ".tmp"

/-! ### Operations -/

/-- Replace a file at once. -/
def replace (name content : String) : FileProgram Unit := do
  write (temporary name) content
  rename (temporary name) name

/-- The transcript in the text of a file that may not be there. -/
def turnsIn : Option String → Transcript
  | none => []
  | some text => Transcript.ofLines text

/-- The transcript of a session. -/
def load (session : String) : FileProgram Transcript := do
  match ← remembered session with
  | some turns => pure turns
  | none =>
      checkId session
      let content ← read (transcriptFile session)
      let turns := turnsIn content
      remember session turns
      pure turns

/-- Replace the transcript of a session. -/
def save (session : String) (turns : Transcript) : FileProgram Unit := do
  checkId session
  replace (transcriptFile session) turns.lines
  remember session turns

/-- Remove the files of a session. -/
def delete (session : String) : FileProgram Unit := do
  checkId session
  remove (transcriptFile session)
  remove (notesFile session)
  forget session

/-- The system messages of a session. -/
def loadNotes (session : String) : FileProgram (List String) := do
  checkId session
  match ← read (notesFile session) with
  | none => pure []
  | some text =>
      match Json.decode? (Json.Decoder.list Json.Decoder.text) text with
      | some messages => pure messages
      | none => throw .malformed

/-- Replace the system messages of a session. -/
def saveNotes (session : String) (messages : List String) : FileProgram Unit := do
  checkId session
  replace (notesFile session) (String.ofList (Json.prettyTexts messages))

end FileStore

/-! ### A directory -/

/-- The files of a directory by name, and the remembered transcripts. -/
structure Directory where
  /-- The greatest size of a file's name in bytes. -/
  room : Nat
  files : Dictionary String
  memory : Dictionary Transcript
deriving Inhabited

namespace Directory

/-- The greatest size of a name in bytes. -/
def greatestName : Nat := 255

/-- The greatest size of a path in bytes. -/
def greatestPath : Nat := 4095

/-- An empty directory, whose path leaves room for all names. -/
def empty : Directory := ⟨greatestName, [], []⟩

/-- A name that is short enough and without the null character. -/
def fits (room : Nat) (name : String) : Bool :=
  name.utf8ByteSize ≤ room && !name.toList.contains '\x00'

/-- The size of a path and of the separator that follows it, unless it ends with one. -/
def sizeBefore (path : String) : Nat :=
  path.utf8ByteSize + if path.toList.getLast? = some '/' then 0 else 1

/-- An empty directory at a path, if the path is short enough and so is each name in it.  Its files
have paths too, so their names have the room that it leaves. -/
def atPath? (path : String) : Option Directory :=
  if path.utf8ByteSize ≤ greatestPath && (path.splitOn "/").all (fits greatestName) then
    some { empty with room := min greatestName (greatestPath - sizeBefore path) }
  else none

/-- A step on the files, refused for names that do not fit. -/
def guarded (directory : Directory) (names : List String) (files : Dictionary String) :
    Except Fault Unit × Directory :=
  if names.all (fits directory.room) then (.ok (), { directory with files := files })
  else (.error .files, directory)

/-- One step. -/
def answer (question : FileQuestion) : StateM Directory question.Answer := fun directory =>
  match question with
  | .read name => (.ok (Dictionary.find? directory.files name), directory)
  | .write name content =>
      directory.guarded [name] (Dictionary.insert name content directory.files)
  | .rename source target =>
      match Dictionary.find? directory.files source with
      | none => (.error .files, directory)
      | some content =>
          directory.guarded [source, target]
            (Dictionary.insert target content (Dictionary.erase directory.files source))
  | .remove name => directory.guarded [name] (Dictionary.erase directory.files name)
  | .remembered session => (Dictionary.find? directory.memory session, directory)
  | .remember session turns =>
      ((), { directory with memory := Dictionary.insert session turns directory.memory })
  | .forget session =>
      ((), { directory with memory := Dictionary.erase directory.memory session })

/-- Run an operation of the file store without interruption. -/
def run {α : Type} (operation : FileStore.FileProgram α) (directory : Directory) :
    Except Fault α × Directory :=
  Program.run (I := fileInterface) answer operation.run directory

/-- The same directory, opened again. -/
def reopen (directory : Directory) : Directory := { directory with memory := [] }

/-- Forget the remembered transcript of a session. -/
def invalidate (directory : Directory) (session : String) : Directory :=
  { directory with memory := Dictionary.erase directory.memory session }

end Directory

end Parley
