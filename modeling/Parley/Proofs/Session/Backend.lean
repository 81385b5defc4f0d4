/-
Module: Parley.Proofs.Session.Backend
Layer: Proofs
Purpose: What the operations of a backend may come to, where the steps on a directory may fail, and
  a property of all stored transcripts through them.
Main exports: Backend.Does, Backend.MayLoad, Backend.MaySave, Backend.AllStored,
  Backend.AllStored.mayLoad, Backend.AllStored.maySave
-/
import Parley.Proofs.Dictionary
import Parley.Proofs.Session.FileStore
import Parley.Proofs.Session.MemoryStore
import Parley.Session.Backend

namespace Parley

open Dictionary (find?)

namespace Backend

variable {α : Type} {session : String} {now : Int} {ttl : Option Duration} {turns : Transcript}
  {messages : List String}

/-! ### What operations may come to -/

/-- An operation in memory is exact; on a directory each of its steps may fail. -/
inductive Does (onMemory : MemoryStore → α × MemoryStore) (onFiles : FileStore.FileProgram α) :
    Backend → Except Fault α → Backend → Prop where
  | memory (store : MemoryStore) :
      Does onMemory onFiles (.memory store) (.ok (onMemory store).1) (.memory (onMemory store).2)
  | files {directory after : Directory} {result : Except Fault α} :
      Program.Leads Directory.MayAnswer onFiles.run directory (.done result) after →
      Does onMemory onFiles (.files directory) result (.files after)

/-- Loading the transcript of a session may come to a result and leave a backend. -/
def MayLoad (session : String) (now : Int) : Backend → Except Fault Transcript → Backend → Prop :=
  Does (fun store => store.load session now) (FileStore.load session)

def MaySave (session : String) (turns : Transcript) (ttl : Option Duration) (now : Int) :
    Backend → Except Fault Unit → Backend → Prop :=
  Does (fun store => ((), store.save session turns ttl now)) (FileStore.save session turns)

def MayLoadNotes (session : String) (now : Int) :
    Backend → Except Fault (List String) → Backend → Prop :=
  Does (fun store => store.loadNotes session now) (FileStore.loadNotes session)

def MaySaveNotes (session : String) (messages : List String) (ttl : Option Duration) (now : Int) :
    Backend → Except Fault Unit → Backend → Prop :=
  Does (fun store => ((), store.saveNotes session messages ttl now))
    (FileStore.saveNotes session messages)

/-- Without failures an operation comes to what it may come to. -/
theorem does_onFiles (onMemory : MemoryStore → α × MemoryStore)
    (onFiles : FileStore.FileProgram α) (directory : Directory) :
    Does onMemory onFiles (.files directory) (Backend.onFiles directory onFiles).1
      (Backend.onFiles directory onFiles).2 :=
  .files (Directory.leads_run onFiles directory)

theorem mayLoad_load (backend : Backend) :
    MayLoad session now backend (backend.load session now).1 (backend.load session now).2 := by
  cases backend with
  | memory store => exact .memory store
  | files directory => exact does_onFiles _ _ directory

theorem maySave_save (backend : Backend) :
    MaySave session turns ttl now backend (backend.save session turns ttl now).1
      (backend.save session turns ttl now).2 := by
  cases backend with
  | memory store => exact .memory store
  | files directory => exact does_onFiles _ _ directory

theorem mayLoadNotes_loadNotes (backend : Backend) :
    MayLoadNotes session now backend (backend.loadNotes session now).1
      (backend.loadNotes session now).2 := by
  cases backend with
  | memory store => exact .memory store
  | files directory => exact does_onFiles _ _ directory

/-! ### A property of all stored transcripts -/

/-- Every transcript that can be loaded, at whatever time, has a property. -/
def AllStored (holds : Transcript → Prop) (backend : Backend) : Prop :=
  ∀ session now turns, (backend.load session now).1 = .ok turns → holds turns

section AllStored

variable {holds : Transcript → Prop} {backend after : Backend}

theorem allStored_memory_iff {store : MemoryStore} :
    AllStored holds (.memory store) ↔ ∀ session now, holds (store.load session now).1 := by
  constructor
  · intro all session now
    exact all session now _ rfl
  · intro all session now turns loaded
    cases loaded
    exact all session now

theorem allStored_files_iff {directory : Directory} :
    AllStored holds (.files directory) ↔
      ∀ session, directory.Readable session → holds (directory.stored session) := by
  constructor
  · intro all session readable
    exact all session 0 _ (FileStore.run_load readable)
  · intro all session now turns loaded
    obtain ⟨-, -, -, isStored⟩ := FileStore.keeps_load.leads
      (Directory.leads_run (FileStore.load session) directory)
    obtain ⟨rfl, readable⟩ := isStored turns loaded
    exact all session readable

/-- What a load comes to has the property, and all that is stored keeps it. -/
theorem AllStored.mayLoad {result : Except Fault Transcript} (all : AllStored holds backend)
    (holdsEmpty : holds []) (does : MayLoad session now backend result after) :
    AllStored holds after ∧ ∀ turns, result = .ok turns → holds turns := by
  cases does with
  | memory store =>
      rw [allStored_memory_iff] at all ⊢
      constructor
      · intro other later
        rcases store.load_load session other now later with same | isEmpty
        · exact same ▸ all other later
        · exact isEmpty ▸ holdsEmpty
      · intro turns same
        cases same
        exact all session now
  | files leads =>
      rw [allStored_files_iff] at all ⊢
      obtain ⟨-, storedSame, readableSame, isStored⟩ := FileStore.keeps_load.leads leads
      constructor
      · intro other readable
        exact storedSame other ▸ all other (readableSame other readable)
      · intro turns same
        obtain ⟨rfl, readable⟩ := isStored turns same
        exact all session readable

/-- Storing what has the property keeps it, whether the save succeeds or not. -/
theorem AllStored.maySave {result : Except Fault Unit} (all : AllStored holds backend)
    (holdsEmpty : holds []) (holdsTurns : holds turns)
    (does : MaySave session turns ttl now backend result after) : AllStored holds after := by
  cases does with
  | memory store =>
      rw [allStored_memory_iff] at all ⊢
      intro other later
      by_cases same : session = other
      · subst same
        rcases store.load_save_self session turns ttl now later with isTurns | isEmpty
        · rw [isTurns]
          exact holdsTurns
        · rw [isEmpty]
          exact holdsEmpty
      · rw [MemoryStore.load_save_of_ne same]
        exact all other later
  | files leads =>
      rw [allStored_files_iff] at all ⊢
      have kept := FileStore.keeps_save.leads leads
      cases result with
      | ok _ =>
          obtain ⟨agree, -, memoryEq, usable⟩ := kept
          intro other readable
          rw [Directory.stored_of_saved agree memoryEq]
          split
          · exact holdsTurns
          · exact all other (Directory.readable_of_saved memoryEq usable readable)
      | error fault =>
          obtain ⟨agree, memoryEq⟩ := kept
          intro other readable
          rw [Directory.stored_of_agree memoryEq agree
            (by simp [FileStore.transcriptFile_ne_temporary])]
          exact all other (by rwa [Directory.Readable, memoryEq] at readable)

theorem AllStored.mayLoadNotes {result : Except Fault (List String)}
    (all : AllStored holds backend) (does : MayLoadNotes session now backend result after) :
    AllStored holds after := by
  cases does with
  | memory store =>
      rw [allStored_memory_iff] at all ⊢
      exact all
  | files leads =>
      obtain rfl := FileStore.keeps_loadNotes.leads leads
      exact all

theorem AllStored.maySaveNotes {result : Except Fault Unit} (all : AllStored holds backend)
    (does : MaySaveNotes session messages ttl now backend result after) :
    AllStored holds after := by
  cases does with
  | memory store =>
      rw [allStored_memory_iff] at all ⊢
      exact all
  | files leads =>
      rw [allStored_files_iff] at all ⊢
      obtain ⟨agree, memoryEq⟩ := FileStore.keeps_saveNotes.leads leads
      intro other readable
      rw [Directory.stored_of_agree memoryEq agree (by
        simp [FileStore.transcriptFile_ne_temporary, FileStore.transcriptFile_ne_notesFile])]
      exact all other (by rwa [Directory.Readable, memoryEq] at readable)

end AllStored

end Backend

end Parley
