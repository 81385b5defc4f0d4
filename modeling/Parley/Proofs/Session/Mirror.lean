/-
Module: Parley.Proofs.Session.Mirror
Layer: Proofs
Purpose: Sessions kept in files, used one operation after another, are what they are in memory
  without a time to live.  The files hold what the memory store holds, and what is remembered beside
  them is the same again, so it may be forgotten at any time.
Main exports: StoreStep, StoreReply, Backend.take, Backend.replies, Mirrors, Mirrors.take,
  Backend.replies_files_eq_memory
-/
import Parley.Proofs.Session.Directory
import Parley.Proofs.Session.Kept
import Parley.Proofs.Transcript.Written

namespace Parley

open Dictionary (find?)
open FileStore (transcriptFile notesFile temporary turnsIn)

/-! ### Uses of a store -/

/-- One use of a store. -/
inductive StoreStep where
  | load (session : String)
  | save (session : String) (turns : Transcript)
  | delete (session : String)
  | loadNotes (session : String)
  | saveNotes (session : String) (messages : List String)
  /-- Forget what is remembered of a session beside its files. -/
  | invalidate (session : String)
  /-- Open the directory again. -/
  | reopen

/-- What a use of a store comes to. -/
inductive StoreReply where
  | turns (result : Except Fault Transcript)
  | messages (result : Except Fault (List String))
  | finished (result : Except Fault Unit)

/-- A session whose id can name files, and the names fit into the room for them. -/
def Directory.Accepts (room : Nat) (session : String) : Prop :=
  FileStore.isUsableId session = true ∧
    ∀ name ∈ [transcriptFile session, notesFile session, temporary (transcriptFile session),
      temporary (notesFile session)], Directory.fits room name = true

/-- Each session in a step is accepted. -/
def StoreStep.Accepted (room : Nat) : StoreStep → Prop
  | .load session => Directory.Accepts room session
  | .save session _ => Directory.Accepts room session
  | .delete session => Directory.Accepts room session
  | .loadNotes session => Directory.Accepts room session
  | .saveNotes session _ => Directory.Accepts room session
  | .invalidate _ => True
  | .reopen => True

namespace Backend

/-- Change what is remembered beside files; in memory nothing is. -/
def onMemory (change : Directory → Directory) : Backend → Backend
  | .memory store => .memory store
  | .files directory => .files (change directory)

/-- One use of a backend, at a time and without a time to live. -/
def take (step : StoreStep) (now : Int) (backend : Backend) : StoreReply × Backend :=
  match step with
  | .load session =>
      let (result, after) := backend.load session now
      (.turns result, after)
  | .save session turns =>
      let (result, after) := backend.save session turns none now
      (.finished result, after)
  | .delete session =>
      let (result, after) := backend.delete session
      (.finished result, after)
  | .loadNotes session =>
      let (result, after) := backend.loadNotes session now
      (.messages result, after)
  | .saveNotes session messages =>
      let (result, after) := backend.saveNotes session messages none now
      (.finished result, after)
  | .invalidate session =>
      (.finished (.ok ()), backend.onMemory fun directory => directory.invalidate session)
  | .reopen => (.finished (.ok ()), backend.onMemory Directory.reopen)

/-- What uses of a backend come to, one after another. -/
def replies (backend : Backend) : List (Int × StoreStep) → List StoreReply
  | [] => []
  | (now, step) :: steps =>
      let (reply, after) := backend.take step now
      reply :: after.replies steps

end Backend

/-! ### The mirror -/

/-- The transcript of a session in memory. -/
def MemoryStore.turnsOf (store : MemoryStore) (session : String) : Transcript :=
  ((find? store.transcripts session).map (·.value)).getD []

/-- The system messages of a session in memory. -/
def MemoryStore.messagesOf (store : MemoryStore) (session : String) : List String :=
  ((find? store.notes session).map (·.value)).getD []

section Stores

variable (store : MemoryStore) (session other : String)

theorem MemoryStore.turnsOf_save (turns : Transcript) (now : Int) :
    (store.save session turns none now).turnsOf other =
      if session = other then turns else store.turnsOf other := by
  by_cases same : session = other
  · subst same
    simp [turnsOf, save, Lasting.store]
  · simp [turnsOf, save, Dictionary.find?_insert_of_ne _ _ same, same]

theorem MemoryStore.turnsOf_delete :
    (store.delete session).turnsOf other =
      if session = other then [] else store.turnsOf other := by
  by_cases same : session = other
  · subst same
    simp [turnsOf, delete]
  · simp [turnsOf, delete, Dictionary.find?_erase_of_ne _ same, same]

theorem MemoryStore.messagesOf_saveNotes (messages : List String) (now : Int) :
    (store.saveNotes session messages none now).messagesOf other =
      if session = other then messages else store.messagesOf other := by
  by_cases same : session = other
  · subst same
    simp [messagesOf, saveNotes, Lasting.store]
  · simp [messagesOf, saveNotes, Dictionary.find?_insert_of_ne _ _ same, same]

theorem MemoryStore.messagesOf_delete :
    (store.delete session).messagesOf other =
      if session = other then [] else store.messagesOf other := by
  by_cases same : session = other
  · subst same
    simp [messagesOf, delete]
  · simp [messagesOf, delete, Dictionary.find?_erase_of_ne _ same, same]

end Stores

/-- A directory holds what a memory store holds. -/
structure Mirrors (directory : Directory) (store : MemoryStore) : Prop where
  endless : Lasting.Endless store.transcripts
  endlessNotes : Lasting.Endless store.notes
  transcripts : ∀ session,
    turnsIn (find? directory.files (transcriptFile session)) = store.turnsOf session
  notes : ∀ session,
    Directory.messagesIn (find? directory.files (notesFile session)) =
      .ok (store.messagesOf session)
  /-- What is remembered may be missing but is never different. -/
  remembered : ∀ session turns, find? directory.memory session = some turns →
    turns = store.turnsOf session

namespace Mirrors

variable {directory : Directory} {store : MemoryStore} {session : String}

theorem empty (room : Nat) : Mirrors ⟨room, [], []⟩ .empty where
  endless := by simp [Lasting.Endless, MemoryStore.empty]
  endlessNotes := by simp [Lasting.Endless, MemoryStore.empty]
  transcripts _ := rfl
  notes _ := rfl
  remembered _ _ found := by simp at found

/-- Where a transcript of a session is remembered, what was remembered of others still holds. -/
theorem remembered_insert (mirrors : Mirrors directory store) {turns : Transcript}
    {holds : String → Transcript} (here : holds session = turns)
    (others : ∀ other, session ≠ other → holds other = store.turnsOf other) (other : String)
    (found : Transcript)
    (isFound : find? (Dictionary.insert session turns directory.memory) other = some found) :
    found = holds other := by
  by_cases same : session = other
  · subst same
    rw [Dictionary.find?_insert_self] at isFound
    rw [here]
    exact (Option.some.inj isFound).symm
  · rw [Dictionary.find?_insert_of_ne _ _ same] at isFound
    rw [others other same]
    exact mirrors.remembered other found isFound

/-- Loading gives the same, and remembers it on one side. -/
theorem load (mirrors : Mirrors directory store)
    (accepted : Directory.Accepts directory.room session) (now : Int) :
    store.load session now = (store.turnsOf session, store) ∧
      ∃ memory, directory.run (FileStore.load session) =
          (.ok (store.turnsOf session), { directory with memory := memory }) ∧
        Mirrors { directory with memory := memory } store := by
  constructor
  · rw [MemoryStore.load, mirrors.endless.read_eq]
    rfl
  · rw [Directory.run_load]
    cases found : find? directory.memory session with
    | some turns =>
        refine ⟨directory.memory, ?_, mirrors⟩
        rw [mirrors.remembered session turns found]
    | none =>
        have sameTurns := mirrors.transcripts session
        rw [accepted.1, if_pos rfl, sameTurns]
        refine ⟨_, rfl, ?_⟩
        exact { mirrors with remembered := mirrors.remembered_insert rfl fun _ _ => rfl }

/-- A transcript that is saved is in its file, and is remembered. -/
theorem save (mirrors : Mirrors directory store)
    (accepted : Directory.Accepts directory.room session) (turns : Transcript) (now : Int) :
    ∃ files memory, directory.run (FileStore.save session turns) =
        (.ok (), { directory with files := files, memory := memory }) ∧
      Mirrors { directory with files := files, memory := memory }
        (store.save session turns none now) := by
  obtain ⟨usable, fits⟩ := accepted
  refine ⟨_, _, Directory.run_save usable (fits _ (by simp)) (fits _ (by simp)) turns, ?_⟩
  have agree := Directory.agreeBut_replaced directory.files (transcriptFile session) turns.lines
  have turnsOf := fun other => store.turnsOf_save session other turns now
  constructor
  · exact mirrors.endless.insert session turns now
  · exact mirrors.endlessNotes
  · intro other
    rw [turnsOf]
    by_cases same : session = other
    · subst same
      rw [Dictionary.find?_insert_self, if_pos rfl]
      exact turns.ofLines_lines
    · rw [if_neg same, ← mirrors.transcripts other, agree]
      simp [FileStore.transcriptFile_inj, Ne.symm same, FileStore.transcriptFile_ne_temporary]
  · intro other
    have sameNotes := mirrors.notes other
    rw [← agree (notesFile other) (by
      simp [(FileStore.transcriptFile_ne_notesFile session other).symm,
        FileStore.notesFile_ne_temporary])] at sameNotes
    exact sameNotes
  · apply mirrors.remembered_insert
    · rw [turnsOf, if_pos rfl]
    · intro other different
      rw [turnsOf, if_neg different]

/-- A session that is deleted is gone on both sides. -/
theorem delete (mirrors : Mirrors directory store)
    (accepted : Directory.Accepts directory.room session) :
    ∃ files memory, directory.run (FileStore.delete session) =
        (.ok (), { directory with files := files, memory := memory }) ∧
      Mirrors { directory with files := files, memory := memory } (store.delete session) := by
  obtain ⟨usable, fits⟩ := accepted
  refine ⟨_, _, Directory.run_delete usable (fits _ (by simp)) (fits _ (by simp)), ?_⟩
  have agreeTurns := agreeBut_erase directory.files (transcriptFile session)
  have agreeNotes := agreeBut_erase (Dictionary.erase directory.files (transcriptFile session))
    (notesFile session)
  constructor
  · exact fun entry member => mirrors.endless entry (List.mem_filter.1 member).1
  · exact fun entry member => mirrors.endlessNotes entry (List.mem_filter.1 member).1
  · intro other
    rw [store.turnsOf_delete, agreeNotes _ (by simp [FileStore.transcriptFile_ne_notesFile])]
    by_cases same : session = other
    · subst same
      rw [Dictionary.find?_erase_self, if_pos rfl]
      rfl
    · rw [if_neg same, ← mirrors.transcripts other, agreeTurns]
      simp [FileStore.transcriptFile_inj, Ne.symm same]
  · intro other
    rw [store.messagesOf_delete]
    by_cases same : session = other
    · subst same
      rw [Dictionary.find?_erase_self, if_pos rfl]
      rfl
    · rw [if_neg same, ← mirrors.notes other, agreeNotes _ (by
        simp [FileStore.notesFile_inj, Ne.symm same]), agreeTurns]
      simp [(FileStore.transcriptFile_ne_notesFile session other).symm]
  · intro other turns found
    rw [store.turnsOf_delete]
    by_cases same : session = other
    · subst same
      rw [Dictionary.find?_erase_self] at found
      cases found
    · rw [Dictionary.find?_erase_of_ne _ same] at found
      rw [if_neg same]
      exact mirrors.remembered other turns found

theorem loadNotes (mirrors : Mirrors directory store)
    (accepted : Directory.Accepts directory.room session) (now : Int) :
    store.loadNotes session now = (store.messagesOf session, store) ∧
      directory.run (FileStore.loadNotes session) = (.ok (store.messagesOf session), directory) := by
  constructor
  · rw [MemoryStore.loadNotes, mirrors.endlessNotes.read_eq]
    rfl
  · rw [Directory.run_loadNotes, accepted.1, if_pos rfl, mirrors.notes]

theorem saveNotes (mirrors : Mirrors directory store)
    (accepted : Directory.Accepts directory.room session) (messages : List String) (now : Int) :
    ∃ files, directory.run (FileStore.saveNotes session messages) =
        (.ok (), { directory with files := files }) ∧
      Mirrors { directory with files := files } (store.saveNotes session messages none now) := by
  obtain ⟨usable, fits⟩ := accepted
  refine ⟨_, Directory.run_saveNotes usable (fits _ (by simp)) (fits _ (by simp)) messages, ?_⟩
  have agree := Directory.agreeBut_replaced directory.files (notesFile session)
    (String.ofList (Json.prettyTexts messages))
  constructor
  · exact mirrors.endless
  · exact mirrors.endlessNotes.insert session messages now
  · intro other
    have sameTurns := mirrors.transcripts other
    rw [← agree (transcriptFile other) (by
      simp [FileStore.transcriptFile_ne_notesFile, FileStore.transcriptFile_ne_temporary])]
      at sameTurns
    exact sameTurns
  · intro other
    rw [store.messagesOf_saveNotes]
    by_cases same : session = other
    · subst same
      rw [Dictionary.find?_insert_self, if_pos rfl]
      simp [Directory.messagesIn, Json.decode?_prettyTexts]
    · rw [if_neg same, ← mirrors.notes other, agree]
      simp [FileStore.notesFile_inj, Ne.symm same, FileStore.notesFile_ne_temporary]
  · exact mirrors.remembered

/-- Anything that is remembered may be forgotten. -/
theorem forget (mirrors : Mirrors directory store) {memory : Dictionary Transcript}
    (fewer : ∀ session turns, find? memory session = some turns →
      find? directory.memory session = some turns) :
    Mirrors { directory with memory := memory } store :=
  { mirrors with
    remembered := fun session turns found =>
      mirrors.remembered session turns (fewer session turns found) }

/-- One use comes to the same on both sides, and the directory holds what the store holds again. -/
theorem take (mirrors : Mirrors directory store) {step : StoreStep}
    (accepted : step.Accepted directory.room) (now : Int) :
    ∃ reply after storeAfter, (Backend.files directory).take step now = (reply, .files after) ∧
      (Backend.memory store).take step now = (reply, .memory storeAfter) ∧
      Mirrors after storeAfter ∧ after.room = directory.room := by
  cases step with
  | load session =>
      obtain ⟨loaded, memory, ran, mirrorsAfter⟩ := mirrors.load accepted now
      refine ⟨.turns (.ok (store.turnsOf session)), _, _, ?_, ?_, mirrorsAfter, rfl⟩
      · simp only [Backend.take, Backend.load, Backend.onFiles, ran]
      · simp only [Backend.take, Backend.load, loaded]
  | save session turns =>
      obtain ⟨files, memory, ran, mirrorsAfter⟩ := mirrors.save accepted turns now
      refine ⟨.finished (.ok ()), _, _, ?_, ?_, mirrorsAfter, rfl⟩
      · simp only [Backend.take, Backend.save, Backend.onFiles, ran]
      · simp only [Backend.take, Backend.save]
  | delete session =>
      obtain ⟨files, memory, ran, mirrorsAfter⟩ := mirrors.delete accepted
      refine ⟨.finished (.ok ()), _, _, ?_, ?_, mirrorsAfter, rfl⟩
      · simp only [Backend.take, Backend.delete, Backend.onFiles, ran]
      · simp only [Backend.take, Backend.delete]
  | loadNotes session =>
      obtain ⟨loaded, ran⟩ := mirrors.loadNotes accepted now
      refine ⟨.messages (.ok (store.messagesOf session)), _, _, ?_, ?_, mirrors, rfl⟩
      · simp only [Backend.take, Backend.loadNotes, Backend.onFiles, ran]
      · simp only [Backend.take, Backend.loadNotes, loaded]
  | saveNotes session messages =>
      obtain ⟨files, ran, mirrorsAfter⟩ := mirrors.saveNotes accepted messages now
      refine ⟨.finished (.ok ()), _, _, ?_, ?_, mirrorsAfter, rfl⟩
      · simp only [Backend.take, Backend.saveNotes, Backend.onFiles, ran]
      · simp only [Backend.take, Backend.saveNotes]
  | invalidate session =>
      refine ⟨.finished (.ok ()), _, _, rfl, rfl, mirrors.forget ?_, rfl⟩
      intro other turns found
      by_cases same : session = other
      · subst same
        rw [Dictionary.find?_erase_self] at found
        cases found
      · rwa [Dictionary.find?_erase_of_ne _ same] at found
  | reopen =>
      refine ⟨.finished (.ok ()), _, _, rfl, rfl, mirrors.forget ?_, rfl⟩
      intro other turns found
      rw [Dictionary.find?_nil] at found
      cases found

end Mirrors

namespace Backend

theorem replies_of_mirrors {directory : Directory} {store : MemoryStore}
    (mirrors : Mirrors directory store) (steps : List (Int × StoreStep))
    (accepted : ∀ entry ∈ steps, entry.2.Accepted directory.room) :
    (files directory).replies steps = (memory store).replies steps := by
  induction steps generalizing directory store with
  | nil => rfl
  | cons entry steps ih =>
      obtain ⟨now, step⟩ := entry
      obtain ⟨reply, after, storeAfter, took, tookToo, mirrorsAfter, sameRoom⟩ :=
        mirrors.take (accepted (now, step) List.mem_cons_self) now
      have others := ih mirrorsAfter fun other member =>
        sameRoom ▸ accepted other (List.mem_cons_of_mem _ member)
      rw [replies, replies, took, tookToo]
      exact congrArg (reply :: ·) others

/-- A directory that starts empty and a memory store give the same replies, whatever is loaded,
saved, deleted, forgotten and opened again, in whatever order and at whatever times, for all
sessions whose files can be named. -/
theorem replies_files_eq_memory (room : Nat) (steps : List (Int × StoreStep))
    (accepted : ∀ entry ∈ steps, entry.2.Accepted room) :
    (files ⟨room, [], []⟩).replies steps = (memory .empty).replies steps :=
  replies_of_mirrors (Mirrors.empty room) steps accepted

/-- Sessions whose ids look like the files of others, one of them opened again. -/
def lookalikes : List (Int × StoreStep) :=
  [(0, .save "a" [.plain .user "one"]), (5, .saveNotes "a.jsonl" ["two"]), (9, .reopen),
    (9, .save "a.system" []), (9, .load "a"), (12, .delete "a.jsonl"), (12, .loadNotes "a.jsonl")]

theorem replies_lookalikes :
    (∀ entry ∈ lookalikes, entry.2.Accepted 255) ∧
      (files ⟨255, [], []⟩).replies lookalikes = (memory .empty).replies lookalikes := by
  have accepted : ∀ entry ∈ lookalikes, entry.2.Accepted 255 := by
    simp only [lookalikes, List.mem_cons, List.not_mem_nil, or_false]
    rintro entry (rfl | rfl | rfl | rfl | rfl | rfl | rfl)
    · exact ⟨by decide, by decide⟩
    · exact ⟨by decide, by decide⟩
    · trivial
    · exact ⟨by decide, by decide⟩
    · exact ⟨by decide, by decide⟩
    · exact ⟨by decide, by decide⟩
    · exact ⟨by decide, by decide⟩
  exact ⟨accepted, replies_files_eq_memory 255 lookalikes accepted⟩

end Backend

end Parley
