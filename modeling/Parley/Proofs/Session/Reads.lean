/-
Module: Parley.Proofs.Session.Reads
Layer: Proofs
Purpose: What can be read of a session, its transcript and its system messages, as time goes on.
  Reading and writing for one session leaves what can be read of all others.  Two stores of one kind
  in which the same can be read of a session answer alike for it, whatever they hold for others, and
  the same can be read of it again.
Main exports: Backend.reads, Backend.room?, Backend.reads_load, Backend.reads_of_mayLoad,
  Backend.reads_save_of_ne, Backend.Matched
-/
import Parley.Proofs.Session.Directory
import Parley.Proofs.Session.Kept

namespace Parley

open Dictionary (find?)
open FileStore (isUsableId transcriptFile notesFile temporary turnsIn)

/-! ### In memory -/

namespace Lasting

variable {α : Type}

/-- An entry that has ended stays so, so dropping it changes nothing that is read later. -/
theorem current_filter {now later : Int} (forward : now ≤ later) (found? : Option (Lasting α)) :
    (found?.filter fun entry => !entry.isOver now).bind (current later) =
      found?.bind (current later) := by
  cases found? with
  | none => rfl
  | some entry =>
      cases ended : entry.isOver now with
      | false => simp [Option.filter, ended]
      | true =>
          have stillOver : entry.isOver later = true := by
            rw [isOver] at ended ⊢
            cases isEnd : entry.ends with
            | none => simp [isEnd] at ended
            | some moment =>
                simp only [isEnd, decide_eq_true_eq] at ended ⊢
                omega
          simp [Option.filter, ended, current, stillOver]

/-- After a read the same can be read, later of its own session and always of any other. -/
theorem read_read {now later : Int} (table : Dictionary (Lasting α)) {session other : String}
    (unharmed : now ≤ later ∨ other ≠ session) :
    (read (read table session now).2 other later).1 = (read table other later).1 := by
  rw [read_fst, read_fst, find?_read]
  split
  · next same =>
      subst same
      exact current_filter (unharmed.resolve_right fun different => different rfl) _
  · rfl

end Lasting

/-! ### In a directory -/

namespace Directory

variable {α : Type} {session other : String} {directory : Directory}

theorem answer_room (question : FileQuestion) (directory : Directory) :
    (directory.answer question).2.room = directory.room := by
  have guardedRoom : ∀ names files, (directory.guarded names files).2.room = directory.room := by
    intro names files
    rw [guarded]
    split <;> rfl
  cases question with
  | write => exact guardedRoom _ _
  | rename source target =>
      simp only [answer]
      split
      · rfl
      · exact guardedRoom _ _
  | remove => exact guardedRoom _ _
  | _ => rfl

/-- No operation changes how long names may be. -/
theorem run_room (operation : FileStore.FileProgram α) (directory : Directory) :
    (directory.run operation).2.room = directory.room := by
  have kept : ∀ (program : Program fileInterface (Except Fault α)) (directory : Directory),
      (Program.run (I := fileInterface) answer program directory).2.room = directory.room := by
    intro program
    induction program with
    | done result => exact fun _ => rfl
    | ask question next ih =>
        exact fun directory => (ih _ _).trans (answer_room question directory)
  exact kept operation.run directory

/-- Whether a transcript can be saved depends on the id of its session only. -/
theorem run_save_fst (session : String) (turns : Transcript) (directory : Directory) :
    (directory.run (FileStore.save session turns)).1 =
      if isUsableId session then
        if fits directory.room (temporary (transcriptFile session)) &&
            fits directory.room (transcriptFile session) then .ok ()
        else .error .files
      else .error (unusable session) := by
  rw [FileStore.save, run_bind, run_checkId]
  cases isUsableId session with
  | false => rfl
  | true =>
      rw [if_pos rfl, if_pos rfl]
      dsimp only
      rw [run_bind, ← run_replace_fst _ turns.lines]
      cases directory.run (FileStore.replace (transcriptFile session) turns.lines) with
      | mk result after => cases result <;> rfl

theorem run_load_fst (session : String) (directory : Directory) :
    (directory.run (FileStore.load session)).1 =
      match find? directory.memory session with
      | some turns => .ok turns
      | none =>
          if isUsableId session then
            .ok (turnsIn (find? directory.files (transcriptFile session)))
          else .error (unusable session) := by
  rw [run_load]
  cases find? directory.memory session with
  | some turns => rfl
  | none => cases isUsableId session <;> rfl

/-- What is read of a session depends on what is remembered of it and on its two files. -/
theorem loads_congr {before after : Directory}
    (remembered : find? after.memory session = find? before.memory session)
    (transcript : find? after.files (transcriptFile session) =
      find? before.files (transcriptFile session))
    (messages : find? after.files (notesFile session) = find? before.files (notesFile session)) :
    (after.run (FileStore.load session)).1 = (before.run (FileStore.load session)).1 ∧
      (after.run (FileStore.loadNotes session)).1 =
        (before.run (FileStore.loadNotes session)).1 := by
  constructor
  · rw [run_load_fst, run_load_fst, remembered, transcript]
  · rw [run_loadNotes, run_loadNotes, messages]

/-- Loading a transcript where steps may fail fails, or is as if none had. -/
theorem run_load_of_leads {after : Directory} {turns : Transcript}
    (leads : Program.Leads MayAnswer (FileStore.load session).run directory (.done (.ok turns))
      after) :
    directory.run (FileStore.load session) = (.ok turns, after) := by
  have keeps : (FileStore.load session).run.Keeps faulty
      (fun result after => ∀ turns, result = .ok turns →
        directory.run (FileStore.load session) = (.ok turns, after)) directory := by
    simp only [run_load]
    rw [FileStore.load, Program.keeps_run_bind]
    refine Program.keeps_query.2 ⟨trivial, ?_⟩
    intro answer after answered
    rcases answered with exact | impossible
    · cases exact
      cases remembered : find? directory.memory session with
      | some turns =>
          intro other same
          cases same
          rfl
      | none =>
          dsimp only
          rw [Program.keeps_run_bind]
          apply FileStore.keeps_checkId
          · intro usable
            dsimp only
            rw [Program.keeps_run_bind]
            apply FileStore.keeps_read
            · refine Program.keeps_query.2 ⟨trivial, ?_⟩
              intro _ after answered
              rcases answered with exact | impossible
              · cases exact
                intro turns same
                cases same
                rw [if_pos usable]
              · exact absurd impossible id
            · intro fault turns failed
              contradiction
          · intro fault turns failed
            contradiction
    · exact absurd impossible id
  exact keeps.leads leads turns rfl

/-- After a transcript was loaded, the same can be read of every session. -/
theorem loads_load (session other : String) (directory : Directory) :
    ((directory.run (FileStore.load session)).2.run (FileStore.load other)).1 =
        (directory.run (FileStore.load other)).1 ∧
      ((directory.run (FileStore.load session)).2.run (FileStore.loadNotes other)).1 =
        (directory.run (FileStore.loadNotes other)).1 := by
  rw [run_load session]
  cases remembered : find? directory.memory session with
  | some turns => exact ⟨rfl, rfl⟩
  | none =>
      cases usable : isUsableId session with
      | false => exact ⟨rfl, rfl⟩
      | true =>
          rw [if_pos rfl]
          by_cases same : session = other
          · subst same
            constructor
            · rw [run_load_fst, run_load_fst, remembered, Dictionary.find?_insert_self, usable]
              rfl
            · rw [run_loadNotes, run_loadNotes]
          · exact loads_congr (Dictionary.find?_insert_of_ne _ _ same) rfl rfl

/-- After a transcript was saved it is read for its session; if it was not, and for every other
session, the same can be read as before. -/
theorem loads_save (session other : String) (turns : Transcript) (directory : Directory) :
    ((directory.run (FileStore.save session turns)).2.run (FileStore.load other)).1 =
        (if other = session ∧ (directory.run (FileStore.save session turns)).1.isOk then .ok turns
          else (directory.run (FileStore.load other)).1) ∧
      ((directory.run (FileStore.save session turns)).2.run (FileStore.loadNotes other)).1 =
        (directory.run (FileStore.loadNotes other)).1 := by
  have kept := FileStore.keeps_save.leads (leads_run (FileStore.save session turns) directory)
  generalize directory.run (FileStore.save session turns) = saved at kept ⊢
  obtain ⟨result, after⟩ := saved
  cases result with
  | ok _ =>
      obtain ⟨agree, -, memoryEq, -⟩ := kept
      -- no session has a file of that name but its own, temporary files apart
      have messages : find? after.files (notesFile other) = find? directory.files (notesFile other) :=
        agree _ (by simp [(FileStore.transcriptFile_ne_notesFile session other).symm,
          FileStore.notesFile_ne_temporary])
      by_cases same : other = session
      · subst same
        constructor
        · rw [run_load_fst, memoryEq, Dictionary.find?_insert_self]
          simp [Except.isOk, Except.toBool]
        · rw [run_loadNotes, run_loadNotes, messages]
      · rw [if_neg (by simp [same])]
        have remembered : find? after.memory other = find? directory.memory other := by
          rw [memoryEq, Dictionary.find?_insert_of_ne _ _ (Ne.symm same)]
        exact loads_congr remembered (Backend.agree_outside agree same) messages
  | error fault =>
      obtain ⟨agree, memoryEq⟩ := kept
      rw [if_neg (by simp [Except.isOk, Except.toBool])]
      exact loads_congr (by rw [memoryEq])
        (agree _ (by simp [FileStore.transcriptFile_ne_temporary]))
        (agree _ (by simp [FileStore.notesFile_ne_temporary]))

end Directory

/-! ### In either store -/

namespace Backend

variable {session other : String} {now later since : Int} {ttl : Option Duration} {turns : Transcript}
  {one two backend : Backend}

/-- What can be read of a session at a time: its transcript and its system messages. -/
def reads (session : String) (now : Int) (backend : Backend) :
    Except Fault Transcript × Except Fault (List String) :=
  ((backend.load session now).1, (backend.loadNotes session now).1)

theorem reads_files (session : String) (now : Int) (directory : Directory) :
    (files directory).reads session now =
      ((directory.run (FileStore.load session)).1,
        (directory.run (FileStore.loadNotes session)).1) := by
  simp only [reads, load, loadNotes, onFiles]

/-- The room for names, if there are files. -/
def room? : Backend → Option Nat
  | .memory _ => none
  | .files directory => some directory.room

/-- After a transcript was loaded the same can be read, later of its session and always of any
other. -/
theorem reads_load (backend : Backend) (unharmed : now ≤ later ∨ other ≠ session) :
    (backend.load session now).2.reads other later = backend.reads other later := by
  cases backend with
  | memory store =>
      have transcripts := Lasting.read_read store.transcripts unharmed
      simp only [reads, load, loadNotes, MemoryStore.load, MemoryStore.loadNotes, transcripts]
  | files directory =>
      obtain ⟨transcript, messages⟩ := Directory.loads_load session other directory
      rw [load, onFiles, reads_files, reads_files, transcript, messages]

/-- A transcript that was loaded was loaded as if nothing could fail, so after that too the same can
be read. -/
theorem reads_of_mayLoad {before after : Backend}
    (may : MayLoad session now before (.ok turns) after) :
    (before.load session now).1 = .ok turns ∧
      ∀ other later, now ≤ later ∨ other ≠ session →
        after.reads other later = before.reads other later := by
  have exactly : before.load session now = (.ok turns, after) := by
    cases may with
    | memory store => rfl
    | files leads => rw [load, onFiles, Directory.run_load_of_leads leads]
  constructor
  · rw [exactly]
  · intro other later unharmed
    have same := reads_load before unharmed
    rwa [exactly] at same

/-- Loading changes no transcript file. -/
theorem file?_of_mayLoad {before after : Backend} {result : Except Fault Transcript}
    (may : MayLoad session now before result after) (other : String) :
    after.file? other = before.file? other := by
  cases may with
  | memory store => rfl
  | files leads =>
      obtain ⟨filesEq, -⟩ := FileStore.keeps_load.leads leads
      simp only [file?, filesEq]

theorem reads_loadNotes (backend : Backend) (unharmed : now ≤ later ∨ other ≠ session) :
    (backend.loadNotes session now).2.reads other later = backend.reads other later := by
  cases backend with
  | memory store =>
      have notes := Lasting.read_read store.notes unharmed
      simp only [reads, load, loadNotes, MemoryStore.load, MemoryStore.loadNotes, notes]
  | files directory =>
      have same : (directory.run (FileStore.loadNotes session)).2 = directory := by
        rw [Directory.run_loadNotes]
      simp only [reads, load, loadNotes, onFiles, same]

/-- After a transcript was saved the same can be read of every other session. -/
theorem reads_save_of_ne (backend : Backend) (different : other ≠ session) :
    (backend.save session turns ttl now).2.reads other later = backend.reads other later := by
  cases backend with
  | memory store =>
      simp only [reads, load, loadNotes, save, MemoryStore.load, MemoryStore.loadNotes,
        MemoryStore.save, Lasting.read_fst,
        Dictionary.find?_insert_of_ne _ _ (Ne.symm different)]
  | files directory =>
      obtain ⟨transcript, messages⟩ := Directory.loads_save session other turns directory
      rw [if_neg (by simp [different])] at transcript
      rw [save, onFiles, reads_files, reads_files, transcript, messages]

theorem room?_load (backend : Backend) : (backend.load session now).2.room? = backend.room? := by
  cases backend with
  | memory store => rfl
  | files directory => exact congrArg some (Directory.run_room _ directory)

theorem room?_loadNotes (backend : Backend) :
    (backend.loadNotes session now).2.room? = backend.room? := by
  cases backend with
  | memory store => rfl
  | files directory => exact congrArg some (Directory.run_room _ directory)

theorem room?_save (backend : Backend) :
    (backend.save session turns ttl now).2.room? = backend.room? := by
  cases backend with
  | memory store => rfl
  | files directory => exact congrArg some (Directory.run_room _ directory)

/-! ### Two stores -/

/-- Two stores of one kind, in which the same can be read of a session from a time on. -/
structure Matched (session : String) (since : Int) (one two : Backend) : Prop where
  room : one.room? = two.room?
  alike : ∀ later, since ≤ later → one.reads session later = two.reads session later

/-- In matched stores the same is loaded, and they stay matched. -/
theorem Matched.load (matched : Matched session since one two) (forward : since ≤ now) :
    (one.load session now).1 = (two.load session now).1 ∧
      Matched session now (one.load session now).2 (two.load session now).2 := by
  constructor
  · exact (Prod.mk.inj (matched.alike now forward)).1
  · constructor
    · rw [room?_load, room?_load, matched.room]
    · intro later isLater
      rw [reads_load one (.inl isLater), reads_load two (.inl isLater)]
      exact matched.alike later (Int.le_trans forward isLater)

theorem Matched.loadNotes (matched : Matched session since one two) (forward : since ≤ now) :
    (one.loadNotes session now).1 = (two.loadNotes session now).1 ∧
      Matched session now (one.loadNotes session now).2 (two.loadNotes session now).2 := by
  constructor
  · exact (Prod.mk.inj (matched.alike now forward)).2
  · constructor
    · rw [room?_loadNotes, room?_loadNotes, matched.room]
    · intro later isLater
      rw [reads_loadNotes one (.inl isLater), reads_loadNotes two (.inl isLater)]
      exact matched.alike later (Int.le_trans forward isLater)

/-- In matched stores a transcript is saved or not, and they stay matched. -/
theorem Matched.save (matched : Matched session since one two) (forward : since ≤ now)
    (turns : Transcript) (ttl : Option Duration) :
    (one.save session turns ttl now).1 = (two.save session turns ttl now).1 ∧
      Matched session now (one.save session turns ttl now).2 (two.save session turns ttl now).2 := by
  have saved : (one.save session turns ttl now).1 = (two.save session turns ttl now).1 ∧
      ∀ later, now ≤ later → (one.save session turns ttl now).2.reads session later =
        (two.save session turns ttl now).2.reads session later := by
    cases one with
    | memory store =>
        cases two with
        | files directory => exact absurd matched.room.symm (Option.some_ne_none _)
        | memory other =>
            refine ⟨rfl, ?_⟩
            intro later isLater
            have before := (Prod.mk.inj (matched.alike later (Int.le_trans forward isLater))).2
            simp only [reads, Backend.save, Backend.load, Backend.loadNotes, MemoryStore.load,
              MemoryStore.loadNotes, MemoryStore.save, Lasting.read_fst,
              Dictionary.find?_insert_self] at before ⊢
            rw [before]
    | files directory =>
        cases two with
        | memory store => exact absurd matched.room (Option.some_ne_none _)
        | files other =>
            have room : directory.room = other.room := Option.some.inj matched.room
            have results : (directory.run (FileStore.save session turns)).1 =
                (other.run (FileStore.save session turns)).1 := by
              rw [Directory.run_save_fst, Directory.run_save_fst, room]
            refine ⟨results, ?_⟩
            intro later isLater
            have before := matched.alike later (Int.le_trans forward isLater)
            rw [reads_files, reads_files] at before
            obtain ⟨transcripts, messages⟩ := Prod.mk.inj before
            obtain ⟨oneTurns, oneNotes⟩ := Directory.loads_save session session turns directory
            obtain ⟨twoTurns, twoNotes⟩ := Directory.loads_save session session turns other
            rw [Backend.save, Backend.save, onFiles, onFiles, reads_files, reads_files, oneTurns,
              oneNotes, twoTurns, twoNotes, results, transcripts, messages]
  refine ⟨saved.1, ?_, saved.2⟩
  rw [room?_save, room?_save, matched.room]

end Backend

end Parley
