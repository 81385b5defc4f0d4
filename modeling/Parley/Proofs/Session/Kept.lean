/-
Module: Parley.Proofs.Session.Kept
Layer: Proofs
Purpose: What is kept for a session, in either backend, where nothing expires: its transcript, the
  text of its transcript file and its system messages.  Loading keeps everything for every session.
  Saving a transcript changes that of its own session and nothing else, and a save that fails
  changes nothing.
Main exports: Backend.WithoutExpiry, Backend.stored, Backend.Same, Backend.SameBut,
  Backend.kept_of_mayLoad, Backend.kept_of_maySave, Backend.kept_of_mayLoadNotes,
  Backend.Permanent, Backend.Alike
-/
import Parley.Proofs.Session.Backend

namespace Parley

open Dictionary (find?)

/-! ### Values that never end -/

namespace Lasting

variable {α : Type}

/-- No value in the table ever ends. -/
def Endless (table : Dictionary (Lasting α)) : Prop :=
  ∀ entry ∈ table, entry.2.ends = none

theorem Endless.read_eq {table : Dictionary (Lasting α)} (endless : Endless table)
    (session : String) (now : Int) :
    read table session now = ((find? table session).map (·.value), table) := by
  rw [read]
  cases found : find? table session with
  | none => rfl
  | some entry =>
      have stays : entry.isOver now = false := by
        rw [isOver, endless _ (Dictionary.mem_of_find? found)]
      simp [stays]

theorem Endless.insert {table : Dictionary (Lasting α)} (endless : Endless table)
    (session : String) (value : α) (now : Int) :
    Endless (Dictionary.insert session (store value none now) table) := by
  intro entry member
  rcases Dictionary.mem_insert member with new | old
  · rw [new]
    rfl
  · exact endless entry old

end Lasting

namespace Backend

/-- Nothing that is stored ends, now or later. -/
def WithoutExpiry (ttl : Option Duration) : Backend → Prop
  | .memory store =>
      ttl = none ∧ Lasting.Endless store.transcripts ∧ Lasting.Endless store.notes
  | .files _ => True

/-! ### What is kept -/

/-- The transcript of a session. -/
def stored (session : String) : Backend → Transcript
  | .memory store => ((find? store.transcripts session).map (·.value)).getD []
  | .files directory => directory.stored session

/-- The text of the transcript file of a session, if there is one. -/
def file? (session : String) : Backend → Option String
  | .memory _ => none
  | .files directory => find? directory.files (FileStore.transcriptFile session)

/-- The text of the transcript file of a session with some transcript, if there are files. -/
def written (turns : Transcript) : Backend → Option String
  | .memory _ => none
  | .files _ => some turns.lines

/-- The system messages of a session in memory, and the text of their file. -/
def notes (session : String) : Backend → Option (List String) × Option String
  | .memory store => ((find? store.notes session).map (·.value), none)
  | .files directory => (none, find? directory.files (FileStore.notesFile session))

/-- The transcript of a session is kept, and so is its file. -/
structure SameTranscript (session : String) (before after : Backend) : Prop where
  stored : after.stored session = before.stored session
  file : after.file? session = before.file? session

/-- All is kept but the transcript of one session. -/
structure SameBut (session : String) (before after : Backend) : Prop where
  transcripts : ∀ other, other ≠ session → SameTranscript other before after
  notes : ∀ other, after.notes other = before.notes other
  /-- The backend is of the same kind. -/
  written : ∀ turns, after.written turns = before.written turns

/-- All is kept. -/
structure Same (before after : Backend) : Prop where
  transcripts : ∀ session, SameTranscript session before after
  notes : ∀ session, after.notes session = before.notes session
  written : ∀ turns, after.written turns = before.written turns

/-- A session has a transcript, in its file as well. -/
structure Has (session : String) (turns : Transcript) (backend : Backend) : Prop where
  stored : backend.stored session = turns
  file : backend.file? session = backend.written turns

section Same

variable {before between after : Backend} {session : String} {turns : Transcript}

theorem SameTranscript.trans (first : SameTranscript session before between)
    (second : SameTranscript session between after) : SameTranscript session before after :=
  ⟨second.stored.trans first.stored, second.file.trans first.file⟩

theorem Same.refl (backend : Backend) : Same backend backend :=
  ⟨fun _ => ⟨rfl, rfl⟩, fun _ => rfl, fun _ => rfl⟩

theorem Same.trans (first : Same before between) (second : Same between after) :
    Same before after where
  transcripts session := (first.transcripts session).trans (second.transcripts session)
  notes session := (second.notes session).trans (first.notes session)
  written turns := (second.written turns).trans (first.written turns)

theorem Same.but (same : Same before after) (session : String) : SameBut session before after :=
  ⟨fun other _ => same.transcripts other, same.notes, same.written⟩

theorem Has.same (has : Has session turns before) (same : Same before after) :
    Has session turns after where
  stored := (same.transcripts session).stored.trans has.stored
  file := by rw [(same.transcripts session).file, has.file, same.written turns]

theorem SameBut.trans (first : SameBut session before between)
    (second : SameBut session between after) : SameBut session before after where
  transcripts other different :=
    (first.transcripts other different).trans (second.transcripts other different)
  notes other := (second.notes other).trans (first.notes other)
  written turns := (second.written turns).trans (first.written turns)

end Same

/-! ### Operations -/

section Operations

variable {before after : Backend} {session : String} {now : Int} {ttl : Option Duration}
  {turns : Transcript}

/-- Loading gives what is stored and keeps all. -/
theorem kept_of_mayLoad {result : Except Fault Transcript} (lasting : before.WithoutExpiry ttl)
    (may : MayLoad session now before result after) :
    Same before after ∧ after.WithoutExpiry ttl ∧
      ∀ turns, result = .ok turns → turns = before.stored session := by
  cases may with
  | memory store =>
      obtain ⟨noTtl, endless, endlessNotes⟩ := lasting
      have loaded : store.load session now =
          (((find? store.transcripts session).map (·.value)).getD [], store) := by
        rw [MemoryStore.load, endless.read_eq]
      rw [loaded]
      constructor
      · exact .refl _
      · constructor
        · exact ⟨noTtl, endless, endlessNotes⟩
        · intro turns same
          cases same
          rfl
  | files leads =>
      obtain ⟨filesEq, storedSame, -, isStored⟩ := FileStore.keeps_load.leads leads
      constructor
      · constructor
        · intro other
          constructor
          · exact storedSame other
          · simp only [file?, filesEq]
        · intro other
          simp only [notes, filesEq]
        · exact fun _ => rfl
      · constructor
        · trivial
        · intro turns same
          exact (isStored turns same).1

theorem kept_of_mayLoadNotes {result : Except Fault (List String)}
    (lasting : before.WithoutExpiry ttl) (may : MayLoadNotes session now before result after) :
    after = before := by
  cases may with
  | memory store =>
      obtain ⟨-, -, endlessNotes⟩ := lasting
      rw [MemoryStore.loadNotes, endlessNotes.read_eq]
  | files leads => rw [FileStore.keeps_loadNotes.leads leads]

/-- What agrees but for temporary files and the transcript file of a session is kept for all other
sessions. -/
theorem agree_outside {before after : Dictionary String} {session other : String}
    (agree : AgreeBut [FileStore.transcriptFile session,
      FileStore.temporary (FileStore.transcriptFile session)] before after)
    (different : other ≠ session) :
    find? after (FileStore.transcriptFile other) =
      find? before (FileStore.transcriptFile other) := by
  apply agree
  simp [FileStore.transcriptFile_inj, different, FileStore.transcriptFile_ne_temporary]

/-- Saving changes the transcript of its session alone, and changes nothing if it fails. -/
theorem kept_of_maySave {result : Except Fault Unit} (lasting : before.WithoutExpiry ttl)
    (may : MaySave session turns ttl now before result after) :
    after.WithoutExpiry ttl ∧
      match result with
      | .ok _ => SameBut session before after ∧ Has session turns after
      | .error _ => Same before after := by
  cases may with
  | memory store =>
      obtain ⟨rfl, endless, endlessNotes⟩ := lasting
      constructor
      · exact ⟨rfl, endless.insert session turns now, endlessNotes⟩
      · constructor
        · constructor
          · intro other different
            constructor
            · simp only [stored, MemoryStore.save,
                Dictionary.find?_insert_of_ne _ _ (Ne.symm different)]
            · rfl
          · exact fun _ => rfl
          · exact fun _ => rfl
        · constructor
          · simp [stored, MemoryStore.save, Lasting.store]
          · rfl
  | @files directory left result leads =>
      have kept := FileStore.keeps_save.leads leads
      constructor
      · trivial
      · cases result with
        | ok _ =>
            obtain ⟨agree, fileEq, memoryEq, -⟩ := kept
            have storedEq := Directory.stored_of_saved agree memoryEq
            constructor
            · constructor
              · intro other different
                constructor
                · exact (storedEq other).trans (if_neg different)
                · exact agree_outside agree different
              · intro other
                have notesSame := agree (FileStore.notesFile other) (by
                  simp [(FileStore.transcriptFile_ne_notesFile session other).symm,
                    FileStore.notesFile_ne_temporary])
                simp only [notes, notesSame]
              · exact fun _ => rfl
            · constructor
              · exact (storedEq session).trans (if_pos rfl)
              · exact fileEq
        | error fault =>
            obtain ⟨agree, memoryEq⟩ := kept
            constructor
            · intro other
              have outside : FileStore.transcriptFile other ∉
                  [FileStore.temporary (FileStore.transcriptFile session)] := by
                simp [FileStore.transcriptFile_ne_temporary]
              constructor
              · exact Directory.stored_of_agree memoryEq agree outside
              · exact agree _ outside
            · intro other
              have notesSame := agree (FileStore.notesFile other) (by
                simp [FileStore.notesFile_ne_temporary])
              simp only [notes, notesSame]
            · exact fun _ => rfl

end Operations

/-! ### A memory store without expiry -/

/-- The backend is a memory store in which nothing ends. -/
def Permanent : Backend → Prop
  | .memory store => Lasting.Endless store.transcripts ∧ Lasting.Endless store.notes
  | .files _ => False

/-- The transcript and the system messages of a session are the same in two backends. -/
structure Alike (session : String) (one two : Backend) : Prop where
  stored : one.stored session = two.stored session
  notes : one.notes session = two.notes session

section Permanent

variable {one two three backend : Backend} {session other : String}

theorem Alike.refl (session : String) (backend : Backend) : Alike session backend backend :=
  ⟨rfl, rfl⟩

theorem Alike.symm (alike : Alike session one two) : Alike session two one :=
  ⟨alike.stored.symm, alike.notes.symm⟩

theorem Alike.trans (first : Alike session one two) (second : Alike session two three) :
    Alike session one three :=
  ⟨first.stored.trans second.stored, first.notes.trans second.notes⟩

/-- Loading gives what is stored, whatever the time is. -/
theorem Permanent.load_eq (permanent : Permanent backend) (session : String) (now : Int) :
    backend.load session now = (.ok (backend.stored session), backend) := by
  cases backend with
  | files directory => exact permanent.elim
  | memory store =>
      obtain ⟨endless, -⟩ := permanent
      simp only [load, stored, MemoryStore.load, endless.read_eq]

theorem Permanent.loadNotes_eq (permanent : Permanent backend) (session : String) (now : Int) :
    backend.loadNotes session now = (.ok ((backend.notes session).1.getD []), backend) := by
  cases backend with
  | files directory => exact permanent.elim
  | memory store =>
      obtain ⟨-, endless⟩ := permanent
      simp only [loadNotes, notes, MemoryStore.loadNotes, endless.read_eq]

/-- Saving succeeds, and changes the transcript of its session alone. -/
theorem Permanent.save_eq (permanent : Permanent backend) (session : String) (turns : Transcript)
    (now : Int) :
    ∃ after, backend.save session turns none now = (.ok (), after) ∧ Permanent after ∧
      after.stored session = turns ∧ (∀ other, after.notes other = backend.notes other) ∧
      ∀ other, other ≠ session → after.stored other = backend.stored other := by
  cases backend with
  | files directory => exact permanent.elim
  | memory store =>
      obtain ⟨endless, endlessNotes⟩ := permanent
      refine ⟨.memory (store.save session turns none now), rfl, ?_, ?_, fun _ => rfl, ?_⟩
      · exact ⟨endless.insert session turns now, endlessNotes⟩
      · simp [stored, MemoryStore.save, Lasting.store]
      · intro other different
        simp only [stored, MemoryStore.save,
          Dictionary.find?_insert_of_ne _ _ (Ne.symm different)]

/-! What the operations may come to, they come to. -/

theorem Permanent.mayLoad {after : Backend} {now : Int} {result : Except Fault Transcript}
    (permanent : Permanent backend) (may : MayLoad session now backend result after) :
    result = .ok (backend.stored session) ∧ after = backend := by
  cases may with
  | files leads => exact permanent.elim
  | memory store =>
      obtain ⟨loaded, same⟩ := Prod.mk.inj (permanent.load_eq session now)
      exact ⟨loaded, same⟩

theorem Permanent.maySave {after : Backend} {now : Int} {turns : Transcript}
    {result : Except Fault Unit} (permanent : Permanent backend)
    (may : MaySave session turns none now backend result after) :
    result = .ok () ∧ Permanent after ∧ after.stored session = turns ∧
      ∀ other, other ≠ session → after.stored other = backend.stored other := by
  cases may with
  | files leads => exact permanent.elim
  | memory store =>
      obtain ⟨left, saved, leftPermanent, storedEq, -, others⟩ :=
        permanent.save_eq session turns now
      obtain ⟨-, rfl⟩ := Prod.mk.inj saved
      exact ⟨rfl, leftPermanent, storedEq, others⟩

theorem Permanent.mayLoadNotes {after : Backend} {now : Int}
    {result : Except Fault (List String)} (permanent : Permanent backend)
    (may : MayLoadNotes session now backend result after) : after = backend := by
  cases may with
  | files leads => exact permanent.elim
  | memory store => exact (Prod.mk.inj (permanent.loadNotes_eq session now)).2

/-- Replacing system messages leaves all transcripts. -/
theorem Permanent.maySaveNotes {after : Backend} {now : Int} {messages : List String}
    {result : Except Fault Unit} (permanent : Permanent backend)
    (may : MaySaveNotes session messages none now backend result after) :
    Permanent after ∧ ∀ other, after.stored other = backend.stored other := by
  cases may with
  | files leads => exact permanent.elim
  | memory store =>
      exact ⟨⟨permanent.1, permanent.2.insert session messages now⟩, fun _ => rfl⟩

end Permanent

end Backend

end Parley
