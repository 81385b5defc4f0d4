/-
Module: Parley.Proofs.Session.Traffic
Layer: Proofs
Purpose: Loads, saves and deletions that use one directory at the same time.  Each call takes its
  steps between those of others; the calls that change a session go one after another, and loads go
  whenever they like.  What a call may ask, and how far it is, is a protocol of its own, so that what
  a step does to the directory can be told from the stage of its call.
Main exports: CallKind, StoreCall, StoreEvent, Traffic, Traffic.Run, Stage, Advance,
  StoreCall.protocol, StoreCall.keeps_program, View, Does, does_of_advance
-/
import Parley.Proofs.Session.Interrupted

namespace Parley

open Dictionary (find?)
open Program (keeps_run_bind keeps_run_pure)
open FileStore (transcriptFile notesFile temporary turnsIn)
open Directory (mayAnswer_write mayAnswer_rename mayAnswer_remove mayAnswer_remember
  mayAnswer_forget)

/-! ### Calls -/

/-- What a call is to do with a session. -/
inductive CallKind where
  | load
  | save (turns : Transcript)
  | delete

/-- A call on a store. -/
structure StoreCall where
  session : String
  kind : CallKind

namespace StoreCall

/-- A load changes nothing. -/
def changes (call : StoreCall) : Bool :=
  match call.kind with
  | .load => false
  | .save _ => true
  | .delete => true

/-- The steps of a call. -/
def program (call : StoreCall) : FileStore.FileProgram Unit :=
  match call.kind with
  | .load => do
      let _ ← FileStore.load call.session
      pure ()
  | .save turns => FileStore.save call.session turns
  | .delete => FileStore.delete call.session

/-- The transcript that a session has after a call that changes it. -/
def turns (call : StoreCall) : Transcript :=
  match call.kind with
  | .load => []
  | .save turns => turns
  | .delete => []

/-- The transcript file after a call that changes it. -/
def file (call : StoreCall) : Option String :=
  match call.kind with
  | .load => none
  | .save turns => some turns.lines
  | .delete => none

/-- What is remembered after a call that changes its session. -/
def memory (call : StoreCall) : Option Transcript :=
  match call.kind with
  | .load => none
  | .save turns => some turns
  | .delete => none

end StoreCall

/-- A step of a call. -/
structure StoreEvent where
  ticket : Nat
  call : StoreCall
  asked : Program.Asked fileInterface

/-- A directory and the calls in flight on it, each with what is left of it. -/
structure Traffic where
  directory : Directory
  calls : Nat → Option (StoreCall × Program fileInterface (Except Fault Unit))

namespace Traffic

/-- Set what is in flight under a ticket. -/
def put (traffic : Traffic) (ticket : Nat)
    (held? : Option (StoreCall × Program fileInterface (Except Fault Unit))) : Traffic :=
  { traffic with calls := fun other => if other = ticket then held? else traffic.calls other }

/-- No call is in flight. -/
def Quiet (traffic : Traffic) : Prop := ∀ ticket, traffic.calls ticket = none

/-- What may happen on a directory.  A call that changes a session starts only when no other such
call is in flight; whichever call is in flight may take its next step, and a step may fail. -/
inductive Run (start : Directory) : List StoreEvent → Traffic → Prop where
  | empty : Run start [] ⟨start, fun _ => none⟩
  | start {events : List StoreEvent} {traffic : Traffic} (ticket : Nat) (call : StoreCall) :
      Run start events traffic → traffic.calls ticket = none →
      (∀ event ∈ events, event.ticket ≠ ticket) →
      (call.changes = true → ∀ other entry, traffic.calls other = some entry →
        entry.1.session = call.session → entry.1.changes = false) →
      Run start events (traffic.put ticket (some (call, call.program.run)))
  | step {events : List StoreEvent} {traffic : Traffic} {ticket : Nat} {call : StoreCall}
      {question : FileQuestion} {next : question.Answer → Program fileInterface (Except Fault Unit)}
      {answer : question.Answer} {after : Directory} :
      Run start events traffic → traffic.calls ticket = some (call, .ask question next) →
      Directory.MayAnswer question traffic.directory answer after →
      Run start (events ++ [⟨ticket, call, ⟨question, answer⟩⟩])
        ({ traffic with directory := after }.put ticket (some (call, next answer)))
  | leave {events : List StoreEvent} {traffic : Traffic} {ticket : Nat} {call : StoreCall}
      {result : Except Fault Unit} :
      Run start events traffic → traffic.calls ticket = some (call, .done result) →
      Run start events (traffic.put ticket none)

/-! Steps that do not fail, in a given order. -/

/-- The next step of a call, or its end. -/
def take (traffic : Traffic) (ticket : Nat) : List StoreEvent × Traffic :=
  match traffic.calls ticket with
  | none => ([], traffic)
  | some (_, .done _) => ([], traffic.put ticket none)
  | some (call, .ask question next) =>
      let (answer, after) := traffic.directory.answer question
      ([⟨ticket, call, ⟨question, answer⟩⟩],
        { traffic with directory := after }.put ticket (some (call, next answer)))

/-- The steps of calls in an order of their tickets. -/
def schedule (traffic : Traffic) : List Nat → List StoreEvent × Traffic
  | [] => ([], traffic)
  | ticket :: tickets =>
      let (events, next) := traffic.take ticket
      let (more, last) := next.schedule tickets
      (events ++ more, last)

section Schedule

variable {start : Directory} {events : List StoreEvent} {traffic : Traffic}

theorem Run.take (run : Run start events traffic) (ticket : Nat) :
    Run start (events ++ (traffic.take ticket).1) (traffic.take ticket).2 := by
  rw [Traffic.take]
  split
  · rw [List.append_nil]
    exact run
  · next found =>
      rw [List.append_nil]
      exact run.leave found
  · next found => exact run.step found (.inl rfl)

theorem Run.schedule (run : Run start events traffic) (tickets : List Nat) :
    Run start (events ++ (traffic.schedule tickets).1) (traffic.schedule tickets).2 := by
  induction tickets generalizing events traffic with
  | nil =>
      rw [Traffic.schedule, List.append_nil]
      exact run
  | cons ticket tickets ih =>
      rw [Traffic.schedule, ← List.append_assoc]
      exact ih (run.take ticket)

/-- Calls that are not in the order stay as they are. -/
theorem calls_schedule {ticket : Nat} {tickets : List Nat} (absent : ticket ∉ tickets) :
    (traffic.schedule tickets).2.calls ticket = traffic.calls ticket := by
  induction tickets generalizing traffic with
  | nil => rfl
  | cons other tickets ih =>
      obtain ⟨different, absent⟩ := not_or.1 (mt List.mem_cons.2 absent)
      rw [schedule, ih absent, take]
      split
      · rfl
      · exact if_neg different
      · exact if_neg different

end Schedule

end Traffic

/-! ### How far a call is -/

/-- What a call has done that is not complete yet. -/
inductive Stage where
  /-- Nothing. -/
  | idle
  /-- It has read the transcript of its session and is to remember it. -/
  | holding (turns : Transcript)
  /-- It has written the temporary file. -/
  | prepared
  /-- It has changed the transcript file and is to say so to the memory. -/
  | changed
deriving DecidableEq

/-- How a step takes a call from one stage to another. -/
inductive Advance (call : StoreCall) : Stage → Program.Asked fileInterface → Stage → Prop where
  | remembers (found : Option Transcript) : call.kind = .load →
      Advance call .idle ⟨.remembered call.session, found⟩ .idle
  | look (content : Option String) : call.kind = .load →
      Advance call .idle ⟨.read (transcriptFile call.session), .ok content⟩
        (.holding (turnsIn content))
  | lookFails (fault : Fault) : call.kind = .load →
      Advance call .idle ⟨.read (transcriptFile call.session), .error fault⟩ .idle
  | learn (turns : Transcript) : call.kind = .load →
      Advance call (.holding turns) ⟨.remember call.session turns, ()⟩ .idle
  | write (turns : Transcript) (content : String) : call.kind = .save turns →
      content = turns.lines →
      Advance call .idle
        ⟨.write (temporary (transcriptFile call.session)) content, .ok ()⟩ .prepared
  | writeFails (turns : Transcript) (content : String) (fault : Fault) : call.kind = .save turns →
      Advance call .idle
        ⟨.write (temporary (transcriptFile call.session)) content, .error fault⟩ .idle
  | rename (turns : Transcript) : call.kind = .save turns →
      Advance call .prepared
        ⟨.rename (temporary (transcriptFile call.session)) (transcriptFile call.session), .ok ()⟩
        .changed
  | renameFails (turns : Transcript) (fault : Fault) : call.kind = .save turns →
      Advance call .prepared
        ⟨.rename (temporary (transcriptFile call.session)) (transcriptFile call.session),
          .error fault⟩ .idle
  | update (turns : Transcript) : call.kind = .save turns →
      Advance call .changed ⟨.remember call.session turns, ()⟩ .idle
  | remove : call.kind = .delete →
      Advance call .idle ⟨.remove (transcriptFile call.session), .ok ()⟩ .changed
  | removeFails (fault : Fault) : call.kind = .delete →
      Advance call .idle ⟨.remove (transcriptFile call.session), .error fault⟩ .idle
  | removeNotes : call.kind = .delete →
      Advance call .changed ⟨.remove (notesFile call.session), .ok ()⟩ .changed
  | forget : call.kind = .delete →
      Advance call .changed ⟨.forget call.session, ()⟩ .idle

/-- A deletion that fails when the transcript file is gone but the system file is not. -/
def HalfDeletes (asked : Program.Asked fileInterface) : Prop :=
  ∃ session fault, asked = ⟨.remove (notesFile session), .error fault⟩

namespace StoreCall

/-- What a call may ask at a stage: what takes it to some stage however it is answered, deletions
that fail half-way apart. -/
def protocol (call : StoreCall) : Contract fileInterface Stage where
  asks := fun stage question => ∀ answer : FileQuestion.Answer question,
    (∃ after, Advance call stage ⟨question, answer⟩ after) ∨ HalfDeletes ⟨question, answer⟩
  answers := fun question stage answer after => Advance call stage ⟨question, answer⟩ after

section Keeps

variable {call : StoreCall}

theorem keeps_load (isLoad : call.kind = .load) :
    (FileStore.load call.session).run.Keeps call.protocol (fun _ stage => stage = .idle) .idle := by
  rw [FileStore.load, keeps_run_bind]
  refine Program.keeps_query.2 ⟨fun found => .inl ⟨_, .remembers found isLoad⟩, ?_⟩
  intro found stage advance
  cases advance
  cases found with
  | some turns => rfl
  | none =>
      dsimp only
      rw [keeps_run_bind, FileStore.checkId]
      split
      · rw [keeps_run_pure]
        dsimp only
        rw [keeps_run_bind]
        refine Program.keeps_query.2 ⟨?_, ?_⟩
        · rintro (fault | content)
          · exact .inl ⟨_, .lookFails fault isLoad⟩
          · exact .inl ⟨_, .look content isLoad⟩
        · intro answer stage advance
          cases advance with
          | lookFails fault => rfl
          | look content =>
              dsimp only
              rw [keeps_run_bind]
              refine Program.keeps_query.2 ⟨fun _ => .inl ⟨_, .learn _ isLoad⟩, ?_⟩
              intro _ stage advance
              cases advance
              rfl
      · rfl

theorem keeps_save {turns : Transcript} (isSave : call.kind = .save turns) :
    (FileStore.save call.session turns).run.Keeps call.protocol (fun _ stage => stage = .idle)
      .idle := by
  rw [FileStore.save, keeps_run_bind, FileStore.checkId]
  split
  · rw [keeps_run_pure]
    dsimp only
    rw [keeps_run_bind, FileStore.replace, keeps_run_bind]
    refine Program.keeps_query.2 ⟨?_, ?_⟩
    · rintro (fault | _)
      · exact .inl ⟨_, .writeFails turns _ fault isSave⟩
      · exact .inl ⟨_, .write turns _ isSave rfl⟩
    · intro answer stage advance
      cases advance with
      | writeFails => rfl
      | write =>
          refine Program.keeps_query.2 ⟨?_, ?_⟩
          · rintro (fault | _)
            · exact .inl ⟨_, .renameFails turns fault isSave⟩
            · exact .inl ⟨_, .rename turns isSave⟩
          · intro answer stage advance
            cases advance with
            | renameFails turns fault => rfl
            | rename turns =>
                refine Program.keeps_query.2 ⟨fun _ => .inl ⟨_, .update _ isSave⟩, ?_⟩
                intro _ stage advance
                cases advance
                rfl
  · rfl

theorem keeps_delete (isDelete : call.kind = .delete) :
    (FileStore.delete call.session).run.Keeps call.protocol (fun _ stage => stage = .idle)
      .idle := by
  rw [FileStore.delete, keeps_run_bind, FileStore.checkId]
  split
  · rw [keeps_run_pure]
    dsimp only
    rw [keeps_run_bind]
    refine Program.keeps_query.2 ⟨?_, ?_⟩
    · rintro (fault | _)
      · exact .inl ⟨_, .removeFails fault isDelete⟩
      · exact .inl ⟨_, .remove isDelete⟩
    · intro answer stage advance
      cases advance with
      | removeFails fault => rfl
      | remove =>
          dsimp only
          rw [keeps_run_bind]
          refine Program.keeps_query.2 ⟨?_, ?_⟩
          · rintro (fault | _)
            · exact .inr ⟨_, fault, rfl⟩
            · exact .inl ⟨_, .removeNotes isDelete⟩
          · intro answer stage advance
            cases advance with
            | removeNotes =>
                refine Program.keeps_query.2 ⟨fun _ => .inl ⟨_, .forget isDelete⟩, ?_⟩
                intro _ stage advance
                cases advance
                rfl
  · rfl

/-- A call keeps its protocol, and leaves nothing incomplete. -/
theorem keeps_program (call : StoreCall) :
    call.program.run.Keeps call.protocol (fun _ stage => stage = .idle) .idle := by
  rw [program]
  cases isKind : call.kind with
  | load =>
      dsimp only
      rw [keeps_run_bind]
      apply (keeps_load isKind).mono
      intro result stage isIdle
      cases result with
      | ok turns => exact isIdle
      | error fault => exact isIdle
  | save turns => exact keeps_save isKind
  | delete => exact keeps_delete isKind

end Keeps

end StoreCall

/-! ### What steps do -/

/-- What a directory has of a session: its transcript file, the temporary file beside that, and what
is remembered. -/
structure View where
  file : Option String
  temporary : Option String
  memory : Option Transcript

/-- The view of a session. -/
def Directory.view (directory : Directory) (session : String) : View where
  file := find? directory.files (transcriptFile session)
  temporary := find? directory.files (temporary (transcriptFile session))
  memory := find? directory.memory session

namespace StoreEvent

/-- The event is the reading of the transcript file. -/
def IsRead (event : StoreEvent) : Prop :=
  ∃ content, event.asked = ⟨.read (transcriptFile event.call.session), content⟩

/-- The event is the change of the transcript file, which a save renames and a deletion removes. -/
def IsChange (event : StoreEvent) : Prop :=
  event.call.changes = true ∧
    (event.asked = ⟨.rename (temporary (transcriptFile event.call.session))
        (transcriptFile event.call.session), .ok ()⟩ ∨
      event.asked = ⟨.remove (transcriptFile event.call.session), .ok ()⟩)

/-- The event is what a call that changes a session tells the memory in the end. -/
def IsUpdate (event : StoreEvent) : Prop :=
  event.call.changes = true ∧
    ((∃ turns, event.asked = ⟨.remember event.call.session turns, ()⟩) ∨
      event.asked = ⟨.forget event.call.session, ()⟩)

/-- The event is that a load remembers what it read. -/
def IsLearn (event : StoreEvent) : Prop :=
  event.call.kind = .load ∧ ∃ turns, event.asked = ⟨.remember event.call.session turns, ()⟩

end StoreEvent

/-- What a step does to the view of its session, told by the stages before and after it. -/
inductive Does (event : StoreEvent) : Stage → View → Stage → View → Prop where
  /-- Nothing that lasts; at most the temporary file is different. -/
  | quiet {stage : Stage} {before after : View} :
      stage ≠ .changed → (event.call.changes = false → after = before) →
      after.file = before.file → after.memory = before.memory → Does event stage before .idle after
  | look (view : View) : event.IsRead → event.call.changes = false →
      Does event .idle view (.holding (turnsIn view.file)) view
  | learn {turns : Transcript} {before after : View} : event.IsLearn →
      after.file = before.file → after.temporary = before.temporary →
      after.memory = some turns → Does event (.holding turns) before .idle after
  | prepare {before after : View} : event.call.changes = true →
      after.file = before.file → after.temporary = event.call.file →
      after.memory = before.memory → Does event .idle before .prepared after
  | change {stage : Stage} {before after : View} : event.IsChange → stage ≠ .changed →
      ((stage = .prepared → before.temporary = event.call.file) → after.file = event.call.file) →
      after.memory = before.memory → Does event stage before .changed after
  | keep (view : View) : event.call.changes = true → Does event .changed view .changed view
  | update {before after : View} : event.IsUpdate → after.file = before.file →
      after.temporary = before.temporary → after.memory = event.call.memory →
      Does event .changed before .idle after

namespace Does

variable {event : StoreEvent} {stage stageAfter : Stage} {before after : View}

/-- A call that changes nothing leaves the files. -/
theorem of_load (does : Does event stage before stageAfter after)
    (isLoad : event.call.changes = false) :
    after.file = before.file ∧ after.temporary = before.temporary := by
  have notChanging : event.call.changes ≠ true := by simp [isLoad]
  cases does with
  | quiet _ same _ _ => rw [same isLoad]; exact ⟨rfl, rfl⟩
  | look => exact ⟨rfl, rfl⟩
  | learn _ sameFile sameTemporary _ => exact ⟨sameFile, sameTemporary⟩
  | prepare changes => exact absurd changes notChanging
  | change isChange => exact absurd isChange.1 notChanging
  | keep _ changes => exact absurd changes notChanging
  | update isUpdate => exact absurd isUpdate.1 notChanging

/-- A step leaves the transcript file, or it is the change of it. -/
theorem file_cases (does : Does event stage before stageAfter after) :
    after.file = before.file ∨
      event.IsChange ∧ stage ≠ .changed ∧ stageAfter = .changed := by
  cases does with
  | quiet _ _ sameFile _ => exact .inl sameFile
  | look => exact .inl rfl
  | learn _ sameFile => exact .inl sameFile
  | prepare _ sameFile => exact .inl sameFile
  | change isChange notChanged => exact .inr ⟨isChange, notChanged, rfl⟩
  | keep => exact .inl rfl
  | update _ sameFile => exact .inl sameFile

/-- A call that has changed the file stays so, or tells the memory. -/
theorem of_changed (does : Does event stage before stageAfter after)
    (isChanged : stage = .changed) :
    stageAfter = .changed ∨ event.IsUpdate := by
  cases does with
  | quiet notChanged => exact absurd isChanged notChanged
  | change => exact .inl rfl
  | keep => exact .inl rfl
  | update isUpdate => exact .inr isUpdate
  | _ => cases isChanged

/-- A step leaves the memory, or a load remembers what it read, or a call that has changed the file
tells the memory. -/
theorem memory_cases (does : Does event stage before stageAfter after) :
    (after.memory = before.memory ∧ (stage = .changed → stageAfter = .changed)) ∨
      (∃ turns, stage = .holding turns ∧ event.IsLearn ∧ after.memory = some turns ∧
        after.file = before.file) ∨
      stage = .changed ∧ after.memory = event.call.memory ∧ after.file = before.file := by
  cases does with
  | quiet notChanged _ _ sameMemory =>
      exact .inl ⟨sameMemory, fun isChanged => absurd isChanged notChanged⟩
  | look => exact .inl ⟨rfl, fun isChanged => nomatch isChanged⟩
  | learn isLearn sameFile _ isTurns => exact .inr (.inl ⟨_, rfl, isLearn, isTurns, sameFile⟩)
  | prepare _ _ _ sameMemory => exact .inl ⟨sameMemory, fun isChanged => nomatch isChanged⟩
  | change _ _ _ sameMemory => exact .inl ⟨sameMemory, fun _ => rfl⟩
  | keep => exact .inl ⟨rfl, fun _ => rfl⟩
  | update _ sameFile _ isMemory => exact .inr (.inr ⟨rfl, isMemory, sameFile⟩)

/-! What is so when a call enters a stage. -/

theorem changes_of_busy (does : Does event stage before stageAfter after)
    (busy : stageAfter = .prepared ∨ stageAfter = .changed) : event.call.changes = true := by
  cases does with
  | prepare changes => exact changes
  | change isChange => exact isChange.1
  | keep _ changes => exact changes
  | _ => simp at busy

theorem of_prepared (does : Does event stage before .prepared after) :
    after.temporary = event.call.file := by
  cases does with
  | prepare _ _ isText => exact isText

theorem file_of_changed (does : Does event stage before .changed after)
    (prepared : stage = .prepared → before.temporary = event.call.file)
    (changed : stage = .changed → before.file = event.call.file) :
    after.file = event.call.file := by
  cases does with
  | change _ _ isNew => exact isNew prepared
  | keep => exact changed rfl

theorem of_holding {turns : Transcript} (does : Does event stage before (.holding turns) after) :
    event.IsRead ∧ turns = turnsIn after.file := by
  cases does with
  | look _ isRead => exact ⟨isRead, rfl⟩

end Does

section Effects

variable {directory after : Directory} {session other : String}

/-- Steps on the files of a session leave the views of others as they are. -/
theorem view_of_agree {names : List String}
    (agree : AgreeBut names directory.files after.files)
    (own : ∀ name ∈ names, name ∈ FileStore.files session)
    (sameMemory : find? after.memory other = find? directory.memory other)
    (different : other ≠ session) : after.view other = directory.view other := by
  have outside : ∀ name ∈ FileStore.files other, name ∉ names := fun name member isNamed =>
    different (FileStore.files_disjoint member (own name isNamed))
  simp only [Directory.view]
  rw [agree _ (outside _ (by simp [FileStore.files])),
    agree _ (outside _ (by simp [FileStore.files])), sameMemory]

/-- Where at most the temporary file of a session is different, so is the view of that session. -/
theorem view_of_temporary {files : Dictionary String}
    (isAfter : after = { directory with files := files })
    (agree : AgreeBut [temporary (transcriptFile session)] directory.files files) :
    (after.view session).file = (directory.view session).file ∧
      (after.view session).memory = (directory.view session).memory ∧
      ∀ other, other ≠ session → after.view other = directory.view other := by
  subst isAfter
  refine ⟨agree _ (by simp [FileStore.transcriptFile_ne_temporary]), rfl, ?_⟩
  intro other different
  exact view_of_agree agree (by simp [FileStore.files]) rfl different

/-- What is remembered of a session is in its view alone. -/
theorem view_of_memory (session : String) {memory : Dictionary Transcript}
    (isAfter : after = { directory with memory := memory })
    (others : ∀ other, other ≠ session → find? memory other = find? directory.memory other) :
    (after.view session).file = (directory.view session).file ∧
      (after.view session).temporary = (directory.view session).temporary ∧
      (after.view session).memory = find? memory session ∧
      ∀ other, other ≠ session → after.view other = directory.view other := by
  subst isAfter
  refine ⟨rfl, rfl, rfl, ?_⟩
  intro other different
  simp only [Directory.view, others other different]

/-- A step of a save that fails leaves at most the temporary file different. -/
theorem does_of_failed {event : StoreEvent} {stage : Stage} {files : Dictionary String}
    (changes : event.call.changes = true) (notChanged : stage ≠ .changed)
    (isAfter : after = { directory with files := files })
    (agree : AgreeBut [temporary (transcriptFile event.call.session)] directory.files files) :
    Does event stage (directory.view event.call.session) .idle (after.view event.call.session) ∧
      ∀ other, other ≠ event.call.session → after.view other = directory.view other := by
  obtain ⟨sameFile, sameMemory, others⟩ := view_of_temporary isAfter agree
  refine ⟨.quiet notChanged ?_ sameFile sameMemory, others⟩
  intro unchanging
  rw [changes] at unchanging
  contradiction

/-- Renaming the temporary file puts what it holds in the transcript file. -/
theorem does_of_rename {event : StoreEvent} {content : String} (isChange : event.IsChange)
    (found : find? directory.files (temporary (transcriptFile event.call.session)) = some content)
    (isAfter : after =
      { directory with
        files := Dictionary.insert (transcriptFile event.call.session) content
          (Dictionary.erase directory.files (temporary (transcriptFile event.call.session))) }) :
    Does event .prepared (directory.view event.call.session) .changed
        (after.view event.call.session) ∧
      ∀ other, other ≠ event.call.session → after.view other = directory.view other := by
  subst isAfter
  have erased := agreeBut_erase directory.files (temporary (transcriptFile event.call.session))
  have moved := agreeBut_insert (Dictionary.erase directory.files
    (temporary (transcriptFile event.call.session))) (transcriptFile event.call.session) content
  refine ⟨.change isChange (by simp) ?_ rfl, ?_⟩
  · intro prepared
    have isText := prepared rfl
    simp only [Directory.view, found] at isText
    simp only [Directory.view, Dictionary.find?_insert_self, isText]
  · intro other different
    have agree : AgreeBut [temporary (transcriptFile event.call.session),
        transcriptFile event.call.session] directory.files _ :=
      (erased.mono (by simp)).trans (moved.mono (by simp))
    exact view_of_agree agree (by simp [FileStore.files]) rfl different

/-- Removing the system file is not seen. -/
theorem does_of_removeNotes {event : StoreEvent} (changes : event.call.changes = true)
    (isAfter : after =
      { directory with
        files := Dictionary.erase directory.files (notesFile event.call.session) }) :
    Does event .changed (directory.view event.call.session) .changed
        (after.view event.call.session) ∧
      ∀ other, other ≠ event.call.session → after.view other = directory.view other := by
  subst isAfter
  have agree := agreeBut_erase directory.files (notesFile event.call.session)
  constructor
  · simp only [Directory.view]
    rw [agree _ (by simp [FileStore.transcriptFile_ne_notesFile]),
      agree _ (by simp [(FileStore.notesFile_ne_temporary _ _).symm])]
    exact .keep _ changes
  · intro other different
    exact view_of_agree agree (by simp [FileStore.files]) rfl different

/-- What a step that is taken with an answer does. -/
theorem does_of_advance {call : StoreCall} {stage stageAfter : Stage} {question : FileQuestion}
    {answer : question.Answer} (ticket : Nat)
    (advance : Advance call stage ⟨question, answer⟩ stageAfter)
    (answered : Directory.MayAnswer question directory answer after) :
    Does ⟨ticket, call, ⟨question, answer⟩⟩ stage (directory.view call.session) stageAfter
        (after.view call.session) ∧
      ∀ other, other ≠ call.session → after.view other = directory.view other := by
  have changesOf : ∀ turns, call.kind = .save turns → call.changes = true := by
    intro turns isSave
    simp [StoreCall.changes, isSave]
  have readsOnly : call.kind = .load → call.changes = false := by
    intro isLoad
    simp [StoreCall.changes, isLoad]
  have deletes : call.kind = .delete → call.changes = true := by
    intro isDelete
    simp [StoreCall.changes, isDelete]
  cases advance with
  | remembers found isLoad =>
      rcases answered with exact | impossible
      · cases exact
        exact ⟨.quiet (by simp) (fun _ => rfl) rfl rfl, fun _ _ => rfl⟩
      · exact absurd impossible id
  | look content isLoad =>
      rcases answered with exact | ⟨⟨fault, failed⟩, -⟩
      · cases exact
        exact ⟨.look _ ⟨_, rfl⟩ (readsOnly isLoad), fun _ _ => rfl⟩
      · cases failed
  | lookFails fault isLoad =>
      rcases answered with exact | ⟨-, rfl⟩
      · cases exact
      · exact ⟨.quiet (by simp) (fun _ => rfl) rfl rfl, fun _ _ => rfl⟩
  | learn turns isLoad =>
      obtain ⟨sameFile, sameTemporary, newMemory, others⟩ :=
        view_of_memory call.session (mayAnswer_remember answered) fun other different =>
          Dictionary.find?_insert_of_ne _ _ (Ne.symm different)
      rw [Dictionary.find?_insert_self] at newMemory
      exact ⟨.learn ⟨isLoad, turns, rfl⟩ sameFile sameTemporary newMemory, others⟩
  | write turns content isSave isText =>
      rcases mayAnswer_write answered with ⟨-, isAfter⟩ | ⟨⟨fault, failed⟩, -⟩
      · obtain ⟨sameFile, sameMemory, others⟩ := view_of_temporary isAfter
          (agreeBut_insert directory.files (temporary (transcriptFile call.session)) content)
        refine ⟨.prepare (changesOf turns isSave) sameFile ?_ sameMemory, others⟩
        simp [isAfter, Directory.view, StoreCall.file, isSave, isText]
      · cases failed
  | writeFails turns content fault isSave =>
      rcases mayAnswer_write answered with ⟨done, -⟩ | ⟨-, files, isAfter, agree⟩
      · cases done
      · exact does_of_failed (changesOf turns isSave) (by simp) isAfter agree
  | rename turns isSave =>
      rcases mayAnswer_rename answered with ⟨-, content, found, isAfter⟩ | ⟨⟨fault, failed⟩, -⟩
      · exact does_of_rename ⟨changesOf turns isSave, .inl rfl⟩ found isAfter
      · cases failed
  | renameFails turns fault isSave =>
      rcases mayAnswer_rename answered with ⟨done, -⟩ | ⟨-, files, isAfter, agree⟩
      · cases done
      · exact does_of_failed (changesOf turns isSave) (by simp) isAfter agree
  | update turns isSave =>
      obtain ⟨sameFile, sameTemporary, newMemory, others⟩ :=
        view_of_memory call.session (mayAnswer_remember answered) fun other different =>
          Dictionary.find?_insert_of_ne _ _ (Ne.symm different)
      rw [Dictionary.find?_insert_self] at newMemory
      refine ⟨.update ⟨changesOf turns isSave, .inl ⟨turns, rfl⟩⟩ sameFile sameTemporary ?_, others⟩
      simp [newMemory, StoreCall.memory, isSave]
  | remove isDelete =>
      rcases mayAnswer_remove answered with ⟨-, isAfter⟩ | ⟨⟨fault, failed⟩, -⟩
      · have agree := agreeBut_erase directory.files (transcriptFile call.session)
        refine ⟨.change ⟨deletes isDelete, .inr rfl⟩ (by simp) ?_ (by rw [isAfter]; rfl), ?_⟩
        · intro _
          simp [isAfter, Directory.view, StoreCall.file, isDelete]
        · intro other different
          rw [isAfter]
          exact view_of_agree agree (by simp [FileStore.files]) rfl different
      · cases failed
  | removeFails fault isDelete =>
      rcases mayAnswer_remove answered with ⟨done, -⟩ | ⟨-, isAfter⟩
      · cases done
      · rw [isAfter]
        exact ⟨.quiet (by simp) (fun _ => rfl) rfl rfl, fun _ _ => rfl⟩
  | removeNotes isDelete =>
      rcases mayAnswer_remove answered with ⟨-, isAfter⟩ | ⟨⟨fault, failed⟩, -⟩
      · exact does_of_removeNotes (deletes isDelete) isAfter
      · cases failed
  | forget isDelete =>
      obtain ⟨sameFile, sameTemporary, newMemory, others⟩ :=
        view_of_memory call.session (mayAnswer_forget answered) fun other different =>
          Dictionary.find?_erase_of_ne _ (Ne.symm different)
      rw [Dictionary.find?_erase_self] at newMemory
      refine ⟨.update ⟨deletes isDelete, .inr rfl⟩ sameFile sameTemporary ?_, others⟩
      simp [newMemory, StoreCall.memory, isDelete]

end Effects

end Parley
