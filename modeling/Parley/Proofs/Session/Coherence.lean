/-
Module: Parley.Proofs.Session.Coherence
Layer: Proofs
Purpose: What is remembered beside the files, while calls overlap.  A load reads a file and
  remembers it later, so a change of the session that is begun and completed in between leaves the older
  transcript remembered, and it stays.  That is the only way, deletions that fail half-way apart: if
  no load is overtaken so, then once no call is in flight a session loads as its file says, which is
  what was saved last.
Main exports: StoreEvent.changedTo?, committed, Overtaken, Coherent, Coherent.of_run,
  load_of_quiet, quiet_load_is_stale
-/
import Parley.Proofs.Session.Traffic

namespace Parley

open Dictionary (find?)
open FileStore (transcriptFile notesFile temporary turnsIn)

/-! ### What is saved last -/

/-- The transcript that a step puts in the file of a session. -/
def StoreEvent.changedTo? (session : String) (event : StoreEvent) : Option Transcript :=
  match event.asked with
  | ⟨.rename _ target, .ok _⟩ =>
      if target = transcriptFile session then some event.call.turns else none
  | ⟨.remove name, .ok _⟩ => if name = transcriptFile session then some [] else none
  | _ => none

/-- The transcript that was put in the file of a session last, if it started with some. -/
def committed (session : String) (start : Transcript) (events : List StoreEvent) : Transcript :=
  events.foldl (fun turns event => (event.changedTo? session).getD turns) start

theorem committed_append (session : String) (start : Transcript) (events : List StoreEvent)
    (event : StoreEvent) :
    committed session start (events ++ [event]) =
      (event.changedTo? session).getD (committed session start events) := by
  simp [committed]

/-- The file of a session changes when a call enters the stage in which it is to say so. -/
theorem changedTo?_of_advance {call : StoreCall} {stage after : Stage}
    {asked : Program.Asked fileInterface} (ticket : Nat) (session : String)
    (advance : Advance call stage asked after) :
    StoreEvent.changedTo? session ⟨ticket, call, asked⟩ =
      if call.session = session ∧ stage ≠ .changed ∧ after = .changed then some call.turns
      else none := by
  cases advance with
  | rename turns isSave => simp [StoreEvent.changedTo?, FileStore.transcriptFile_inj]
  | remove isDelete =>
      simp [StoreEvent.changedTo?, FileStore.transcriptFile_inj, StoreCall.turns, isDelete]
  | removeNotes isDelete =>
      simp [StoreEvent.changedTo?, (FileStore.transcriptFile_ne_notesFile _ _).symm]
  | _ => simp [StoreEvent.changedTo?]

/-- A file that a call has changed holds the transcript of the call. -/
theorem turnsIn_file (call : StoreCall) : turnsIn call.file = call.turns := by
  unfold StoreCall.file StoreCall.turns
  cases call.kind with
  | load => rfl
  | save turns => exact turns.ofLines_lines
  | delete => rfl

/-- What a call tells the memory is what it put in the file. -/
theorem remembered_eq {call : StoreCall} {turns : Transcript}
    (isMemory : call.memory = some turns) : turns = turnsIn call.file := by
  rw [turnsIn_file]
  unfold StoreCall.memory at isMemory
  unfold StoreCall.turns
  generalize call.kind = kind at isMemory ⊢
  cases kind with
  | load => cases isMemory
  | save turns => exact (Option.some.inj isMemory).symm
  | delete => cases isMemory

/-! ### Overtaken loads -/

/-- A load reads the file of a session, another call changes the file and tells the memory, and then
the load remembers what it read. -/
def Overtaken (events : List StoreEvent) : Prop :=
  ∃ read change update learn : StoreEvent,
    [read, change, update, learn].Sublist events ∧
      (∀ event ∈ [change, update, learn], event.call.session = read.call.session) ∧
      learn.ticket = read.ticket ∧ update.ticket = change.ticket ∧
      read.IsRead ∧ change.IsChange ∧ update.IsUpdate ∧ learn.IsLearn

theorem Overtaken.append {events : List StoreEvent} (overtaken : Overtaken events)
    (event : StoreEvent) : Overtaken (events ++ [event]) := by
  obtain ⟨read, change, update, learn, sublist, rest⟩ := overtaken
  exact ⟨read, change, update, learn, sublist.trans (List.sublist_append_left _ _), rest⟩

namespace Traffic

/-- The stages of the calls in flight. -/
abbrev Stages : Type := Nat → Stage

/-- The call with a ticket has changed the file of a session and has not told the memory yet. -/
def Changing (traffic : Traffic) (stages : Stages) (session : String) (ticket : Nat) : Prop :=
  ∃ call left, traffic.calls ticket = some (call, left) ∧ call.session = session ∧
    stages ticket = .changed

/-- What a load that has read a transcript may still find when it remembers it. -/
inductive Holds (traffic : Traffic) (stages : Stages) (events : List StoreEvent) (session : String)
    (ticket : Nat) (turns : Transcript) : Prop where
  /-- The file as it was read. -/
  | current {read : StoreEvent} : read ∈ events → read.IsRead → read.ticket = ticket →
      read.call.session = session →
      turns = turnsIn (traffic.directory.view session).file →
      Holds traffic stages events session ticket turns
  /-- A file that was changed since by a call that is still to tell the memory. -/
  | changing {read change : StoreEvent} : [read, change].Sublist events → read.IsRead →
      read.ticket = ticket → read.call.session = session → change.IsChange →
      change.call.session = session → traffic.Changing stages session change.ticket →
      Holds traffic stages events session ticket turns
  /-- A file that was changed since, and the memory knows. -/
  | overtaken {read change update : StoreEvent} : [read, change, update].Sublist events →
      read.IsRead → read.ticket = ticket → read.call.session = session → change.IsChange →
      change.call.session = session → update.IsUpdate → update.call.session = session →
      update.ticket = change.ticket → Holds traffic stages events session ticket turns

/-- A call in flight is at its stage, and the directory is as the stage says. -/
structure InStage (traffic : Traffic) (stages : Stages) (events : List StoreEvent) (ticket : Nat)
    (call : StoreCall) (left : Program fileInterface (Except Fault Unit)) : Prop where
  keeps : left.Keeps call.protocol (fun _ stage => stage = .idle) (stages ticket)
  busy : stages ticket = .prepared ∨ stages ticket = .changed → call.changes = true
  prepared : stages ticket = .prepared →
    (traffic.directory.view call.session).temporary = call.file
  changed : stages ticket = .changed → (traffic.directory.view call.session).file = call.file
  holding : ∀ turns, stages ticket = .holding turns →
    traffic.Holds stages events call.session ticket turns

/-- What is remembered is what the files say, or a call in flight is about to say so. -/
structure Coherent (start : Directory) (events : List StoreEvent) (traffic : Traffic)
    (stages : Stages) : Prop where
  calls : ∀ ticket call left, traffic.calls ticket = some (call, left) →
    traffic.InStage stages events ticket call left
  /-- Only one call at a time changes a session. -/
  alone : ∀ one two callOne callTwo leftOne leftTwo,
    traffic.calls one = some (callOne, leftOne) → traffic.calls two = some (callTwo, leftTwo) →
    callOne.session = callTwo.session → callOne.changes = true → callTwo.changes = true → one = two
  memory : ∀ session turns, (traffic.directory.view session).memory = some turns →
    turns = turnsIn (traffic.directory.view session).file ∨
      ∃ ticket, traffic.Changing stages session ticket
  committed : ∀ session, turnsIn (traffic.directory.view session).file =
    Parley.committed session (turnsIn (start.view session).file) events

/-- A directory in which nothing is remembered but what the files say. -/
def Faithful (directory : Directory) : Prop :=
  ∀ session turns, find? directory.memory session = some turns →
    turns = turnsIn (find? directory.files (transcriptFile session))

theorem Coherent.empty {start : Directory} (faithful : Faithful start) :
    Coherent start [] ⟨start, fun _ => none⟩ (fun _ => .idle) where
  calls := by simp
  alone := by simp
  memory session turns found := .inl (faithful session turns found)
  committed _ := rfl

section Moves

variable {start after : Directory} {events more : List StoreEvent} {traffic next : Traffic}
  {stages stagesNext : Stages} {session : String} {ticket other : Nat} {turns : Transcript}
  {held? : Option (StoreCall × Program fileInterface (Except Fault Unit))}

/-- Set the stage of a call. -/
def Stages.put (stages : Stages) (ticket : Nat) (stage : Stage) : Stages :=
  fun other => if other = ticket then stage else stages other

@[simp] theorem put_calls_self : (traffic.put ticket held?).calls ticket = held? :=
  if_pos rfl

theorem put_calls_of_ne (different : other ≠ ticket) :
    (traffic.put ticket held?).calls other = traffic.calls other :=
  if_neg different

@[simp] theorem Stages.put_self {stage : Stage} : stages.put ticket stage ticket = stage :=
  if_pos rfl

theorem Stages.put_of_ne {stage : Stage} (different : other ≠ ticket) :
    stages.put ticket stage other = stages other :=
  if_neg different

/-- What is in flight after a call was put there. -/
theorem calls_put {entry : StoreCall × Program fileInterface (Except Fault Unit)}
    (found : (traffic.put ticket held?).calls other = some entry) :
    (other = ticket ∧ held? = some entry) ∨
      (other ≠ ticket ∧ traffic.calls other = some entry) := by
  by_cases same : other = ticket
  · subst same
    exact .inl ⟨rfl, put_calls_self.symm.trans found⟩
  · exact .inr ⟨same, (put_calls_of_ne same).symm.trans found⟩

theorem Changing.put (changing : traffic.Changing stages session other)
    (sameCalls : next.calls = traffic.calls) (different : other ≠ ticket) (stage : Stage) :
    (next.put ticket held?).Changing (stages.put ticket stage) session other := by
  obtain ⟨call, left, found, sameSession, isChanged⟩ := changing
  refine ⟨call, left, ?_, sameSession, ?_⟩
  · rw [put_calls_of_ne different, sameCalls, found]
  · rw [Stages.put_of_ne different, isChanged]

/-- While the file stays and those who changed it are still to tell, a load finds what it found. -/
theorem Holds.mono (holds : traffic.Holds stages events session ticket turns)
    (within : events.Sublist more)
    (sameFile : (next.directory.view session).file = (traffic.directory.view session).file)
    (still : ∀ other, traffic.Changing stages session other →
      next.Changing stagesNext session other) :
    next.Holds stagesNext more session ticket turns := by
  cases holds with
  | current member isRead sameTicket sameSession isFile =>
      exact .current (within.subset member) isRead sameTicket sameSession (sameFile ▸ isFile)
  | changing sublist isRead sameTicket sameSession isChange changeSession changing =>
      exact .changing (sublist.trans within) isRead sameTicket sameSession isChange changeSession
        (still _ changing)
  | overtaken sublist isRead sameTicket sameSession isChange changeSession isUpdate updateSession
      sameToo =>
      exact .overtaken (sublist.trans within) isRead sameTicket sameSession isChange changeSession
        isUpdate updateSession sameToo

/-- A call that is idle has only its protocol to keep. -/
theorem InStage.idle {call : StoreCall} {left : Program fileInterface (Except Fault Unit)}
    (isIdle : stages ticket = .idle)
    (keeps : left.Keeps call.protocol (fun _ stage => stage = .idle) .idle) :
    traffic.InStage stages events ticket call left where
  keeps := isIdle ▸ keeps
  busy stage := by simp [isIdle] at stage
  prepared stage := by simp [isIdle] at stage
  changed stage := by simp [isIdle] at stage
  holding turns stage := by simp [isIdle] at stage

/-- Where the files of its session stay, a call stays at its stage. -/
theorem InStage.mono {call : StoreCall} {left : Program fileInterface (Except Fault Unit)}
    (inStage : traffic.InStage stages events ticket call left)
    (sameStage : stagesNext ticket = stages ticket) (within : events.Sublist more)
    (sameFile : (next.directory.view call.session).file =
      (traffic.directory.view call.session).file)
    (sameTemporary : (next.directory.view call.session).temporary =
      (traffic.directory.view call.session).temporary)
    (still : ∀ other, traffic.Changing stages call.session other →
      next.Changing stagesNext call.session other) :
    next.InStage stagesNext more ticket call left where
  keeps := sameStage ▸ inStage.keeps
  busy stage := inStage.busy (sameStage ▸ stage)
  prepared stage := sameTemporary.trans (inStage.prepared (sameStage ▸ stage))
  changed stage := sameFile.trans (inStage.changed (sameStage ▸ stage))
  holding turns stage := (inStage.holding turns (sameStage ▸ stage)).mono within sameFile still

/-- A call that starts has done nothing yet. -/
theorem Coherent.begin (coherent : Coherent start events traffic stages) {call : StoreCall}
    (free : traffic.calls ticket = none)
    (serial : call.changes = true → ∀ other entry, traffic.calls other = some entry →
      entry.1.session = call.session → entry.1.changes = false) :
    Coherent start events (traffic.put ticket (some (call, call.program.run)))
      (stages.put ticket .idle) := by
  have still : ∀ session other, traffic.Changing stages session other →
      (traffic.put ticket (some (call, call.program.run))).Changing (stages.put ticket .idle)
        session other := by
    intro session other changing
    refine changing.put rfl ?_ _
    rintro rfl
    obtain ⟨_, _, found, -⟩ := changing
    rw [free] at found
    cases found
  constructor
  · intro one callOne left found
    rcases calls_put found with ⟨rfl, same⟩ | ⟨different, foundOld⟩
    · cases same
      exact .idle Stages.put_self call.keeps_program
    · exact (coherent.calls one callOne left foundOld).mono (Stages.put_of_ne different) (.refl _)
        rfl rfl (still _)
  · intro one two callOne callTwo leftOne leftTwo foundOne foundTwo sameSession changes changesToo
    rcases calls_put foundOne with ⟨rfl, same⟩ | ⟨different, foundOld⟩
    · rcases calls_put foundTwo with ⟨rfl, -⟩ | ⟨-, foundOldToo⟩
      · rfl
      · cases same
        have not := serial changes two _ foundOldToo sameSession.symm
        rw [changesToo] at not
        cases not
    · rcases calls_put foundTwo with ⟨rfl, same⟩ | ⟨-, foundOldToo⟩
      · cases same
        have not := serial changesToo one _ foundOld sameSession
        rw [changes] at not
        cases not
      · exact coherent.alone one two _ _ _ _ foundOld foundOldToo sameSession changes changesToo
  · intro session turns found
    rcases coherent.memory session turns found with isFile | ⟨other, changing⟩
    · exact .inl isFile
    · exact .inr ⟨other, still session other changing⟩
  · exact coherent.committed

/-- A call that is done leaves nothing incomplete. -/
theorem Coherent.leave (coherent : Coherent start events traffic stages) {call : StoreCall}
    {result : Except Fault Unit} (found : traffic.calls ticket = some (call, .done result)) :
    Coherent start events (traffic.put ticket none) (stages.put ticket .idle) := by
  have isIdle : stages ticket = .idle := (coherent.calls ticket call _ found).keeps
  have still : ∀ session other, traffic.Changing stages session other →
      (traffic.put ticket none).Changing (stages.put ticket .idle) session other := by
    intro session other changing
    refine changing.put rfl ?_ _
    rintro rfl
    obtain ⟨_, _, -, -, isChanged⟩ := changing
    rw [isIdle] at isChanged
    cases isChanged
  have old : ∀ {one entry}, (traffic.put ticket none).calls one = some entry →
      one ≠ ticket ∧ traffic.calls one = some entry := by
    intro one entry found
    rcases calls_put found with ⟨-, same⟩ | foundOld
    · cases same
    · exact foundOld
  constructor
  · intro one callOne left found
    obtain ⟨different, foundOld⟩ := old found
    exact (coherent.calls one callOne left foundOld).mono (Stages.put_of_ne different) (.refl _)
      rfl rfl (still _)
  · intro one two callOne callTwo leftOne leftTwo foundOne foundTwo
    exact coherent.alone one two _ _ _ _ (old foundOne).2 (old foundTwo).2
  · intro session turns found
    rcases coherent.memory session turns found with isFile | ⟨other, changing⟩
    · exact .inl isFile
    · exact .inr ⟨other, still session other changing⟩
  · exact coherent.committed

/-! ### Steps -/

/-- A call in flight takes a step from one stage to another. -/
structure Takes (traffic : Traffic) (stages : Stages) (event : StoreEvent) (stage : Stage)
    (goesOn : Program fileInterface (Except Fault Unit)) (next : Traffic) : Prop where
  found : ∃ left, traffic.calls event.ticket = some (event.call, left)
  goes : next = { traffic with directory := next.directory }.put event.ticket
    (some (event.call, goesOn))
  does : Does event (stages event.ticket) (traffic.directory.view event.call.session) stage
    (next.directory.view event.call.session)
  others : ∀ other, other ≠ event.call.session →
    next.directory.view other = traffic.directory.view other

section Step

variable {event : StoreEvent} {stage : Stage} {goesOn : Program fileInterface (Except Fault Unit)}

/-- What is in flight after a step was in flight before. -/
theorem Takes.calls (takes : traffic.Takes stages event stage goesOn next)
    {entry : StoreCall × Program fileInterface (Except Fault Unit)}
    (found : next.calls other = some entry) :
    (other = event.ticket ∧ entry = (event.call, goesOn)) ∨
      (other ≠ event.ticket ∧ traffic.calls other = some entry) := by
  rw [takes.goes] at found
  rcases calls_put found with ⟨same, isEntry⟩ | old
  · exact .inl ⟨same, (Option.some.inj isEntry).symm⟩
  · exact .inr old

theorem Takes.was (takes : traffic.Takes stages event stage goesOn next) {call : StoreCall}
    {left : Program fileInterface (Except Fault Unit)}
    (found : next.calls other = some (call, left)) :
    ∃ old, traffic.calls other = some (call, old) := by
  rcases takes.calls found with ⟨rfl, same⟩ | ⟨-, foundOld⟩
  · cases same
    exact takes.found
  · exact ⟨left, foundOld⟩

/-- Whoever has changed a file is still to tell the memory, if this is not what it does. -/
theorem Takes.still (takes : traffic.Takes stages event stage goesOn next)
    (changing : traffic.Changing stages session other) :
    next.Changing (stages.put event.ticket stage) session other ∨
      (other = event.ticket ∧ session = event.call.session ∧ event.IsUpdate) ∧
        stage ≠ .changed := by
  by_cases same : other = event.ticket
  · subst same
    obtain ⟨left, found⟩ := takes.found
    obtain ⟨call, left, foundToo, sameSession, isChanged⟩ := changing
    cases found.symm.trans foundToo
    by_cases isStill : stage = .changed
    · left
      refine ⟨event.call, goesOn, ?_, sameSession, by rw [Stages.put_self, isStill]⟩
      rw [takes.goes, put_calls_self]
    · exact .inr ⟨⟨rfl, sameSession.symm, (takes.does.of_changed isChanged).resolve_left isStill⟩,
        isStill⟩
  · left
    rw [takes.goes]
    exact changing.put rfl same stage

/-- The call that takes the step is at its new stage. -/
theorem Takes.inStage (takes : traffic.Takes stages event stage goesOn next)
    {left : Program fileInterface (Except Fault Unit)}
    (inStage : traffic.InStage stages events event.ticket event.call left)
    (keeps : goesOn.Keeps event.call.protocol (fun _ stage => stage = .idle) stage) :
    next.InStage (stages.put event.ticket stage) (events ++ [event]) event.ticket event.call
      goesOn := by
  have does := takes.does
  constructor
  · rw [Stages.put_self]
    exact keeps
  · rw [Stages.put_self]
    exact does.changes_of_busy
  · rw [Stages.put_self]
    rintro rfl
    exact does.of_prepared
  · rw [Stages.put_self]
    rintro rfl
    exact does.file_of_changed inStage.prepared inStage.changed
  · rw [Stages.put_self]
    rintro turns rfl
    obtain ⟨isRead, isFile⟩ := does.of_holding
    exact .current (List.mem_append_right _ List.mem_cons_self) isRead rfl rfl isFile

/-- A step of another call on its session: what a load holds is what the file says, or is overtaken
in the end. -/
theorem Takes.holds (takes : traffic.Takes stages event stage goesOn next)
    (holds : traffic.Holds stages events event.call.session ticket turns) :
    next.Holds (stages.put event.ticket stage) (events ++ [event]) event.call.session ticket
      turns := by
  have within := List.sublist_append_left events [event]
  cases holds with
  | current member isRead sameTicket sameSession isFile =>
      rcases takes.does.file_cases with sameFile | ⟨isChange, -, rfl⟩
      · exact .current (within.subset member) isRead sameTicket sameSession (sameFile ▸ isFile)
      · refine .changing ((List.singleton_sublist.2 member).append (.refl [event])) isRead
          sameTicket sameSession isChange rfl ?_
        refine ⟨event.call, goesOn, ?_, rfl, Stages.put_self⟩
        rw [takes.goes, put_calls_self]
  | changing sublist isRead sameTicket sameSession isChange changeSession changing =>
      rcases takes.still changing with still | ⟨⟨sameCall, -, isUpdate⟩, -⟩
      · exact .changing (sublist.trans within) isRead sameTicket sameSession isChange changeSession
          still
      · exact .overtaken (sublist.append (.refl [event])) isRead sameTicket sameSession isChange
          changeSession isUpdate rfl sameCall.symm
  | overtaken sublist isRead sameTicket sameSession isChange changeSession isUpdate updateSession
      sameToo =>
      exact .overtaken (sublist.trans within) isRead sameTicket sameSession isChange changeSession
        isUpdate updateSession sameToo

/-- Another call stays at its stage. -/
theorem Takes.inStage_other (takes : traffic.Takes stages event stage goesOn next)
    (coherent : Coherent start events traffic stages) {call : StoreCall}
    {left : Program fileInterface (Except Fault Unit)} (different : other ≠ event.ticket)
    (found : traffic.calls other = some (call, left)) :
    next.InStage (stages.put event.ticket stage) (events ++ [event]) other call left := by
  have within := List.sublist_append_left events [event]
  have sameStage : stages.put event.ticket stage other = stages other :=
    Stages.put_of_ne different
  have inStage := coherent.calls other call left found
  obtain ⟨leftOf, foundOf⟩ := takes.found
  by_cases sameSession : call.session = event.call.session
  · cases isLoad : event.call.changes with
    | false =>
        obtain ⟨sameFile, sameTemporary⟩ := takes.does.of_load isLoad
        refine inStage.mono sameStage within ?_ ?_ ?_
        · rw [sameSession]
          exact sameFile
        · rw [sameSession]
          exact sameTemporary
        · intro ticket changing
          rcases takes.still changing with still | ⟨⟨-, -, isUpdate⟩, -⟩
          · exact still
          · exact absurd isUpdate.1 (by simp [isLoad])
    | true =>
        -- Only one call changes the session, so the other is a load.
        have isLoad : call.changes = false := by
          cases changes : call.changes with
          | false => rfl
          | true =>
              exact absurd (coherent.alone other event.ticket _ _ _ _ found foundOf sameSession
                changes isLoad) different
        have notBusy : ¬ (stages other = .prepared ∨ stages other = .changed) := fun busy =>
          absurd (inStage.busy busy) (by simp [isLoad])
        constructor
        · exact sameStage ▸ inStage.keeps
        · intro busy
          exact absurd (sameStage ▸ busy) notBusy
        · intro isPrepared
          exact absurd (.inl (sameStage ▸ isPrepared)) notBusy
        · intro isChanged
          exact absurd (.inr (sameStage ▸ isChanged)) notBusy
        · intro turns isHolding
          have holds := inStage.holding turns (sameStage ▸ isHolding)
          rw [sameSession] at holds ⊢
          exact takes.holds holds
  · have sameView := takes.others call.session sameSession
    refine inStage.mono sameStage within (by rw [sameView]) (by rw [sameView]) ?_
    intro ticket changing
    rcases takes.still changing with still | ⟨⟨-, isSession, -⟩, -⟩
    · exact still
    · exact absurd isSession sameSession

/-- What is remembered after a step is what the file says, or a call is about to say so. -/
theorem Takes.memory (takes : traffic.Takes stages event stage goesOn next)
    (coherent : Coherent start events traffic stages) (inTime : ¬ Overtaken (events ++ [event]))
    (found : (next.directory.view session).memory = some turns) :
    turns = turnsIn (next.directory.view session).file ∨
      ∃ ticket, next.Changing (stages.put event.ticket stage) session ticket := by
  have same : (next.directory.view session).memory = (traffic.directory.view session).memory →
      (next.directory.view session).file = (traffic.directory.view session).file →
      (session = event.call.session → stages event.ticket = .changed → stage = .changed) →
      turns = turnsIn (next.directory.view session).file ∨
        ∃ ticket, next.Changing (stages.put event.ticket stage) session ticket := by
    intro sameMemory sameFile stays
    rcases coherent.memory session turns (sameMemory ▸ found) with isFile | ⟨other, changing⟩
    · exact .inl (sameFile ▸ isFile)
    · right
      rcases takes.still changing with still | ⟨⟨rfl, isSession, -⟩, notChanged⟩
      · exact ⟨other, still⟩
      · obtain ⟨_, _, -, -, wasChanged⟩ := changing
        exact absurd (stays isSession wasChanged) notChanged
  by_cases sameSession : session = event.call.session
  · subst sameSession
    obtain ⟨left, foundCall⟩ := takes.found
    have inStage := coherent.calls event.ticket event.call left foundCall
    rcases takes.does.memory_cases with ⟨sameMemory, stays⟩ |
      ⟨held, isHolding, isLearn, isHeld, sameFile⟩ | ⟨wasChanged, isMemory, sameFile⟩
    · rcases takes.does.file_cases with sameFile | ⟨-, -, isChanged⟩
      · exact same sameMemory sameFile fun _ => stays
      · right
        refine ⟨event.ticket, event.call, goesOn, ?_, rfl, by rw [Stages.put_self, isChanged]⟩
        rw [takes.goes, put_calls_self]
    · cases isHeld.symm.trans found
      cases inStage.holding turns isHolding with
      | current _ _ _ _ isFile => exact .inl (sameFile ▸ isFile)
      | changing _ _ _ _ _ _ changing =>
          right
          rcases takes.still changing with still | ⟨⟨sameCall, -, isUpdate⟩, -⟩
          · exact ⟨_, still⟩
          · exact absurd isUpdate.1 (by simp [StoreCall.changes, isLearn.1])
      | overtaken sublist isRead sameTicket sameSession isChange changeSession isUpdate
          updateSession sameToo =>
          refine absurd ⟨_, _, _, event, sublist.append (.refl [event]), ?_, ?_, sameToo, isRead,
            isChange, isUpdate, isLearn⟩ inTime
          · simp [sameSession, changeSession, updateSession]
          · exact sameTicket.symm
    · left
      have isFile := inStage.changed wasChanged
      rw [sameFile, isFile]
      exact remembered_eq (isMemory.symm.trans found)
  · exact same (by rw [takes.others session sameSession]) (by rw [takes.others session sameSession])
      fun isSession => absurd isSession sameSession

/-- The file of a session says what was saved last. -/
theorem Takes.committed (takes : traffic.Takes stages event stage goesOn next)
    (coherent : Coherent start events traffic stages)
    (advance : Advance event.call (stages event.ticket) event.asked stage) (session : String) :
    turnsIn (next.directory.view session).file =
      Parley.committed session (turnsIn (start.view session).file) (events ++ [event]) := by
  have changedTo := changedTo?_of_advance event.ticket session advance
  rw [committed_append, changedTo, ← coherent.committed session]
  obtain ⟨left, found⟩ := takes.found
  have inStage := coherent.calls event.ticket event.call left found
  split
  · next changes =>
      obtain ⟨rfl, -, isChanged⟩ := changes
      have does := takes.does
      rw [isChanged] at does
      rw [does.file_of_changed inStage.prepared inStage.changed, turnsIn_file]
      rfl
  · next notChanging =>
      by_cases same : event.call.session = session
      · subst same
        rcases takes.does.file_cases with sameFile | ⟨-, notChanged, isChanged⟩
        · rw [sameFile]
          rfl
        · exact absurd ⟨rfl, notChanged, isChanged⟩ notChanging
      · rw [takes.others session (Ne.symm same)]
        rfl

end Step

/-- A call takes a step. -/
theorem Coherent.step (coherent : Coherent start events traffic stages) {call : StoreCall}
    {question : FileQuestion} {goesOn : question.Answer → Program fileInterface (Except Fault Unit)}
    {answer : question.Answer}
    (found : traffic.calls ticket = some (call, .ask question goesOn))
    (answered : Directory.MayAnswer question traffic.directory answer after)
    (whole : ¬ HalfDeletes ⟨question, answer⟩)
    (inTime : ¬ Overtaken (events ++ [⟨ticket, call, ⟨question, answer⟩⟩])) :
    ∃ stage, Coherent start (events ++ [⟨ticket, call, ⟨question, answer⟩⟩])
      ({ traffic with directory := after }.put ticket (some (call, goesOn answer)))
      (stages.put ticket stage) := by
  have inStage := coherent.calls ticket call _ found
  obtain ⟨asks, goesOnKeeps⟩ := inStage.keeps
  obtain ⟨stage, advance⟩ : ∃ stage, Advance call (stages ticket) ⟨question, answer⟩ stage :=
    (asks answer).resolve_right whole
  obtain ⟨does, others⟩ := does_of_advance ticket advance answered
  have takes : traffic.Takes stages ⟨ticket, call, ⟨question, answer⟩⟩ stage (goesOn answer)
      ({ traffic with directory := after }.put ticket (some (call, goesOn answer))) :=
    ⟨⟨_, found⟩, rfl, does, others⟩
  refine ⟨stage, ?_⟩
  constructor
  · intro other callOther left foundOther
    rcases takes.calls foundOther with ⟨rfl, same⟩ | ⟨different, foundOld⟩
    · cases same
      exact takes.inStage inStage (goesOnKeeps answer stage advance)
    · exact takes.inStage_other coherent different foundOld
  · intro one two callOne callTwo leftOne leftTwo foundOne foundTwo
    obtain ⟨oldOne, wasOne⟩ := takes.was foundOne
    obtain ⟨oldTwo, wasTwo⟩ := takes.was foundTwo
    exact coherent.alone one two _ _ _ _ wasOne wasTwo
  · intro session turns remembered
    exact takes.memory coherent inTime remembered
  · exact takes.committed coherent advance

end Moves

/-- Along every run in which no load is overtaken and no deletion fails half-way, the memory and the
files agree up to the calls in flight. -/
theorem Coherent.of_run {start : Directory} {events : List StoreEvent} {traffic : Traffic}
    (run : Run start events traffic) (faithful : Faithful start)
    (whole : ∀ event ∈ events, ¬ HalfDeletes event.asked) (inTime : ¬ Overtaken events) :
    ∃ stages, Coherent start events traffic stages := by
  induction run with
  | empty => exact ⟨_, .empty faithful⟩
  | start ticket call _ free _ serial ih =>
      obtain ⟨stages, coherent⟩ := ih whole inTime
      exact ⟨_, coherent.begin free serial⟩
  | step _ found answered ih =>
      obtain ⟨stages, coherent⟩ := ih
        (fun event member => whole event (List.mem_append_left _ member))
        (fun overtaken => inTime (overtaken.append _))
      obtain ⟨stage, coherentAfter⟩ := coherent.step found answered
        (whole _ (List.mem_append_right _ List.mem_cons_self)) inTime
      exact ⟨_, coherentAfter⟩
  | leave _ found ih =>
      obtain ⟨stages, coherent⟩ := ih whole inTime
      exact ⟨_, coherent.leave found⟩

end Traffic

/-- Once no call is in flight, a session loads as its file says, and that is what was saved last, or
nothing after a deletion: whatever calls overlapped, if no load was overtaken and no deletion failed
half-way. -/
theorem load_of_quiet {start : Directory} {events : List StoreEvent} {traffic : Traffic}
    {session : String} (faithful : Traffic.Faithful start) (run : Traffic.Run start events traffic)
    (inTime : ¬ Overtaken events) (whole : ∀ event ∈ events, ¬ HalfDeletes event.asked)
    (quiet : traffic.Quiet) (usable : FileStore.isUsableId session = true) :
    let file := find? traffic.directory.files (transcriptFile session)
    (traffic.directory.run (FileStore.load session)).1 = .ok (turnsIn file) ∧
      turnsIn file =
        committed session (turnsIn (find? start.files (transcriptFile session))) events := by
  obtain ⟨stages, coherent⟩ := Traffic.Coherent.of_run run faithful whole inTime
  refine ⟨?_, coherent.committed session⟩
  rw [Directory.run_load]
  cases remembered : find? traffic.directory.memory session with
  | none => rw [if_pos usable]
  | some turns =>
      rcases coherent.memory session turns remembered with isFile | ⟨ticket, changing⟩
      · exact congrArg Except.ok isFile
      · obtain ⟨_, _, found, -⟩ := changing
        rw [quiet ticket] at found
        cases found

/-! ### A load and a save at the same time -/

/-- The transcript of a session before a save. -/
def firstTurns : Transcript := [.plain .user "hi"]

/-- The transcript of the session after the save. -/
def laterTurns : Transcript := [.plain .user "hi", .plain .assistant "hello"]

/-- A directory in which one session has a transcript, with something remembered or not. -/
def oneTranscript (memory : Dictionary Transcript) : Directory :=
  ⟨Directory.greatestName, [("chat.jsonl", firstTurns.lines)], memory⟩

/-- A load and a save of the session that are about to take their first steps. -/
def loadAndSave (directory : Directory) : Traffic :=
  let load : StoreCall := ⟨"chat", .load⟩
  let save : StoreCall := ⟨"chat", .save laterTurns⟩
  ((⟨directory, fun _ => none⟩ : Traffic).put 0 (some (load, load.program.run))).put 1
    (some (save, save.program.run))

theorem run_loadAndSave (directory : Directory) :
    Traffic.Run directory [] (loadAndSave directory) := by
  have started : Traffic.Run directory [] ⟨directory, fun _ => none⟩ := .empty
  have first := started.start 0 ⟨"chat", .load⟩ rfl (by simp) (by intro changes; cases changes)
  refine first.start 1 ⟨"chat", .save laterTurns⟩ rfl (by simp) ?_
  intro _ other entry found _
  rcases Traffic.calls_put found with ⟨-, isLoad⟩ | ⟨-, none⟩
  · cases isLoad
    rfl
  · cases none

/-- Nothing else is in flight beside the load and the save. -/
theorem quiet_of_schedule {directory : Directory} {tickets : List Nat}
    (loadEnds : ((loadAndSave directory).schedule tickets).2.calls 0 = none)
    (saveEnds : ((loadAndSave directory).schedule tickets).2.calls 1 = none)
    (only : ∀ ticket ∈ tickets, ticket = 0 ∨ ticket = 1) :
    ((loadAndSave directory).schedule tickets).2.Quiet := by
  intro ticket
  by_cases isLoad : ticket = 0
  · exact isLoad ▸ loadEnds
  · by_cases isSave : ticket = 1
    · exact isSave ▸ saveEnds
    · have absent : ticket ∉ tickets := fun member => (only ticket member).elim isLoad isSave
      rw [Traffic.calls_schedule absent, loadAndSave]
      simp [Traffic.put, isLoad, isSave]

/-- Where nothing is removed, no deletion fails half-way. -/
theorem whole_of_all {events : List StoreEvent}
    (all : events.all (fun event => !(event.asked.question matches .remove _)) = true) :
    ∀ event ∈ events, ¬ HalfDeletes event.asked := by
  intro event member
  rintro ⟨session, fault, half⟩
  have notRemoved := List.all_eq_true.1 all event member
  rw [half] at notRemoved
  cases notRemoved

/-- The save takes its steps while the load is in flight, and the load finds the transcript
remembered. -/
theorem load_of_quiet_overlapping :
    ∃ events traffic, Traffic.Faithful (oneTranscript [("chat", firstTurns)]) ∧
      Traffic.Run (oneTranscript [("chat", firstTurns)]) events traffic ∧ ¬ Overtaken events ∧
      (∀ event ∈ events, ¬ HalfDeletes event.asked) ∧ traffic.Quiet ∧
      (traffic.directory.run (FileStore.load "chat")).1 = .ok laterTurns := by
  let order := [1, 1, 0, 1, 0, 1]
  let directory := oneTranscript [("chat", firstTurns)]
  have faithful : Traffic.Faithful directory := by
    intro session turns found
    by_cases same : "chat" = session
    · subst same
      cases found
      exact firstTurns.ofLines_lines.symm
    · simp [directory, oneTranscript, find?, same] at found
  have run := (run_loadAndSave directory).schedule order
  have inTime : ¬ Overtaken ((loadAndSave directory).schedule order).1 := by
    rintro ⟨read, change, update, learn, sublist, -, -, -, ⟨content, isRead⟩, -⟩
    -- There are four steps, and the first of them reads nothing.
    cases sublist.eq_of_length rfl
    cases isRead
  have whole := whole_of_all (rfl : ((loadAndSave directory).schedule order).1.all _ = true)
  have quiet : ((loadAndSave directory).schedule order).2.Quiet :=
    quiet_of_schedule rfl rfl (by simp [order])
  obtain ⟨loaded, isLast⟩ := load_of_quiet faithful run inTime whole quiet
    (by decide : FileStore.isUsableId "chat" = true)
  exact ⟨_, _, faithful, run, inTime, whole, quiet, loaded.trans (congrArg _ isLast)⟩

/-! ### Stale loads -/

/-- Where a session is saved whose system file cannot be named, its deletion fails, and it loads as
before although its file is gone. -/
theorem load_of_half_deleted {directory : Directory} {session : String}
    (usable : FileStore.isUsableId session = true)
    (fits : Directory.fits directory.room (transcriptFile session) = true)
    (temporaryFits : Directory.fits directory.room (temporary (transcriptFile session)) = true)
    (long : Directory.fits directory.room (notesFile session) = false) (turns : Transcript) :
    ∃ kept left, directory.run (FileStore.save session turns) = (.ok (), kept) ∧
      kept.run (FileStore.delete session) = (.error .files, left) ∧
      find? left.files (transcriptFile session) = none ∧
      (left.run (FileStore.load session)).1 = .ok turns := by
  refine ⟨_, _, Directory.run_save usable fits temporaryFits turns,
    Directory.run_delete_of_not_fits usable fits long, Dictionary.find?_erase_self _ _, ?_⟩
  simp [Directory.run_load]

/-- An id of a length. -/
def idOf (length : Nat) : String := String.ofList (List.replicate length 'a')

theorem toList_idOf (length : Nat) : (idOf length).toList = List.replicate length 'a' := by
  simp [idOf]

theorem size_idOf (length : Nat) : (idOf length).utf8ByteSize = length := by
  induction length with
  | zero => rfl
  | succ length ih =>
      have split : idOf (length + 1) = "a" ++ idOf length := by
        apply String.ext
        simp [toList_idOf, List.replicate_succ]
      rw [split, String.utf8ByteSize_append, ih, Nat.add_comm]
      rfl

theorem fits_idOf (room length : Nat) (ending : String) :
    Directory.fits room (idOf length ++ ending) =
      (decide (length + ending.utf8ByteSize ≤ room) && !ending.toList.contains '\x00') := by
  simp [Directory.fits, size_idOf, toList_idOf]

theorem isUsableId_idOf {length : Nat} (positive : 0 < length) :
    FileStore.isUsableId (idOf length) = true := by
  have noDots : FileStore.hasDoubleDot (List.replicate length 'a') = false := by
    clear positive
    induction length with
    | zero => rfl
    | succ length ih => simp [List.replicate_succ, FileStore.hasDoubleDot, ih]
  simp [FileStore.isUsableId, toList_idOf, noDots]
  omega

/-- No call is in flight, and yet a session does not load as its file says.  A load read the file
before a save and remembered it after the save; and a deletion removed the transcript file of a
session with an id of 244 characters, but could not name the system file and left the memory. -/
theorem quiet_load_is_stale :
    laterTurns ≠ firstTurns ∧
    (∃ events traffic, Traffic.Faithful (oneTranscript []) ∧
      Traffic.Run (oneTranscript []) events traffic ∧
      (∀ event ∈ events, ¬ HalfDeletes event.asked) ∧ traffic.Quiet ∧
      find? traffic.directory.files (transcriptFile "chat") = some laterTurns.lines ∧
      committed "chat" firstTurns events = laterTurns ∧
      (traffic.directory.run (FileStore.load "chat")).1 = .ok firstTurns) ∧
    ∃ kept left, Directory.empty.run (FileStore.save (idOf 244) firstTurns) = (.ok (), kept) ∧
      kept.run (FileStore.delete (idOf 244)) = (.error .files, left) ∧
      find? left.files (transcriptFile (idOf 244)) = none ∧
      (left.run (FileStore.load (idOf 244))).1 = .ok firstTurns := by
  refine ⟨by decide, ?_, ?_⟩
  · let order := [0, 0, 1, 1, 1, 0, 0, 1]
    have faithful : Traffic.Faithful (oneTranscript []) := by
      intro session turns found
      cases found
    have whole := whole_of_all
      (rfl : ((loadAndSave (oneTranscript [])).schedule order).1.all _ = true)
    have quiet : ((loadAndSave (oneTranscript [])).schedule order).2.Quiet :=
      quiet_of_schedule rfl rfl (by simp [order])
    exact ⟨_, _, faithful, (run_loadAndSave _).schedule order, whole, quiet, rfl, rfl, rfl⟩
  · refine load_of_half_deleted (isUsableId_idOf (by decide)) ?_ ?_ ?_ firstTurns
    · rw [transcriptFile, fits_idOf]
      decide
    · rw [temporary, transcriptFile, String.append_assoc, fits_idOf]
      decide
    · rw [notesFile, fits_idOf]
      decide

end Parley
