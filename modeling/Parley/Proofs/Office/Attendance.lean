/-
Module: Parley.Proofs.Office.Attendance
Layer: Proofs
Purpose: Tasks and claims.  At all times every task has the claim on its session that its ticket
  says: one that waits is in the queue or has been assigned the permit, one that runs holds it.  As
  there is one permit for a session, at most one task of a session runs.
Main exports: Office.Attended, Office.Attended.move, Office.Attended.run, Office.Attended.eq_of_runs
-/
import Parley.Proofs.Office.Moves
import Parley.Proofs.Session.Permits

namespace Parley

open LockTable (Others Sound)

variable {η : Type} {H : Interface}

/-- How far the claim of a task at some stage may have come. -/
def TaskStage.Fits : TaskStage η H → ClaimStage → Prop
  | .waiting, stage => stage = .waiting ∨ stage = .granted ∨ stage = .held
  | .running _ _, stage => stage = .held

/-- Whether a task has its permit and runs. -/
def Task.Runs (task : Task η H) : Prop := task.stage ≠ .waiting

theorem Task.runs_of_stage {task : Task η H} {token : Option Nat} {work : Work η H}
    (stage : task.stage = .running token work) : task.Runs := by
  intro waits
  rw [stage] at waits
  contradiction

namespace Office

/-- A task has its claim among some locks. -/
def HasClaim (locks : LockTable) (task : Task η H) : Prop :=
  ∃ claim ∈ locks.claims, claim.ticket = task.ticket ∧
    claim.session = task.operation.session ∧ task.stage.Fits claim.stage

/-- The locks are sound, no two tasks have one ticket, and every task has its claim. -/
structure Attended (office : Office η H) : Prop where
  sound : office.locks.Sound
  distinct : office.tasks.Pairwise fun one two => one.ticket ≠ two.ticket
  claimed : ∀ task ∈ office.tasks, HasClaim office.locks task

section Attended

variable {office before after : Office η H} {task other : Task η H} {locks : LockTable}

theorem Attended.issued (attended : Attended office) (member : task ∈ office.tasks) :
    task.ticket < office.locks.nextTicket := by
  obtain ⟨claim, claimMember, sameTicket, -⟩ := attended.claimed task member
  rw [← sameTicket]
  exact attended.sound.issued claim claimMember

/-- A task is found under its ticket. -/
theorem Attended.task?_eq (attended : Attended office) (member : task ∈ office.tasks) :
    office.task? task.ticket = some task := by
  obtain ⟨early, late, split⟩ := List.append_of_mem member
  have distinct := attended.distinct
  rw [split, List.pairwise_append] at distinct
  apply List.find?_eq_some_iff_append.2
  refine ⟨by simp, early, late, split, ?_⟩
  intro other otherMember
  simpa using distinct.2.2 other otherMember task List.mem_cons_self

theorem Attended.eq_of_ticket (attended : Attended office) (member : task ∈ office.tasks)
    (otherMember : other ∈ office.tasks) (same : other.ticket = task.ticket) : other = task := by
  have found := attended.task?_eq otherMember
  rw [same, attended.task?_eq member] at found
  exact (Option.some.inj found).symm

/-- A task that runs has a claim that holds the permit. -/
theorem Attended.held_of_runs (attended : Attended office) (member : task ∈ office.tasks)
    (runs : task.Runs) :
    ∃ claim ∈ office.locks.claims, claim.ticket = task.ticket ∧
      claim.session = task.operation.session ∧ claim.stage = .held := by
  obtain ⟨claim, claimMember, sameTicket, sameSession, fits⟩ := attended.claimed task member
  refine ⟨claim, claimMember, sameTicket, sameSession, ?_⟩
  cases stage : task.stage with
  | waiting => exact absurd stage runs
  | running token work => rwa [stage] at fits

/-- A task that runs has the permit of its session, and nobody else has it. -/
theorem Attended.holders_of_runs (attended : Attended office) (member : task ∈ office.tasks)
    (runs : task.Runs) : office.locks.holders task.operation.session = [task.ticket] := by
  obtain ⟨claim, claimMember, sameTicket, sameSession, held⟩ := attended.held_of_runs member runs
  rw [← sameTicket, ← sameSession]
  exact attended.sound.holders_of_hasPermit claimMember (Claim.hasPermit_iff.2 (.inr held))

/-- At most one task of a session runs. -/
theorem Attended.eq_of_runs (attended : Attended office) (member : task ∈ office.tasks)
    (runs : task.Runs) (otherMember : other ∈ office.tasks) (otherRuns : other.Runs)
    (same : other.operation.session = task.operation.session) : other = task := by
  have one := attended.holders_of_runs member runs
  have two := attended.holders_of_runs otherMember otherRuns
  rw [same, one] at two
  exact attended.eq_of_ticket member otherMember (List.cons.inj two).1.symm

/-! ### Deeds -/

theorem HasClaim.others {table : LockTable} {ticket : Nat} (has : HasClaim table task)
    (others : Others ticket table locks) (different : task.ticket ≠ ticket) :
    HasClaim locks task := by
  obtain ⟨claim, member, sameTicket, sameSession, fits⟩ := has
  obtain ⟨new, newMember, newTicket, newSession, stage⟩ :=
    others claim member (sameTicket ▸ different)
  refine ⟨new, newMember, newTicket.trans sameTicket, newSession.trans sameSession, ?_⟩
  rcases stage with same | ⟨waits, granted⟩
  · rwa [same]
  · rw [waits] at fits
    rw [granted]
    cases stage : task.stage with
    | waiting => exact .inr (.inl rfl)
    | running token work =>
        rw [stage] at fits
        contradiction

/-- Deeds that leave the locks and the tasks alone. -/
theorem Attended.congr (attended : Attended before) (locksEq : after.locks = before.locks)
    (tasksEq : after.tasks = before.tasks) : Attended after where
  sound := locksEq ▸ attended.sound
  distinct := tasksEq ▸ attended.distinct
  claimed := by
    rw [locksEq, tasksEq]
    exact attended.claimed

/-- A task is dropped, while its claim changes in any way. -/
theorem Attended.dropTask (attended : Attended before) {ticket : Nat}
    (sound : after.locks.Sound) (others : Others ticket before.locks after.locks)
    (tasksEq : after.tasks = before.tasks) : Attended (after.dropTask ticket) where
  sound := sound
  distinct := by
    have distinct := attended.distinct
    rw [← tasksEq] at distinct
    exact distinct.filter _
  claimed := by
    intro task member
    obtain ⟨there, different⟩ := List.mem_filter.1 member
    rw [tasksEq] at there
    exact (attended.claimed task there).others others (by simpa using different)

/-- A task is put on the list, while its claim changes to one that fits. -/
theorem Attended.putTask (attended : Attended before) (sound : after.locks.Sound)
    (others : Others task.ticket before.locks after.locks) (tasksEq : after.tasks = before.tasks)
    (has : HasClaim after.locks task) : Attended (after.putTask task) := by
  have dropped := attended.dropTask sound others tasksEq
  constructor
  · exact sound
  · apply List.pairwise_cons.2
    constructor
    · intro other member
      have different := (List.mem_filter.1 member).2
      exact fun same => absurd same.symm (by simpa using different)
    · exact dropped.distinct
  · intro other member
    rcases List.mem_cons.1 member with here | there
    · rw [here]
      exact has
    · exact dropped.claimed other there

/-- An operation starts under the next ticket. -/
theorem start_eq (office : Office η H) (operation : Operation) :
    office.start operation = (office.locks.nextTicket,
      { office with locks := (office.locks.acquire operation.session).2 }.putTask
        { ticket := office.locks.nextTicket, operation := operation, stage := .waiting }) := by
  have ticketEq := LockTable.acquire_ticket office.locks operation.session
  simp only [Office.start, ticketEq]

theorem Attended.start (attended : Attended office) (operation : Operation) :
    Attended (office.start operation).2 := by
  obtain ⟨turnstile, claimsEq⟩ := attended.sound.acquire_claims operation.session
  have others : Others office.locks.nextTicket office.locks
      (office.locks.acquire operation.session).2 := by
    intro claim member _
    refine ⟨claim, ?_, rfl, rfl, .inl rfl⟩
    rw [claimsEq]
    exact List.mem_append_left _ member
  rw [start_eq]
  apply attended.putTask (attended.sound.acquired _) others (by rfl)
  have newcomer := List.mem_append_right office.locks.claims (List.mem_singleton_self
    (⟨office.locks.nextTicket, operation.session, turnstile,
      LockTable.stageAsked (office.locks.holders operation.session).isEmpty true⟩ : Claim))
  rw [← claimsEq] at newcomer
  refine ⟨_, newcomer, rfl, rfl, ?_⟩
  cases (office.locks.holders operation.session).isEmpty with
  | true => exact .inr (.inr rfl)
  | false => exact .inl rfl

theorem Attended.callIn (attended : Attended office) (ticket : Nat) :
    Attended (office.callIn ticket) := by
  rcases callIn_eq office ticket with same | ⟨task, found, waits, looked⟩
  · rwa [same]
  · obtain ⟨member, sameTicket⟩ := mem_of_task? _ _ found
    subst sameTicket
    obtain ⟨claim, claimMember, ticketEq, sessionEq, fits⟩ := attended.claimed task member
    obtain ⟨looks, new, newMember, newTicket, newSession, newStage⟩ :=
      attended.sound.poll_held claimMember
    rw [ticketEq] at looks newMember newTicket
    rw [waits] at fits
    have sound : (office.locks.poll task.ticket).2.Sound := attended.sound.step (.look task.ticket)
    have others := attended.sound.others_poll task.ticket
    rcases looked with looked | ⟨held, begun⟩
    · rw [looked]
      constructor
      · exact sound
      · exact attended.distinct
      · intro other otherMember
        by_cases same : other.ticket = task.ticket
        · have isTask := attended.eq_of_ticket member otherMember same
          subst isTask
          refine ⟨new, newMember, newTicket, newSession.trans sessionEq, ?_⟩
          rw [waits, newStage]
          split
          · exact .inr (.inr rfl)
          · exact fits
        · exact (attended.claimed other otherMember).others others same
    · rw [begun]
      apply attended.putTask sound others (by rfl)
      refine ⟨new, newMember, newTicket, newSession.trans sessionEq, ?_⟩
      -- The permit was assigned or held already, so it is held now.
      have stage : new.stage = .held := by
        rw [newStage]
        rcases Claim.hasPermit_iff.1 (looks.1 held) with granted | alreadyHeld
        · rw [if_pos granted]
        · rw [if_neg (by simp [alreadyHeld]), alreadyHeld]
      exact stage

theorem Attended.conclude (attended : Attended office) (task : Task η H) (token : Option Nat) :
    Attended (office.conclude task token) :=
  attended.dropTask (attended.sound.released _) (attended.sound.others_release task.ticket) rfl

theorem Attended.abandon (attended : Attended office) (ticket : Nat) :
    Attended (office.abandon ticket).2 := by
  rw [Office.abandon]
  split
  · exact attended
  · dsimp only
    split
    · have dropped : Attended ({ office with locks := office.locks.abandon ticket }.dropTask ticket)
          := attended.dropTask (attended.sound.abandoned ticket)
            (attended.sound.others_abandon ticket) (by rfl)
      exact dropped.congr rfl rfl
    · have dropped : Attended ({ office with locks := office.locks.release ticket }.dropTask ticket)
          := attended.dropTask (attended.sound.released ticket)
            (attended.sound.others_release ticket) (by rfl)
      exact dropped.congr rfl rfl

/-- Every deed keeps tasks and claims together. -/
theorem Attended.move {deed : Deed η H} (attended : Attended before)
    (move : Move MayAnswer before deed after) : Attended after := by
  cases move with
  | start operation => exact attended.start operation
  | callIn ticket => exact attended.callIn ticket
  | @answer answered ticket task token question next answer found stage given =>
      have effect := effect_of_mayAnswer given
      obtain ⟨member, -⟩ := mem_of_task? _ _ found
      obtain ⟨claim, claimMember, sameTicket, sameSession, fits⟩ := attended.claimed task member
      rw [stage] at fits
      have kept : Attended answered := attended.congr effect.frame.locks effect.frame.tasks
      apply kept.putTask kept.sound (.refl _ _) (by rfl)
      rw [effect.frame.locks]
      exact ⟨claim, claimMember, sameTicket, sameSession, fits⟩
  | @rest ticket task found =>
      obtain ⟨member, -⟩ := mem_of_task? _ _ found
      exact attended.putTask attended.sound (.refl _ _) (by rfl) (attended.claimed task member)
  | conclude found stage => exact attended.conclude _ _
  | abandon ticket => exact attended.abandon ticket
  | cancel session => exact attended.congr rfl rfl
  | read session => exact attended.congr rfl rfl
  | setNotes session messages result backend may => exact attended.congr rfl rfl
  | clock now => exact attended.congr rfl rfl

end Attended

/-! ### Where tasks come from -/

/-- Whether a deed is about the task with a ticket, which is another or gone after it. -/
def Changes (ticket : Nat) : Deed η H → Prop
  | .start other _ => other = ticket
  | .answer other _ => other = ticket
  | .conclude other _ => other = ticket
  | .abandon other => other = ticket
  | _ => False

/-- A task after a deed: it was there before, it was started, it has begun, or its question was
answered. -/
inductive TaskOrigin (answers : Answering η H) (before : Office η H) (deed : Deed η H)
    (task : Task η H) : Prop where
  | kept : task ∈ before.tasks → ¬Changes task.ticket deed → TaskOrigin answers before deed task
  | started : deed = .start task.ticket task.operation →
      task.ticket = before.locks.nextTicket → task.stage = .waiting →
      TaskOrigin answers before deed task
  | begun (old : Task η H) (token : Option Nat) : deed = .callIn old.ticket →
      old ∈ before.tasks → old.stage = .waiting →
      before.locks.holders old.operation.session = [old.ticket] →
      task = old.at token (work before.plan before.chain old.operation) →
      TaskOrigin answers before deed task
  | answered (old : Task η H) (token : Option Nat)
      (question : ExchangeQuestion (callInterface η H)) (next : question.Answer → Work η H)
      (answer : question.Answer) (after : Office η H) :
      deed = .answer old.ticket ⟨question, answer⟩ → old ∈ before.tasks →
      old.stage = .running token (.ask question next) →
      answers token question before answer after → task = old.at token (next answer) →
      TaskOrigin answers before deed task

section TaskOrigin

variable {answers : Answering η H} {before after : Office η H} {task : Task η H}

/-- A task that finds the permit assigned has it, and nobody else. -/
theorem Attended.holders_of_poll (attended : Attended before) (member : task ∈ before.tasks)
    (held : (before.locks.poll task.ticket).1 = true) :
    before.locks.holders task.operation.session = [task.ticket] := by
  obtain ⟨claim, claimMember, ticketEq, sessionEq, -⟩ := attended.claimed task member
  have looks := (attended.sound.poll_held claimMember).1
  rw [ticketEq] at looks
  rw [← ticketEq, ← sessionEq]
  exact attended.sound.holders_of_hasPermit claimMember (looks.1 held)

theorem Attended.mem_callIn (attended : Attended before) (ticket : Nat)
    (member : task ∈ (before.callIn ticket).tasks) :
    TaskOrigin answers before (.callIn ticket) task := by
  have keeps : task ∈ before.tasks → TaskOrigin answers before (.callIn ticket) task :=
    fun there => .kept there id
  rcases callIn_eq before ticket with same | ⟨old, found, waits, looked⟩
  · rw [same] at member
    exact keeps member
  · obtain ⟨oldMember, sameTicket⟩ := mem_of_task? _ _ found
    subst sameTicket
    rcases looked with looked | ⟨held, begun⟩
    · rw [looked] at member
      exact keeps member
    · rw [begun] at member
      rcases mem_putTask _ _ member with here | there
      · exact .begun old _ rfl oldMember waits (attended.holders_of_poll oldMember held) here
      · exact keeps there

/-- All that a deed can do to the tasks. -/
theorem Attended.mem_move (attended : Attended before) {deed : Deed η H}
    (allowed : ∀ {token question before answer after},
      answers token question before answer after → MayAnswer token question before answer after)
    (move : Move answers before deed after) (member : task ∈ after.tasks) :
    TaskOrigin answers before deed task := by
  have keeps : ∀ {deed : Deed η H}, (∀ ticket, ¬Changes ticket deed) → task ∈ before.tasks →
      TaskOrigin answers before deed task := fun still there => .kept there (still task.ticket)
  cases move with
  | start operation =>
      rw [start_eq] at member
      rcases mem_putTask _ _ member with here | there
      · subst here
        rw [start_eq]
        exact .started rfl rfl rfl
      · have wasThere : task ∈ before.tasks := there
        apply TaskOrigin.kept wasThere
        intro same
        rw [start_eq] at same
        exact Nat.ne_of_gt (attended.issued wasThere) same
  | callIn ticket => exact attended.mem_callIn ticket member
  | @answer answered ticket old token question next answer found stage given =>
      obtain ⟨oldMember, sameTicket⟩ := mem_of_task? _ _ found
      subst sameTicket
      rcases (mem_putTask_iff _ _).1 member with here | ⟨there, different⟩
      · exact .answered old token question next answer answered rfl oldMember stage given here
      · rw [(effect_of_mayAnswer (allowed given)).frame.tasks] at there
        exact .kept there (Ne.symm different)
  | @rest ticket old found =>
      obtain ⟨oldMember, -⟩ := mem_of_task? _ _ found
      apply keeps (fun _ => id)
      rcases mem_putTask _ _ member with here | there
      · exact here ▸ oldMember
      · exact there
  | @conclude ticket old token result found stage =>
      obtain ⟨oldMember, sameTicket⟩ := mem_of_task? _ _ found
      subst sameTicket
      obtain ⟨there, different⟩ := (mem_dropTask_iff _).1 member
      exact .kept there (Ne.symm different)
  | abandon ticket =>
      rw [Office.abandon] at member
      split at member
      · next none =>
          apply TaskOrigin.kept member
          rintro rfl
          rw [attended.task?_eq member] at none
          contradiction
      · have dropped : task ∈ (before.dropTask ticket).tasks := by
          dsimp only at member
          split at member <;> exact member
        obtain ⟨there, different⟩ := (mem_dropTask_iff _).1 dropped
        exact .kept there (Ne.symm different)
  | cancel session => exact keeps (fun _ => id) member
  | read session => exact keeps (fun _ => id) member
  | setNotes session messages result backend may =>
      exact keeps (fun _ => id) member
  | clock now => exact keeps (fun _ => id) member

/-- A task that runs stays, unless a deed is about it. -/
theorem Attended.stays (attended : Attended before) {deed : Deed η H}
    (allowed : ∀ {token question before answer after},
      answers token question before answer after → MayAnswer token question before answer after)
    (move : Move answers before deed after) (member : task ∈ before.tasks) (runs : task.Runs)
    (still : ¬Changes task.ticket deed) : task ∈ after.tasks := by
  cases move with
  | start operation =>
      rw [start_eq] at still ⊢
      exact (mem_putTask_iff _ _).2 (.inr ⟨member, Ne.symm still⟩)
  | callIn ticket =>
      rcases callIn_eq before ticket with same | ⟨old, found, waits, looked⟩
      · rwa [same]
      · rcases looked with looked | ⟨-, begun⟩
        · rwa [looked]
        · rw [begun]
          obtain ⟨oldMember, -⟩ := mem_of_task? _ _ found
          refine (mem_putTask_iff _ _).2 (.inr ⟨member, fun same => ?_⟩)
          have isOld := attended.eq_of_ticket oldMember member same
          exact runs (isOld ▸ waits)
  | answer found stage given =>
      obtain ⟨-, sameTicket⟩ := mem_of_task? _ _ found
      subst sameTicket
      refine (mem_putTask_iff _ _).2 (.inr ⟨?_, Ne.symm still⟩)
      rwa [(effect_of_mayAnswer (allowed given)).frame.tasks]
  | @rest ticket old found =>
      obtain ⟨oldMember, -⟩ := mem_of_task? _ _ found
      by_cases same : task.ticket = old.ticket
      · exact (mem_putTask_iff _ _).2 (.inl (attended.eq_of_ticket oldMember member same))
      · exact (mem_putTask_iff _ _).2 (.inr ⟨member, same⟩)
  | conclude found stage =>
      obtain ⟨-, sameTicket⟩ := mem_of_task? _ _ found
      subst sameTicket
      exact (mem_dropTask_iff _).2 ⟨member, Ne.symm still⟩
  | abandon ticket =>
      have dropped : task ∈ (before.dropTask ticket).tasks :=
        (mem_dropTask_iff _).2 ⟨member, Ne.symm still⟩
      rw [Office.abandon]
      split
      · exact member
      · dsimp only
        split <;> exact dropped
  | cancel session => exact member
  | read session => exact member
  | setNotes session messages result backend may => exact member
  | clock now => exact member

end TaskOrigin

/-! ### Who runs -/

/-- A task of a session that runs. -/
structure RunsIn (session : String) (office : Office η H) (task : Task η H) : Prop where
  member : task ∈ office.tasks
  session : task.operation.session = session
  runs : task.Runs

section RunsIn

variable {answers : Answering η H} {before after : Office η H} {session : String}
  {task other : Task η H}

theorem Attended.runsIn_unique (attended : Attended before) (one : RunsIn session before task)
    (two : RunsIn session before other) : other = task :=
  attended.eq_of_runs one.member one.runs two.member two.runs (two.session.trans one.session.symm)

/-- A deed about no task of a session, which lets none of them begin, leaves those who run there. -/
theorem Attended.runsIn_iff (attended : Attended before) {deed : Deed η H}
    (allowed : ∀ {token question before answer after},
      answers token question before answer after → MayAnswer token question before answer after)
    (move : Move answers before deed after) (noCall : ∀ ticket, deed ≠ .callIn ticket)
    (elsewhere : ∀ task ∈ before.tasks, task.operation.session = session →
      ¬Changes task.ticket deed) :
    RunsIn session after task ↔ RunsIn session before task := by
  constructor
  · rintro ⟨member, same, runs⟩
    cases attended.mem_move allowed move member with
    | kept there still => exact ⟨there, same, runs⟩
    | started isStart isNew waits => exact absurd waits runs
    | begun old token isCall => exact absurd isCall (noCall _)
    | answered old token question next answer between isAnswer there stage given answered =>
        subst answered isAnswer
        exact absurd rfl (elsewhere old there same)
  · rintro ⟨member, same, runs⟩
    exact ⟨attended.stays allowed move member runs (elsewhere task member same), same, runs⟩

end RunsIn

theorem attended_new (plan : Exchange.Plan η) (chain : Chain η H) (ttl : Option Duration)
    (backend : Backend) (now : Int) : Attended (Office.new plan chain ttl backend now) where
  sound := .empty
  distinct := .nil
  claimed := fun _ member => absurd member List.not_mem_nil

/-- Whatever is done in an office, tasks and claims stay together. -/
theorem Attended.run {office after : Office η H} {deeds : List (Deed η H)}
    (attended : Attended office) (run : Run MayAnswer office deeds after) : Attended after :=
  run.induct attended fun _ _ _ move attended => attended.move move

end Office

end Parley
