/-
Module: Parley.Proofs.Office.Actions
Layer: Proofs
Purpose: The office action by action.  An operation that ends does so in several actions, and others
  may act between any two of them: first its token is forgotten, and only then is its claim taken out
  of the locks, step by step.  Every deed is one or several such actions.
Main exports: Office.Action, Office.Act, Office.Acts, Office.Move.acts, Office.Run.acts,
  Office.Attended.act
-/
import Parley.Proofs.Office.Attendance

namespace Parley

open LockTable (Others Sound StepOf)

variable {η : Type} {H : Interface}

/-- Whether a deed ends no operation. -/
def Deed.endsNone : Deed η H → Bool
  | .conclude _ _ => false
  | .abandon _ => false
  | _ => true

/-- The token of a task that runs under one. -/
def Task.token? (task : Task η H) : Option Nat :=
  match task.stage with
  | .waiting => none
  | .running token _ => token

namespace Office

/-! ### Operations that end in several actions -/

/-- What is done in an office, where operations end in several actions. -/
inductive Action (η : Type) (H : Interface) where
  | deed (deed : Deed η H)
  /-- An operation ends, with its result or because it is abandoned. -/
  | withdraw (ticket : Nat)
  /-- Someone whose operation has ended takes a step out of the locks. -/
  | leave (step : LockStep)

/-- The first action of an operation that ends: its token is forgotten, if it has one, but its claim
on the session stays as it is. -/
def withdraw (office : Office η H) (task : Task η H) : Office η H :=
  { office.dropTask task.ticket with
    cancels :=
      if task.token?.isSome then office.cancels.remove task.operation.session
      else office.cancels }

/-- An action takes an office to another. -/
inductive Act (answers : Answering η H) : Office η H → Action η H → Office η H → Prop where
  | deed {before after : Office η H} {deed : Deed η H} :
      deed.endsNone = true → Move answers before deed after → Act answers before (.deed deed) after
  | withdraw {office : Office η H} {ticket : Nat} {task : Task η H} :
      office.task? ticket = some task →
      Act answers office (.withdraw ticket) (office.withdraw task)
  | leave {office : Office η H} {ticket : Nat} {step : LockStep} :
      (∀ task ∈ office.tasks, task.ticket ≠ ticket) → StepOf ticket step →
      Act answers office (.leave step) { office with locks := office.locks.step step }

/-- Actions one after another. -/
inductive Acts (answers : Answering η H) (office : Office η H) :
    List (Action η H) → Office η H → Prop where
  | nil : Acts answers office [] office
  | snoc {actions : List (Action η H)} {action : Action η H} {before after : Office η H} :
      Acts answers office actions before → Act answers before action after →
      Acts answers office (actions ++ [action]) after

section Acts

variable {answers : Answering η H} {office middle before after : Office η H}
  {actions more : List (Action η H)}

theorem Acts.single {action : Action η H} (act : Act answers office action after) :
    Acts answers office [action] after :=
  Acts.nil.snoc act

theorem Acts.trans (first : Acts answers office actions middle)
    (second : Acts answers middle more after) : Acts answers office (actions ++ more) after := by
  induction second with
  | nil => rwa [List.append_nil]
  | snoc _ act ih =>
      rw [← List.append_assoc]
      exact ih.snoc act

/-- Someone whose operation has ended takes some steps out of the locks. -/
theorem acts_leave (answers : Answering η H) {ticket : Nat} (steps : List LockStep)
    (office : Office η H) (gone : ∀ task ∈ office.tasks, task.ticket ≠ ticket)
    (stepsOf : ∀ step ∈ steps, StepOf ticket step) :
    ∃ actions, Acts answers office actions { office with locks := office.locks.run steps } := by
  induction steps generalizing office with
  | nil => exact ⟨[], .nil⟩
  | cons step steps ih =>
      have first : Acts answers office [.leave step]
          { office with locks := office.locks.step step } :=
        .single (.leave gone (stepsOf step List.mem_cons_self))
      obtain ⟨actions, rest⟩ := ih { office with locks := office.locks.step step } gone
        fun step member => stepsOf step (List.mem_cons_of_mem _ member)
      exact ⟨_, first.trans rest⟩

/-- An operation is withdrawn, and then its claim is taken out of the locks. -/
theorem acts_withdraw (answers : Answering η H) {task : Task η H}
    (found : office.task? task.ticket = some task) (steps : List LockStep)
    (stepsOf : ∀ step ∈ steps, StepOf task.ticket step) :
    ∃ actions, Acts answers office actions
      { office.withdraw task with locks := office.locks.run steps } := by
  have gone : ∀ other ∈ (office.withdraw task).tasks, other.ticket ≠ task.ticket :=
    fun other member => ((mem_dropTask_iff office).1 member).2
  have first : Acts answers office [.withdraw task.ticket] (office.withdraw task) :=
    .single (.withdraw found)
  obtain ⟨actions, rest⟩ := acts_leave answers steps (office.withdraw task) gone stepsOf
  exact ⟨_, first.trans rest⟩

/-- Every deed is one or several actions. -/
theorem Move.acts {deed : Deed η H} (move : Move answers before deed after) :
    ∃ actions, Acts answers before actions after := by
  have whole : deed.endsNone = true → ∃ actions, Acts answers before actions after :=
    fun endsNone => ⟨_, .single (.deed endsNone move)⟩
  cases move with
  | @conclude ticket task token result found stage =>
      obtain ⟨-, sameTicket⟩ := mem_of_task? _ _ found
      subst sameTicket
      obtain ⟨actions, acts⟩ := acts_withdraw answers found
        [.giveBack task.ticket, .letGo task.ticket, .tidy task.ticket]
        (by simpa using ⟨.giveBack, .letGo, .tidy⟩)
      refine ⟨actions, ?_⟩
      have ends : before.conclude task token = { before.withdraw task with
          locks := before.locks.run [.giveBack task.ticket, .letGo task.ticket,
            .tidy task.ticket] } := by
        simp only [Office.conclude, finish, Office.withdraw, Task.token?, stage,
          LockTable.release_eq_run, dropTask]
      rwa [ends]
  | abandon ticket =>
      rw [Office.abandon]
      split
      · exact ⟨[], .nil⟩
      · next task found =>
          obtain ⟨-, sameTicket⟩ := mem_of_task? _ _ found
          subst sameTicket
          dsimp only
          split
          · next stage =>
              obtain ⟨actions, acts⟩ := acts_withdraw answers found
                [.giveUp task.ticket, .giveBack task.ticket, .letGo task.ticket, .tidy task.ticket]
                (by simpa using ⟨.giveUp, .giveBack, .letGo, .tidy⟩)
              refine ⟨actions, ?_⟩
              simpa only [Office.withdraw, Task.token?, stage, LockTable.abandon_eq_run,
                dropTask, Option.isSome_none, Bool.false_eq_true, if_false] using acts
          · next token work stage =>
              obtain ⟨actions, acts⟩ := acts_withdraw answers found
                [.giveBack task.ticket, .letGo task.ticket, .tidy task.ticket]
                (by simpa using ⟨.giveBack, .letGo, .tidy⟩)
              refine ⟨actions, ?_⟩
              simpa only [Office.withdraw, Task.token?, stage, LockTable.release_eq_run,
                dropTask, finish] using acts
  | _ => exact whole rfl

/-- Whatever is done in an office is done action by action. -/
theorem Run.acts {deeds : List (Deed η H)} (run : Run answers office deeds after) :
    ∃ actions, Acts answers office actions after := by
  induction run with
  | nil => exact ⟨[], .nil⟩
  | snoc _ move ih =>
      obtain ⟨actions, acts⟩ := ih
      obtain ⟨more, actsOn⟩ := move.acts
      exact ⟨_, acts.trans actsOn⟩

theorem Attended.withdraw (attended : Attended office) (task : Task η H) :
    Attended (office.withdraw task) := by
  have dropped : Attended (office.dropTask task.ticket) :=
    attended.dropTask attended.sound (.refl _ _) rfl
  exact dropped.congr rfl rfl

/-- Tasks keep their claims while operations end. -/
theorem Attended.act {action : Action η H} (attended : Attended before)
    (act : Act MayAnswer before action after) : Attended after := by
  cases act with
  | deed _ move => exact attended.move move
  | withdraw found => exact attended.withdraw _
  | @leave ticket step gone stepOf =>
      have others := attended.sound.others_step stepOf
      constructor
      · exact attended.sound.step step
      · exact attended.distinct
      · intro task member
        exact (attended.claimed task member).others others (gone task member)

end Acts

end Office

end Parley
