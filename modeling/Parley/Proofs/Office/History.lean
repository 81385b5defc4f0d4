/-
Module: Parley.Proofs.Office.History
Layer: Proofs
Purpose: What the deeds so far say of each ticket: which operation was started under it, what it has
  read of the clock and of the rate limits, and how it ended.  Tickets are not used again, so what
  is said of an operation that has ended stays so.
Main exports: Office.operationOf?, Office.readingsOf, Office.resultOf?, Office.Recorded,
  Office.Recorded.move, Office.Recorded.settled
-/
import Parley.Proofs.Office.Alone
import Parley.Proofs.Office.Attendance

namespace Parley

variable {η : Type} {H : Interface}

namespace Deed

/-- The operation that a deed starts under a ticket. -/
def operationOf? (ticket : Nat) : Deed η H → Option Operation
  | .start other operation => if other = ticket then some operation else none
  | _ => none

/-- What is read by a deed of the operation with a ticket. -/
def readingOf? (ticket : Nat) : Deed η H → Option Reading
  | .answer other asked => if other = ticket then asked.question.reading? asked.answer else none
  | _ => none

/-- The result with which a deed ends the operation with a ticket. -/
def resultOf? (ticket : Nat) : Deed η H → Option (Except Fault Result)
  | .conclude other result => if other = ticket then some result else none
  | _ => none

end Deed

namespace Office

/-- The operation that was started under a ticket. -/
def operationOf? (deeds : List (Deed η H)) (ticket : Nat) : Option Operation :=
  deeds.findSome? (Deed.operationOf? ticket)

/-- What the operation with a ticket has read. -/
def readingsOf (deeds : List (Deed η H)) (ticket : Nat) : List Reading :=
  deeds.filterMap (Deed.readingOf? ticket)

/-- How the operation with a ticket ended, if it has. -/
def resultOf? (deeds : List (Deed η H)) (ticket : Nat) : Option (Except Fault Result) :=
  deeds.findSome? (Deed.resultOf? ticket)

section Lookup

variable (deeds : List (Deed η H)) (deed : Deed η H) (ticket : Nat)

theorem operationOf?_concat : operationOf? (deeds ++ [deed]) ticket =
    (operationOf? deeds ticket).or (deed.operationOf? ticket) := by
  rw [operationOf?, operationOf?, List.findSome?_append]
  cases found : deed.operationOf? ticket <;> simp [found]

theorem readingsOf_concat : readingsOf (deeds ++ [deed]) ticket =
    readingsOf deeds ticket ++ (deed.readingOf? ticket).toList := by
  rw [readingsOf, readingsOf, List.filterMap_append]
  cases found : deed.readingOf? ticket <;> simp [found]

theorem resultOf?_concat : resultOf? (deeds ++ [deed]) ticket =
    (resultOf? deeds ticket).or (deed.resultOf? ticket) := by
  rw [resultOf?, resultOf?, List.findSome?_append]
  cases found : deed.resultOf? ticket <;> simp [found]

end Lookup

/-- What the deeds say of tasks and of tickets that have not been given out. -/
structure Recorded (deeds : List (Deed η H)) (office : Office η H) : Prop where
  fresh : ∀ ticket, office.locks.nextTicket ≤ ticket →
    operationOf? deeds ticket = none ∧ readingsOf deeds ticket = [] ∧ resultOf? deeds ticket = none
  started : ∀ task ∈ office.tasks, operationOf? deeds task.ticket = some task.operation
  going : ∀ task ∈ office.tasks, resultOf? deeds task.ticket = none
  unread : ∀ task ∈ office.tasks, task.stage = .waiting → readingsOf deeds task.ticket = []

section Recorded

variable {answers : Answering η H} {deeds : List (Deed η H)} {deed : Deed η H}
  {before after : Office η H} {ticket : Nat}

variable (deeds) in
/-- What is said of a ticket is not changed by deeds about others. -/
theorem lookups_of_not_changes (still : ¬Changes ticket deed) :
    operationOf? (deeds ++ [deed]) ticket = operationOf? deeds ticket ∧
      readingsOf (deeds ++ [deed]) ticket = readingsOf deeds ticket ∧
      resultOf? (deeds ++ [deed]) ticket = resultOf? deeds ticket := by
  rw [operationOf?_concat, readingsOf_concat, resultOf?_concat]
  cases deed with
  | start other operation =>
      simp [Deed.operationOf?, Deed.readingOf?, Deed.resultOf?, show other ≠ ticket from still]
  | answer other asked =>
      simp [Deed.operationOf?, Deed.readingOf?, Deed.resultOf?, show other ≠ ticket from still]
  | conclude other result =>
      simp [Deed.operationOf?, Deed.readingOf?, Deed.resultOf?, show other ≠ ticket from still]
  | _ => simp [Deed.operationOf?, Deed.readingOf?, Deed.resultOf?]

theorem nextTicket_le_move
    (allowed : ∀ {token question before answer after},
      answers token question before answer after → MayAnswer token question before answer after)
    (move : Move answers before deed after) :
    before.locks.nextTicket ≤ after.locks.nextTicket := by
  cases move with
  | start operation =>
      rw [start_eq]
      exact Nat.le_of_lt (LockTable.acquire_nextTicket before.locks operation.session ▸
        Nat.lt_succ_self _)
  | callIn ticket =>
      rcases callIn_eq before ticket with same | ⟨old, -, -, looked | ⟨-, begun⟩⟩
      · exact Nat.le_of_eq (by rw [same])
      · rw [looked]
        exact LockTable.nextTicket_le_run before.locks [.look ticket]
      · rw [begun]
        exact LockTable.nextTicket_le_run before.locks [.look ticket]
  | answer found stage given =>
      exact Nat.le_of_eq (congrArg _ (effect_of_mayAnswer (allowed given)).frame.locks.symm)
  | conclude found stage =>
      exact LockTable.nextTicket_le_run before.locks [.giveBack _, .letGo _, .tidy _]
  | abandon ticket =>
      rw [Office.abandon]
      split
      · exact Nat.le_refl _
      · dsimp only
        split
        · exact LockTable.nextTicket_le_run before.locks
            [.giveUp ticket, .giveBack ticket, .letGo ticket, .tidy ticket]
        · exact LockTable.nextTicket_le_run before.locks
            [.giveBack ticket, .letGo ticket, .tidy ticket]
  | _ => exact Nat.le_refl _

/-- Nothing is said of tickets that are not given out yet. -/
theorem Recorded.fresh_move (recorded : Recorded deeds before) (attended : Attended before)
    (allowed : ∀ {token question before answer after},
      answers token question before answer after → MayAnswer token question before answer after)
    (move : Move answers before deed after) (isNew : after.locks.nextTicket ≤ ticket) :
    operationOf? (deeds ++ [deed]) ticket = none ∧ readingsOf (deeds ++ [deed]) ticket = [] ∧
      resultOf? (deeds ++ [deed]) ticket = none := by
  have wasNew := Nat.le_trans (nextTicket_le_move allowed move) isNew
  have none := recorded.fresh ticket wasNew
  have given : ∀ task ∈ before.tasks, task.ticket ≠ ticket := fun task member =>
    Nat.ne_of_lt (Nat.lt_of_lt_of_le (attended.issued member) wasNew)
  have quiet : ¬Changes ticket deed ∨ ∃ other, deed = .abandon other := by
    cases move with
    | start operation =>
        left
        rw [start_eq] at isNew ⊢
        have bound : before.locks.nextTicket + 1 ≤ ticket :=
          LockTable.acquire_nextTicket before.locks operation.session ▸ isNew
        exact Nat.ne_of_lt bound
    | answer found stage answered =>
        obtain ⟨member, same⟩ := mem_of_task? _ _ found
        exact .inl (same ▸ given _ member)
    | conclude found stage =>
        obtain ⟨member, same⟩ := mem_of_task? _ _ found
        exact .inl (same ▸ given _ member)
    | abandon other => exact .inr ⟨other, rfl⟩
    | _ => exact .inl id
  rcases quiet with still | ⟨other, rfl⟩
  · obtain ⟨operationSame, readingsSame, resultSame⟩ := lookups_of_not_changes deeds still
    rw [operationSame, readingsSame, resultSame]
    exact none
  · rw [operationOf?_concat, readingsOf_concat, resultOf?_concat, none.1, none.2.1, none.2.2]
    exact ⟨rfl, rfl, rfl⟩

theorem Recorded.move (recorded : Recorded deeds before) (attended : Attended before)
    (allowed : ∀ {token question before answer after},
      answers token question before answer after → MayAnswer token question before answer after)
    (move : Move answers before deed after) : Recorded (deeds ++ [deed]) after := by
  have origin : ∀ task ∈ after.tasks, TaskOrigin answers before deed task :=
    fun task member => attended.mem_move allowed move member
  constructor
  · exact fun ticket isNew => recorded.fresh_move attended allowed move isNew
  · intro task member
    cases origin task member with
    | kept there still => rw [(lookups_of_not_changes deeds still).1, recorded.started task there]
    | started isStart isNew waits =>
        rw [operationOf?_concat, (recorded.fresh _ (Nat.le_of_eq isNew.symm)).1, isStart]
        simp [Deed.operationOf?]
    | begun old token isCall there waits holders begun =>
        subst begun isCall
        rw [(lookups_of_not_changes deeds id).1]
        exact recorded.started old there
    | answered old token question next answer between isAnswer there stage given answered =>
        subst answered isAnswer
        rw [operationOf?_concat, Task.at, recorded.started old there]
        rfl
  · intro task member
    cases origin task member with
    | kept there still => rw [(lookups_of_not_changes deeds still).2.2, recorded.going task there]
    | started isStart isNew waits =>
        rw [resultOf?_concat, (recorded.fresh _ (Nat.le_of_eq isNew.symm)).2.2, isStart]
        rfl
    | begun old token isCall there waits holders begun =>
        subst begun isCall
        rw [(lookups_of_not_changes deeds id).2.2]
        exact recorded.going old there
    | answered old token question next answer between isAnswer there stage given answered =>
        subst answered isAnswer
        rw [resultOf?_concat, Task.at, recorded.going old there]
        rfl
  · intro task member waits
    cases origin task member with
    | kept there still =>
        rw [(lookups_of_not_changes deeds still).2.1, recorded.unread task there waits]
    | started isStart isNew waits =>
        rw [readingsOf_concat, (recorded.fresh _ (Nat.le_of_eq isNew.symm)).2.1, isStart]
        rfl
    | begun old token isCall there oldWaits holders begun =>
        subst begun
        contradiction
    | answered old token question next answer between isAnswer there stage given answered =>
        subst answered
        contradiction

/-- What is said of an operation that has ended stays so. -/
theorem Recorded.settled (recorded : Recorded deeds before)
    (move : Move answers before deed after) (ended : resultOf? deeds ticket ≠ none) :
    operationOf? (deeds ++ [deed]) ticket = operationOf? deeds ticket ∧
      readingsOf (deeds ++ [deed]) ticket = readingsOf deeds ticket ∧
      resultOf? (deeds ++ [deed]) ticket = resultOf? deeds ticket := by
  cases move with
  | start operation =>
      apply lookups_of_not_changes
      rw [start_eq]
      rintro rfl
      exact ended (recorded.fresh _ (Nat.le_refl _)).2.2
  | answer found stage given =>
      apply lookups_of_not_changes
      rintro rfl
      obtain ⟨member, same⟩ := mem_of_task? _ _ found
      exact ended (same ▸ recorded.going _ member)
  | conclude found stage =>
      apply lookups_of_not_changes
      rintro rfl
      obtain ⟨member, same⟩ := mem_of_task? _ _ found
      exact ended (same ▸ recorded.going _ member)
  | abandon other =>
      rw [operationOf?_concat, readingsOf_concat, resultOf?_concat]
      simp [Deed.operationOf?, Deed.readingOf?, Deed.resultOf?]
  | _ => exact lookups_of_not_changes deeds id

theorem recorded_nil (plan : Exchange.Plan η) (chain : Chain η H) (ttl : Option Duration)
    (backend : Backend) (now : Int) : Recorded [] (Office.new plan chain ttl backend now) where
  fresh := fun _ _ => ⟨rfl, rfl, rfl⟩
  started := fun _ member => absurd member List.not_mem_nil
  going := fun _ member => absurd member List.not_mem_nil
  unread := fun _ member => absurd member List.not_mem_nil

end Recorded

end Office

end Parley
