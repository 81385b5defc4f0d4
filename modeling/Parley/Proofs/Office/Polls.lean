/-
Module: Parley.Proofs.Office.Polls
Layer: Proofs
Purpose: Polling a task is a sequence of deeds: it is called in, has one question after another
  answered, and rests or ends.  So whatever holds after every sequence of deeds holds between polls
  and at every question in the middle of one.
Main exports: Deed.isPolling, Office.Reaches, Office.Admits, Office.admits_of_cancels,
  Office.admits_mayAnswer, Office.consult_same, Office.leftOver_reaches, Office.poll_reaches
-/
import Parley.Proofs.Office.Moves

namespace Parley

/-- Whether a deed is one of those of which looking after a task consists. -/
def Deed.isPolling {η : Type} {H : Interface} : Deed η H → Bool
  | .callIn _ => true
  | .answer _ _ => true
  | .rest _ => true
  | .conclude _ _ => true
  | _ => false

namespace Office

variable {η : Type} {H : Interface} {σ α : Type}

/-- Some deeds of a kind lead from one office to another. -/
def Reaches (answers : Answering η H) (fits : Deed η H → Prop) (office after : Office η H) : Prop :=
  ∃ deeds, (∀ deed ∈ deeds, fits deed) ∧ Run answers office deeds after

/-- What surroundings answer is allowed, and while they answer they do nothing but deeds of a kind;
the deeds of looking after a task are of that kind. -/
structure Admits (answers : Answering η H) (fits : Deed η H → Prop)
    (surroundings : Surroundings η H σ) : Prop where
  polling : ∀ deed, deed.isPolling = true → fits deed
  inside : ∀ token question act office, inside? token question = some act →
    answers token question office (act office).1 (act office).2
  asks : ∀ ticket question (office : Office η H) state task,
    Reaches answers fits (office.putTask task)
      ((consult (outside surroundings ticket question) (office, state)).2.1.putTask task)
  outside : ∀ ticket token question (office : Office η H) state given after,
    inside? token question = none →
    (consult (outside surroundings ticket question) (office, state)).1 = some given →
      answers token question after given after

section Reaches

variable {answers : Answering η H} {fits : Deed η H → Prop} {office middle after : Office η H}

theorem Reaches.refl (office : Office η H) : Reaches answers fits office office :=
  ⟨[], fun _ member => absurd member List.not_mem_nil, .nil⟩

theorem Reaches.single {deed : Deed η H} (isFit : fits deed)
    (move : Move answers office deed after) : Reaches answers fits office after := by
  refine ⟨[deed], ?_, .single move⟩
  intro other member
  rw [List.mem_singleton.1 member]
  exact isFit

theorem Reaches.trans (first : Reaches answers fits office middle)
    (second : Reaches answers fits middle after) : Reaches answers fits office after := by
  obtain ⟨deeds, areFit, run⟩ := first
  obtain ⟨more, moreFit, runOn⟩ := second
  refine ⟨deeds ++ more, ?_, run.trans runOn⟩
  intro deed member
  rcases List.mem_append.1 member with early | late
  · exact areFit deed early
  · exact moreFit deed late

end Reaches

/-- The office answers without looking at its tasks. -/
theorem inside?_putTask {token : Option Nat} {question : ExchangeQuestion (callInterface η H)}
    {act : StateM (Office η H) question.Answer} (isInside : inside? token question = some act)
    (office : Office η H) (task : Task η H) :
    act (office.putTask task) = ((act office).1, (act office).2.putTask task) := by
  cases question with
  | secure => contradiction
  | complete => contradiction
  | call question =>
      cases question with
      | handle => contradiction
      | host => contradiction
      | grant => cases isInside; rfl
      | clock => cases isInside; rfl
  | load => cases isInside; rfl
  | save => cases isInside; rfl
  | loadNotes => cases isInside; rfl
  | report => cases isInside; rfl
  | isCancelled => cases isInside; rfl
  | today => cases isInside; rfl

/-- Whatever of the office cancelling leaves alone, those outside leave alone while they answer. -/
theorem consult_same {β : Type} (part : Office η H → β)
    (cancels : ∀ (office : Office η H) session, part (office.cancel session).2 = part office)
    (outside : Outside σ α) (office : Office η H) (state : σ) :
    part (consult outside (office, state)).2.1 = part office := by
  have served : ∀ (program : Program officeInterface (α × σ)) (office : Office η H),
      part (Program.run (I := officeInterface) serve program office).2 = part office := by
    intro program
    induction program with
    | done result => exact fun _ => rfl
    | ask question next ih =>
        intro office
        cases question with
        | cancel session =>
            exact (ih (office.cancel session).1 (office.cancel session).2).trans
              (cancels office session)
        | active => exact ih office.active office
  exact served (outside.run state) office

/-- While those outside answer, they do nothing to the office but cancel exchanges. -/
theorem consult_reaches (answers : Answering η H) {fits : Deed η H → Prop}
    (cancels : ∀ session, fits (.cancel session)) (outside : Outside σ α) (office : Office η H)
    (state : σ) (task : Task η H) :
    Reaches answers fits (office.putTask task)
      ((consult outside (office, state)).2.1.putTask task) := by
  have served : ∀ (program : Program officeInterface (α × σ)) (office : Office η H),
      Reaches answers fits (office.putTask task)
        ((Program.run (I := officeInterface) serve program office).2.putTask task) := by
    intro program
    induction program with
    | done result => exact fun office => .refl _
    | ask question next ih =>
        intro office
        cases question with
        | cancel session =>
            have cancelled : Reaches answers fits (office.putTask task)
                ((office.cancel session).2.putTask task) :=
              .single (cancels session) (.cancel (office.putTask task) session)
            exact cancelled.trans (ih (office.cancel session).1 (office.cancel session).2)
        | active => exact ih office.active office
  exact served (outside.run state) office

/-- All surroundings are allowed where those outside may answer anything, and may cancel. -/
theorem admits_of_cancels {fits : Deed η H → Prop}
    (polling : ∀ deed, deed.isPolling = true → fits deed)
    (cancels : ∀ session, fits (.cancel session)) (surroundings : Surroundings η H σ) :
    Admits MayAnswer fits surroundings where
  polling := polling
  inside := by
    intro token question act office isInside
    right
    rw [isInside]
    rfl
  asks := fun ticket question office state task =>
    consult_reaches MayAnswer cancels _ office state task
  outside := by
    intro ticket token question office state given after isOutside _
    right
    rw [isOutside]

theorem admits_mayAnswer (surroundings : Surroundings η H σ) :
    Admits MayAnswer (fun _ => True) surroundings :=
  admits_of_cancels (fun _ _ => trivial) (fun _ => trivial) surroundings

theorem leftOver_ask (surroundings : Surroundings η H σ) (task : Task η H) (token : Option Nat)
    (question : (Exchange.unfolded η H).Question)
    (next : (Exchange.unfolded η H).Answer question → Work η H) (office : Office η H) (state : σ) :
    leftOver surroundings task token (.ask question next) office state =
      match respond surroundings task.ticket token question (office, state) with
      | (some given, after) => leftOver surroundings task token (next given) after.1 after.2
      | (none, after) => (.ask question next, after) :=
  (Program.advance_ask (I := Exchange.unfolded η H) (respond surroundings task.ticket token)
    question next (office, state)).trans (by
      cases respond surroundings task.ticket token question (office, state) with
      | mk given? after =>
          cases given? with
          | some given => rfl
          | none => rfl)

section Polls

variable {answers : Answering η H} {fits : Deed η H → Prop} {surroundings : Surroundings η H σ}

/-- One question of a task is answered. -/
theorem Admits.answer_reaches (admits : Admits answers fits surroundings) {token : Option Nat}
    {question : ExchangeQuestion (callInterface η H)} {next : question.Answer → Work η H}
    {answer : question.Answer} {office after : Office η H} (task : Task η H)
    (answered : answers token question (office.putTask (task.at token (.ask question next))) answer
      (after.putTask (task.at token (.ask question next)))) :
    Reaches answers fits (office.putTask (task.at token (.ask question next)))
      (after.putTask (task.at token (next answer))) := by
  have move := Move.answer (task?_putTask office _) rfl answered
  rw [putTask_putTask] at move
  exact .single (admits.polling _ rfl) move

/-- A task puts its question, and goes on if it has an answer. -/
theorem respond_reaches (admits : Admits answers fits surroundings) (task : Task η H)
    (token : Option Nat) (question : ExchangeQuestion (callInterface η H))
    (next : question.Answer → Work η H) (office : Office η H) (state : σ) :
    let responded := respond surroundings task.ticket token question (office, state)
    Reaches answers fits (office.putTask (task.at token (.ask question next)))
      (responded.2.1.putTask (task.at token ((responded.1.map next).getD (.ask question next)))) := by
  cases isInside : inside? token question with
  | some act =>
      have responds : respond surroundings task.ticket token question (office, state) =
          (some (act office).1, (act office).2, state) := by
        simp only [respond, isInside]
        rfl
      rw [responds]
      have answered := admits.inside token question act
        (office.putTask (task.at token (.ask question next))) isInside
      rw [inside?_putTask isInside] at answered
      exact admits.answer_reaches task answered
  | none =>
      have responds : respond surroundings task.ticket token question (office, state) =
          consult (outside surroundings task.ticket question) (office, state) := by
        simp only [respond, isInside]
      rw [responds]
      have asked := admits.asks task.ticket question office state
        (task.at token (.ask question next))
      have outside := fun given =>
        admits.outside task.ticket token question office state given
      revert asked outside
      cases consult (Office.outside surroundings task.ticket question) (office, state) with
      | mk answer after =>
          intro asked outside
          cases answer with
          | none => exact asked
          | some given =>
              have answered := admits.answer_reaches task
                (outside given (after.1.putTask (task.at token (.ask question next)))
                  isInside rfl)
              exact asked.trans answered

/-- Running a task as far as it goes is a sequence of deeds. -/
theorem leftOver_reaches (admits : Admits answers fits surroundings) (task : Task η H)
    (token : Option Nat) (work : Work η H) (office : Office η H) (state : σ) :
    let ended := leftOver surroundings task token work office state
    Reaches answers fits (office.putTask (task.at token work))
      (ended.2.1.putTask (task.at token ended.1)) := by
  induction work generalizing office state with
  | done result => exact .refl _
  | ask question next ih =>
      have responded := respond_reaches admits task token question next office state
      rw [leftOver_ask]
      revert responded
      cases respond surroundings task.ticket token question (office, state) with
      | mk answer after =>
          intro responded
          cases answer with
          | none => exact responded
          | some given => exact responded.trans (ih given after.1 after.2)

/-- A running task that has gone on rests, or ends if it can. -/
theorem ended_reaches (admits : Admits answers fits surroundings) {task : Task η H}
    {token : Option Nat} {work : Work η H} {office : Office η H}
    (found : office.task? task.ticket = some task) (stage : task.stage = .running token work)
    (ended : Work η H × Office η H × σ)
    (advanced : Reaches answers fits (office.putTask (task.at token work))
      (ended.2.1.putTask (task.at token ended.1))) :
    Reaches answers fits office
      (match ended.1 with
        | .done _ => ended.2.1.conclude task token
        | paused => ended.2.1.putTask (task.at token paused)) := by
  have rests : Move answers office (.rest task.ticket) _ := .rest found
  have rested : Reaches answers fits office _ := .single (admits.polling _ rfl) rests
  have same : task = task.at token work := by
    rw [Task.at, ← stage]
  rw [same] at rested
  have went := rested.trans advanced
  obtain ⟨left, after, outside⟩ := ended
  cases left with
  | done result =>
      have concludes : Move answers (after.putTask (task.at token (.done result)))
          (.conclude task.ticket result) _ := .conclude (task?_putTask after _) rfl
      have concluded := went.trans (.single (admits.polling _ rfl) concludes)
      rw [conclude_putTask] at concluded
      exact concluded
  | ask question next => exact went

/-- Polling a task is a sequence of deeds: whatever it does in one go, it does deed by deed. -/
theorem poll_reaches (admits : Admits answers fits surroundings) (ticket : Nat)
    (office : Office η H) (state : σ) :
    Reaches answers fits office (poll surroundings ticket (office, state)).2.1 := by
  have called : Reaches answers fits office (office.callIn ticket) :=
    .single (admits.polling _ rfl) (.callIn office ticket)
  simp only [poll]
  split
  · exact called
  · next task found =>
      split
      · next token work stage =>
          obtain ⟨-, rfl⟩ := mem_of_task? _ _ found
          have advanced := leftOver_reaches admits task token work (office.callIn task.ticket) state
          have ended := called.trans (ended_reaches admits found stage _ advanced)
          simp only [advance]
          revert ended
          cases (leftOver surroundings task token work (office.callIn task.ticket) state).1 with
          | done result => exact id
          | ask question next => exact id
      · exact called

end Polls

end Office

end Parley
