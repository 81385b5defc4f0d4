/-
Module: Parley.Proofs.Office.Timed
Layer: Proofs
Purpose: An exchange that is looked after while the clock moves on: the time may be another one at each
  of its questions.  This is polling with a clock that does not stand still, and like polling it is a
  sequence of deeds.
Main exports: Office.leftOverAt, Office.pollAt, Office.handleAt, Office.pollAt_still,
  Office.handleAt_reaches
-/
import Parley.Proofs.Office.Attendance
import Parley.Proofs.Office.Polls

namespace Parley.Office

variable {η : Type} {H : Interface} {σ : Type}

/-! ### A clock that moves -/

/-- What is left of some work when it has run as far as it goes, if each question has its time. -/
def leftOverAt (clock : Nat → Int) (surroundings : Surroundings η H σ) (ticket : Nat)
    (token : Option Nat) : Work η H → Nat → Office η H → σ → Work η H × Office η H × σ
  | .done result, _, office, outside => (.done result, office, outside)
  | .ask question next, asked, office, outside =>
      match respond surroundings ticket token question
        ({ office with now := clock asked }, outside) with
      | (some given, after) =>
          leftOverAt clock surroundings ticket token (next given) (asked + 1) after.1 after.2
      | (none, after) => (.ask question next, after)

/-- Look after a task while the clock moves on. -/
def pollAt (clock : Nat → Int) (surroundings : Surroundings η H σ) (ticket : Nat) :
    StateM (Office η H × σ) (Option (Except Fault Result)) := fun (office, outside) =>
  let office := office.callIn ticket
  match office.task? ticket with
  | none => (none, office, outside)
  | some task =>
      match task.stage with
      | .running token work =>
          let ended := leftOverAt clock surroundings task.ticket token work 0 office outside
          match ended.1 with
          | .done result => (some result, ended.2.1.conclude task token, ended.2.2)
          | paused =>
              (none, ended.2.1.putTask { task with stage := .running token paused }, ended.2.2)
      | .waiting => (none, office, outside)

/-- Answer a message: start an exchange and look after it. -/
def handleAt (clock : Nat → Int) (surroundings : Surroundings η H σ) (input : Input) :
    StateM (Office η H × σ) (Option (Except Fault Result)) := fun (office, outside) =>
  let (ticket, started) := office.start (.exchange input)
  pollAt clock surroundings ticket (started, outside)

/-- A running task whose work comes to its end concludes. -/
theorem pollAt_of_done {clock : Nat → Int} {surroundings : Surroundings η H σ} {office after : Office η H}
    {task : Task η H} {token : Option Nat} {work : Work η H} {result : Except Fault Result}
    {outside left : σ} (found : (office.callIn task.ticket).task? task.ticket = some task)
    (stage : task.stage = .running token work)
    (ended : leftOverAt clock surroundings task.ticket token work 0 (office.callIn task.ticket)
      outside = (.done result, after, left)) :
    pollAt clock surroundings task.ticket (office, outside) =
      (some result, after.conclude task token, left) := by
  simp only [pollAt, found, stage, ended]

/-- A task that waits goes on waiting if it does not get the permit. -/
theorem pollAt_of_waits {clock : Nat → Int} {surroundings : Surroundings η H σ} {office : Office η H}
    {task : Task η H} {outside : σ}
    (found : (office.callIn task.ticket).task? task.ticket = some task)
    (waits : task.stage = .waiting) :
    pollAt clock surroundings task.ticket (office, outside) =
      (none, office.callIn task.ticket, outside) := by
  simp only [pollAt, found, waits]

/-! ### A clock that stands still -/

/-- No answer moves the clock. -/
theorem respond_now (surroundings : Surroundings η H σ) (ticket : Nat) (token : Option Nat)
    (question : ExchangeQuestion (callInterface η H)) (office : Office η H) (state : σ) :
    (respond surroundings ticket token question (office, state)).2.1.now = office.now := by
  rw [respond]
  cases isInside : inside? token question with
  | none => exact consult_same (·.now) (fun _ _ => rfl) _ office state
  | some act =>
      have answered : MayAnswer token question office (act office).1 (act office).2 := by
        right
        rw [isInside]
        rfl
      exact (effect_of_mayAnswer answered).frame.now

theorem leftOverAt_still (surroundings : Surroundings η H σ) (task : Task η H)
    (token : Option Nat) (work : Work η H) (asked : Nat) (office : Office η H) (state : σ) :
    leftOverAt (fun _ => office.now) surroundings task.ticket token work asked office state =
      leftOver surroundings task token work office state := by
  induction work generalizing asked office state with
  | done result => rfl
  | ask question next ih =>
      have still := respond_now surroundings task.ticket token question office state
      rw [leftOverAt, leftOver_ask]
      revert still
      cases respond surroundings task.ticket token question (office, state) with
      | mk given after =>
          intro still
          cases given with
          | none => rfl
          | some given =>
              have goesOn := ih given (asked + 1) after.1 after.2
              rw [still] at goesOn
              exact goesOn

/-- With a clock that stands still, this is polling. -/
theorem pollAt_still (surroundings : Surroundings η H σ) (ticket : Nat) (office : Office η H)
    (state : σ) :
    pollAt (fun _ => office.now) surroundings ticket (office, state) =
      poll surroundings ticket (office, state) := by
  have sameTime : (office.callIn ticket).now = office.now := by
    rcases callIn_eq office ticket with same | ⟨task, -, -, looked | ⟨-, begun⟩⟩
    · rw [same]
    · rw [looked]
    · rw [begun]
      rfl
  simp only [pollAt, poll]
  cases (office.callIn ticket).task? ticket with
  | none => rfl
  | some task =>
      cases stage : task.stage with
      | waiting => simp only [stage]
      | running token work =>
          have still := leftOverAt_still surroundings task token work 0 (office.callIn ticket) state
          rw [sameTime] at still
          cases ended : leftOver surroundings task token work (office.callIn ticket) state with
          | mk left after =>
              rw [ended] at still
              cases left with
              | done result => simp only [stage, advance, still, ended]
              | ask question next => simp only [stage, advance, still, ended]

/-! ### Deeds -/

section Deeds

variable {answers : Answering η H} {fits : Deed η H → Prop} {surroundings : Surroundings η H σ}

theorem leftOverAt_reaches (admits : Admits answers fits surroundings)
    (ticks : ∀ now, fits (.clock now)) (clock : Nat → Int) (task : Task η H) (token : Option Nat)
    (work : Work η H) (asked : Nat) (office : Office η H) (state : σ) :
    let ended := leftOverAt clock surroundings task.ticket token work asked office state
    Reaches answers fits (office.putTask (task.at token work))
      (ended.2.1.putTask (task.at token ended.1)) := by
  induction work generalizing asked office state with
  | done result => exact .refl _
  | ask question next ih =>
      have ticked : Reaches answers fits (office.putTask (task.at token (.ask question next)))
          (({ office with now := clock asked } : Office η H).putTask
            (task.at token (.ask question next))) :=
        .single (ticks (clock asked)) (.clock _ _)
      have responded := ticked.trans
        (respond_reaches admits task token question next { office with now := clock asked } state)
      rw [leftOverAt]
      revert responded
      cases respond surroundings task.ticket token question
        ({ office with now := clock asked }, state) with
      | mk answer after =>
          intro responded
          cases answer with
          | none => exact responded
          | some given => exact responded.trans (ih given (asked + 1) after.1 after.2)

/-- Looking after a task while the clock moves on is a sequence of deeds. -/
theorem pollAt_reaches (admits : Admits answers fits surroundings)
    (ticks : ∀ now, fits (.clock now)) (clock : Nat → Int) (ticket : Nat) (office : Office η H)
    (state : σ) :
    Reaches answers fits office (pollAt clock surroundings ticket (office, state)).2.1 := by
  have called : Reaches answers fits office (office.callIn ticket) :=
    .single (admits.polling _ rfl) (.callIn office ticket)
  simp only [pollAt]
  split
  · exact called
  · next task found =>
      split
      · next token work stage =>
          obtain ⟨-, rfl⟩ := mem_of_task? _ _ found
          have advanced := leftOverAt_reaches admits ticks clock task token work 0
            (office.callIn task.ticket) state
          have ended := called.trans (ended_reaches admits found stage _ advanced)
          revert ended
          cases (leftOverAt clock surroundings task.ticket token work 0
            (office.callIn task.ticket) state).1 with
          | done result => exact id
          | ask question next => exact id
      · exact called

/-- So is answering a message. -/
theorem handleAt_reaches (admits : Admits answers fits surroundings)
    (ticks : ∀ now, fits (.clock now)) (starts : ∀ ticket operation, fits (.start ticket operation))
    (clock : Nat → Int) (input : Input) (office : Office η H) (state : σ) :
    Reaches answers fits office (handleAt clock surroundings input (office, state)).2.1 := by
  have started : Reaches answers fits office (office.start (.exchange input)).2 :=
    .single (starts _ _) (.start office (.exchange input))
  exact started.trans (pollAt_reaches admits ticks clock _ _ state)

end Deeds

end Parley.Office
