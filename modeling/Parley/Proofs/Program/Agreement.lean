/-
Module: Parley.Proofs.Program.Agreement
Layer: Proofs
Purpose: Two programs that are run on states of one kind, side by side.  They agree if, started in
  states that are the same to those who look from outside, they come to results that belong together
  and to states that are the same again.  Sequences agree step by step, and every program agrees with
  itself where each question is answered alike in states that are the same.
Main exports: Program.run_bind, Program.run_embed, Program.Matches, Program.Agree,
  Program.Agree.bind, Program.agree_ite, Program.agree_self
-/
import Parley.Program

namespace Parley.Program

variable {I J : Interface} {α β γ δ ε σ : Type}

theorem run_ask (answer : (question : I.Question) → StateM σ (I.Answer question))
    (question : I.Question) (next : I.Answer question → Program I α) (state : σ) :
    (Program.ask question next).run answer state =
      (next (answer question state).1).run answer (answer question state).2 := rfl

/-- A sequence is run one part after another. -/
theorem run_bind (answer : (question : I.Question) → StateM σ (I.Answer question))
    (program : Program I α) (next : α → Program I β) (state : σ) :
    (program >>= next).run answer state =
      (next (program.run answer state).1).run answer (program.run answer state).2 := by
  induction program generalizing state with
  | done result => rfl
  | ask question rest ih => exact ih _ _

/-- Where questions are replaced, what stands for each is run in its place. -/
theorem run_embed (answer : (question : J.Question) → StateM σ (J.Answer question))
    (meaning : (question : I.Question) → Program J (I.Answer question)) (program : Program I α)
    (state : σ) :
    (program.embed meaning).run answer state =
      program.run (fun question => (meaning question).run answer) state := by
  induction program generalizing state with
  | done result => rfl
  | ask question rest ih =>
      rw [Program.embed, run_bind, ih]
      rfl

/-! ### Agreement -/

/-- Two results match, or are the same fault. -/
def Matches (post : α → β → Prop) : Except ε α → Except ε β → Prop
  | .ok one, .ok two => post one two
  | .error one, .error two => one = two
  | _, _ => False

theorem matches_eq_iff {one two : Except ε α} : Matches Eq one two ↔ one = two := by
  cases one with
  | ok value =>
      cases two with
      | ok other => simp [Matches]
      | error fault => simp [Matches]
  | error fault =>
      cases two with
      | ok other => simp [Matches]
      | error other => simp [Matches]

/-- From states that are the same, two programs come to results that match, and to states that
are the same. -/
def Agree (answer : (question : I.Question) → StateM σ (I.Answer question)) (same : σ → σ → Prop)
    (post : α → β → Prop) (one : ExceptT ε (Program I) α) (two : ExceptT ε (Program I) β) : Prop :=
  ∀ state other, same state other →
    Matches post (one.run.run answer state).1 (two.run.run answer other).1 ∧
      same (one.run.run answer state).2 (two.run.run answer other).2

section Agree

variable {answer : (question : I.Question) → StateM σ (I.Answer question)} {same : σ → σ → Prop}
  {post weaker : α → β → Prop} {also : γ → δ → Prop}

theorem agree_pure {one : α} {two : β} (holds : post one two) :
    Agree answer same post (pure one : ExceptT ε (Program I) α) (pure two) :=
  fun _ _ isSame => ⟨holds, isSame⟩

theorem agree_throw (fault : ε) :
    Agree answer same post (throw fault : ExceptT ε (Program I) α) (throw fault) :=
  fun _ _ isSame => ⟨rfl, isSame⟩

/-- Sequences agree if their parts do. -/
theorem Agree.bind {one : ExceptT ε (Program I) α} {two : ExceptT ε (Program I) β}
    {next : α → ExceptT ε (Program I) γ} {nextToo : β → ExceptT ε (Program I) δ}
    (agree : Agree answer same post one two)
    (goesOn : ∀ first second, post first second →
      Agree answer same also (next first) (nextToo second)) :
    Agree answer same also (one >>= next) (two >>= nextToo) := by
  intro state other isSame
  rw [ExceptT.run_bind, ExceptT.run_bind, run_bind, run_bind]
  obtain ⟨matched, sameThen⟩ := agree state other isSame
  generalize one.run.run answer state = first at matched sameThen
  generalize two.run.run answer other = second at matched sameThen
  obtain ⟨result, after⟩ := first
  obtain ⟨resultToo, afterToo⟩ := second
  cases result with
  | ok value =>
      cases resultToo with
      | ok valueToo => exact goesOn value valueToo matched after afterToo sameThen
      | error fault => exact matched.elim
  | error fault =>
      cases resultToo with
      | ok valueToo => exact matched.elim
      | error faultToo => exact ⟨matched, sameThen⟩

/-- Choices agree if they are made alike, and whatever is chosen agrees. -/
theorem agree_ite {p q : Prop} [Decidable p] [Decidable q] {one oneToo : ExceptT ε (Program I) α}
    {two twoToo : ExceptT ε (Program I) β} (alike : p ↔ q)
    (chosen : p → Agree answer same post one two)
    (left : ¬ p → Agree answer same post oneToo twoToo) :
    Agree answer same post (if p then one else oneToo) (if q then two else twoToo) := by
  by_cases holds : p
  · rw [if_pos holds, if_pos (alike.1 holds)]
    exact chosen holds
  · rw [if_neg holds, if_neg (mt alike.2 holds)]
    exact left holds

/-- Where each question is answered alike in states that are the same, a program agrees with
itself. -/
theorem agree_self
    (steady : ∀ question state other, same state other →
      (answer question state).1 = (answer question other).1 ∧
        same (answer question state).2 (answer question other).2)
    (program : ExceptT ε (Program I) α) : Agree answer same Eq program program := by
  have steadily : ∀ (program : Program I (Except ε α)) state other, same state other →
      (program.run answer state).1 = (program.run answer other).1 ∧
        same (program.run answer state).2 (program.run answer other).2 := by
    intro program
    induction program with
    | done result => exact fun _ _ isSame => ⟨rfl, isSame⟩
    | ask question next ih =>
        intro state other isSame
        obtain ⟨sameAnswer, sameThen⟩ := steady question state other isSame
        have goesOn := ih (answer question other).1 _ _ sameThen
        rw [run_ask, run_ask, sameAnswer]
        exact goesOn
  intro state other isSame
  obtain ⟨sameResult, sameThen⟩ := steadily program.run state other isSame
  exact ⟨matches_eq_iff.2 sameResult, sameThen⟩

end Agree

end Parley.Program
