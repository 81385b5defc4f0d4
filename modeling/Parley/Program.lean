/-
Module: Parley.Program
Layer: Foundations
Purpose: Computations that put questions to their surroundings.  A program is a finite tree: it is
  done, or it asks one question and goes on with the answer.  What a question means is decided by
  whoever runs the program, so one definition serves a run on a concrete state, a run that stops
  where no answer is available yet, and the set of all runs under arbitrary answers.
Main exports: Interface, Program, Program.query, Program.run, Program.advance, Program.embed,
  Program.Runs
-/

namespace Parley

/-- The questions that may be asked, and the type of the answer to each. -/
structure Interface where
  Question : Type
  Answer : Question → Type

/-- A computation with questions to its surroundings. -/
inductive Program (I : Interface) (α : Type) : Type where
  | done (result : α)
  | ask (question : I.Question) (next : I.Answer question → Program I α)

namespace Program

variable {I J : Interface} {α β γ σ : Type}

/-- Run one program and go on with its result. -/
def bind (first : Program I α) (next : α → Program I β) : Program I β :=
  match first with
  | .done result => next result
  | .ask question rest => .ask question fun answer => (rest answer).bind next

instance : Monad (Program I) where
  pure := Program.done
  bind := Program.bind

/-- The program that asks one question and returns the answer. -/
def query (question : I.Question) : Program I (I.Answer question) :=
  .ask question .done

@[simp] theorem pure_eq_done (result : α) : (pure result : Program I α) = .done result := rfl

@[simp] theorem done_bind (result : α) (next : α → Program I β) :
    (Program.done result >>= next) = next result := rfl

@[simp] theorem ask_bind (question : I.Question) (rest : I.Answer question → Program I α)
    (next : α → Program I β) :
    (Program.ask question rest >>= next) = .ask question fun answer => rest answer >>= next := rfl

theorem bind_done (program : Program I α) : (program >>= Program.done) = program := by
  induction program with
  | done result => rfl
  | ask question rest ih => simp only [ask_bind, ih]

theorem bind_assoc (program : Program I α) (f : α → Program I β) (g : β → Program I γ) :
    (program >>= f >>= g) = (program >>= fun result => f result >>= g) := by
  induction program with
  | done result => rfl
  | ask question rest ih => simp only [ask_bind, ih]

instance : LawfulMonad (Program I) :=
  LawfulMonad.mk' (Program I)
    (fun program => bind_done program)
    (fun _ _ => rfl)
    (fun program f g => bind_assoc program f g)

/-- Run a program to its end, answering every question from a state. -/
def run (answer : (question : I.Question) → StateM σ (I.Answer question)) :
    Program I α → StateM σ α
  | .done result => pure result
  | .ask question rest => answer question >>= fun given => run answer (rest given)

/-- Run a program as far as answers are available: what is left is `done`, or asks a question that
has no answer yet. -/
def advance (answer : (question : I.Question) → StateM σ (Option (I.Answer question))) :
    Program I α → StateM σ (Program I α)
  | .done result => pure (.done result)
  | .ask question rest =>
      answer question >>= fun given? =>
        match given? with
        | some given => advance answer (rest given)
        | none => pure (.ask question rest)

/-- The same program over another interface, each question replaced by a program for it. -/
def embed (meaning : (question : I.Question) → Program J (I.Answer question)) :
    Program I α → Program J α
  | .done result => .done result
  | .ask question rest => meaning question >>= fun given => embed meaning (rest given)

/-- One question together with the answer it was given. -/
structure Asked (I : Interface) where
  question : I.Question
  answer : I.Answer question

/-- `Runs program log result`: some surroundings give the answers in `log`, in this order, and the
program then ends with `result`. -/
inductive Runs : Program I α → List (Asked I) → α → Prop where
  | done (result : α) : Runs (.done result) [] result
  | ask {question : I.Question} {rest : I.Answer question → Program I α}
      {answer : I.Answer question} {log : List (Asked I)} {result : α} :
      Runs (rest answer) log result → Runs (.ask question rest) (⟨question, answer⟩ :: log) result

/-- A run of a sequence is a run of its first part followed by a run of its second. -/
theorem runs_bind_iff {program : Program I α} {next : α → Program I β} {log : List (Asked I)}
    {result : β} :
    Runs (program >>= next) log result ↔
      ∃ before between after, log = before ++ after ∧ Runs program before between ∧
        Runs (next between) after result := by
  induction program generalizing log with
  | done first =>
      constructor
      · intro runs
        exact ⟨[], first, log, rfl, .done first, runs⟩
      · rintro ⟨before, between, after, rfl, first, second⟩
        cases first
        exact second
  | ask question rest ih =>
      constructor
      · intro runs
        rw [ask_bind] at runs
        cases runs with
        | ask more =>
            obtain ⟨before, between, after, rfl, first, second⟩ := (ih _).1 more
            exact ⟨_ :: before, between, after, rfl, .ask first, second⟩
      · rintro ⟨before, between, after, rfl, first, second⟩
        cases first with
        | ask more => exact .ask ((ih _).2 ⟨_, between, after, rfl, more, second⟩)

end Program

end Parley
