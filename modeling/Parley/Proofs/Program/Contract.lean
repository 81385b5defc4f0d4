/-
Module: Parley.Proofs.Program.Contract
Layer: Proofs
Purpose: What a program owes its surroundings, and what they owe it.  A contract says which
  questions may be asked in a state, which answers may be given there, and what an answer does to the
  state.  A program keeps a contract up to a postcondition if, however it is answered, all that it
  asks may be asked and it ends as the postcondition says.  Sequences, faults and replaced questions
  each have one law, so a specification follows the text of the program.
Main exports: Contract, Program.Keeps, Program.keeps_bind, Program.keeps_run_bind,
  Program.Keeps.embed, Program.Leads, Program.Keeps.leads, Program.leads_run
-/
import Parley.Program

namespace Parley

/-- What may be asked, and what the answers may be. -/
structure Contract (I : Interface) (σ : Type) where
  asks : σ → I.Question → Prop
  /-- The answers that may be given in a state, each with the state after it. -/
  answers : (question : I.Question) → σ → I.Answer question → σ → Prop

namespace Program

variable {I J : Interface} {α β ε σ : Type} {contract : Contract I σ}

/-- However a program is answered from a state on, it asks only what may be asked, and its result
and the state then satisfy `post`. -/
def Keeps (contract : Contract I σ) (post : α → σ → Prop) : Program I α → σ → Prop
  | .done result, state => post result state
  | .ask question next, state =>
      contract.asks state question ∧
        ∀ answer after, contract.answers question state answer after →
          Keeps contract post (next answer) after

@[simp] theorem keeps_done {post : α → σ → Prop} {result : α} {state : σ} :
    (Program.done result : Program I α).Keeps contract post state ↔ post result state := Iff.rfl

theorem keeps_ask {post : α → σ → Prop} {question : I.Question}
    {next : I.Answer question → Program I α} {state : σ} :
    (Program.ask question next).Keeps contract post state ↔
      contract.asks state question ∧
        ∀ answer after, contract.answers question state answer after →
          (next answer).Keeps contract post after := Iff.rfl

theorem keeps_query {question : I.Question} {post : I.Answer question → σ → Prop} {state : σ} :
    (Program.query question).Keeps contract post state ↔
      contract.asks state question ∧
        ∀ answer after, contract.answers question state answer after → post answer after := Iff.rfl

/-- A weaker postcondition is kept too. -/
theorem Keeps.mono {program : Program I α} {post weaker : α → σ → Prop} {state : σ}
    (keeps : program.Keeps contract post state)
    (implies : ∀ result after, post result after → weaker result after) :
    program.Keeps contract weaker state := by
  induction program generalizing state with
  | done result => exact implies result state keeps
  | ask question next ih =>
      obtain ⟨asks, goesOn⟩ := keeps
      refine ⟨asks, ?_⟩
      intro answer after answered
      exact ih answer (goesOn answer after answered)

/-- Two postconditions that are kept under the same answers are kept together. -/
theorem Keeps.and {program : Program I α} {post also : α → σ → Prop} {state : σ}
    (keeps : program.Keeps contract post state)
    (keepsToo : program.Keeps { contract with asks := fun _ _ => True } also state) :
    program.Keeps contract (fun result after => post result after ∧ also result after) state := by
  induction program generalizing state with
  | done result => exact ⟨keeps, keepsToo⟩
  | ask question next ih =>
      constructor
      · exact keeps.1
      · intro answer after answered
        exact ih answer (keeps.2 answer after answered) (keepsToo.2 answer after answered)

/-- The law of sequences. -/
theorem keeps_bind {program : Program I α} {next : α → Program I β} {post : β → σ → Prop}
    {state : σ} :
    (program >>= next).Keeps contract post state ↔
      program.Keeps contract (fun result after => (next result).Keeps contract post after)
        state := by
  induction program generalizing state with
  | done result => exact Iff.rfl
  | ask question rest ih =>
      rw [ask_bind, keeps_ask, keeps_ask]
      simp only [ih]

/-- The law of sequences that a fault may end. -/
theorem keeps_run_bind {program : ExceptT ε (Program I) α} {next : α → ExceptT ε (Program I) β}
    {post : Except ε β → σ → Prop} {state : σ} :
    (program >>= next).run.Keeps contract post state ↔
      program.run.Keeps contract
        (fun result after =>
          match result with
          | .ok value => (next value).run.Keeps contract post after
          | .error fault => post (.error fault) after)
        state := by
  rw [ExceptT.run_bind, keeps_bind]
  constructor
  · intro keeps
    apply keeps.mono
    intro result after rest
    cases result with
    | ok value => exact rest
    | error fault => exact rest
  · intro keeps
    apply keeps.mono
    intro result after rest
    cases result with
    | ok value => exact rest
    | error fault => exact rest

@[simp] theorem keeps_run_pure {post : Except ε α → σ → Prop} {value : α} {state : σ} :
    (pure value : ExceptT ε (Program I) α).run.Keeps contract post state ↔
      post (.ok value) state := Iff.rfl

@[simp] theorem keeps_run_throw {post : Except ε α → σ → Prop} {fault : ε} {state : σ} :
    (throw fault : ExceptT ε (Program I) α).run.Keeps contract post state ↔
      post (.error fault) state := Iff.rfl

/-- A program whose questions are replaced keeps a contract if what stands for each question keeps
it and ends as an answer to the question may. -/
theorem Keeps.embed {contract : Contract I σ} {inner : Contract J σ} {program : Program I α}
    {meaning : (question : I.Question) → Program J (I.Answer question)} {post : α → σ → Prop}
    {state : σ} (keeps : program.Keeps contract post state)
    (means : ∀ question state, contract.asks state question →
      (meaning question).Keeps inner (contract.answers question state) state) :
    (Program.embed meaning program).Keeps inner post state := by
  induction program generalizing state with
  | done result => exact keeps
  | ask question next ih =>
      obtain ⟨asks, goesOn⟩ := keeps
      rw [Program.embed, keeps_bind]
      apply (means question state asks).mono
      intro answer after answered
      exact ih answer (goesOn answer after answered)

/-! ### Partial runs -/

/-- A program and a state lead to what is left of the program, and the state, after some of its
questions have been answered. -/
inductive Leads (answers : (question : I.Question) → σ → I.Answer question → σ → Prop) :
    Program I α → σ → Program I α → σ → Prop where
  | refl (program : Program I α) (state : σ) : Leads answers program state program state
  | ask {question : I.Question} {next : I.Answer question → Program I α} {state : σ}
      {answer : I.Answer question} {after : σ} {left : Program I α} {final : σ} :
      answers question state answer after → Leads answers (next answer) after left final →
      Leads answers (.ask question next) state left final

/-- What is left of a program that keeps a contract keeps it. -/
theorem Keeps.leads {program left : Program I α} {post : α → σ → Prop} {state final : σ}
    (keeps : program.Keeps contract post state)
    (leads : Leads contract.answers program state left final) :
    left.Keeps contract post final := by
  induction leads with
  | refl program state => exact keeps
  | ask answered _ ih => exact ih (keeps.2 _ _ answered)

/-- A program goes on with an answer, or is left at its question. -/
theorem advance_ask (answer : (question : I.Question) → StateM σ (Option (I.Answer question)))
    (question : I.Question) (next : I.Answer question → Program I α) (state : σ) :
    (Program.ask question next).advance answer state =
      match answer question state with
      | (some given, after) => (next given).advance answer after
      | (none, after) => (.ask question next, after) := by
  rw [Program.advance]
  simp only [Bind.bind, StateT.bind]
  cases answer question state with
  | mk given after =>
      cases given with
      | some given => rfl
      | none => rfl

/-- A run in which every question is answered is one of the runs that the answers allow. -/
theorem leads_run {answers : (question : I.Question) → σ → I.Answer question → σ → Prop}
    {answer : (question : I.Question) → StateM σ (I.Answer question)}
    (allowed : ∀ question state,
      answers question state (answer question state).1 (answer question state).2)
    (program : Program I α) (state : σ) :
    Leads answers program state (.done (program.run answer state).1)
      (program.run answer state).2 := by
  induction program generalizing state with
  | done result => exact .refl _ _
  | ask question next ih => exact .ask (allowed question state) (ih _ _)

end Program

end Parley
