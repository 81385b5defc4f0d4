/-
Module: Parley.Proofs.Exchange.Questions
Layer: Proofs
Purpose: The laws of the single questions of an exchange, under any contract, and of its tool calls:
  what an exchange keeps while its calls are answered as a whole, it keeps while they are unfolded,
  as long as the questions of calls do nothing to the state.  Where all questions are written down,
  what is written down is a run.
Main exports: Exchange.keeps_load, Exchange.keeps_save, Exchange.keeps_complete,
  Exchange.keeps_embedCall, Exchange.keeps_unfold, Exchange.keeps_logged,
  Exchange.keeps_embedCall_logged
-/
import Parley.Exchange.Loop
import Parley.Proofs.Program.Contract

namespace Parley.Exchange

open Program (Asked Runs keeps_run_bind)

variable {C H : Interface} {η σ α : Type}

section Single

variable {contract : Contract (exchangeInterface C) σ} {state : σ}

theorem keeps_secure {user : Option String} {session message : String}
    {post : Except Fault Unit → σ → Prop} :
    (secure user session message : ExchangeProgram C Unit).run.Keeps contract post state ↔
      contract.asks state (.secure user session message) ∧
        ∀ answer after, contract.answers (.secure user session message) state answer after →
          post answer after := Iff.rfl

theorem keeps_load {session : String} {post : Except Fault Transcript → σ → Prop} :
    (load session : ExchangeProgram C Transcript).run.Keeps contract post state ↔
      contract.asks state (.load session) ∧
        ∀ answer after, contract.answers (.load session) state answer after →
          post answer after := Iff.rfl

theorem keeps_save {session : String} {turns : Transcript} {post : Except Fault Unit → σ → Prop} :
    (save session turns : ExchangeProgram C Unit).run.Keeps contract post state ↔
      contract.asks state (.save session turns) ∧
        ∀ answer after, contract.answers (.save session turns) state answer after →
          post answer after := Iff.rfl

theorem keeps_loadNotes {session : String} {post : Except Fault (List String) → σ → Prop} :
    (loadNotes session : ExchangeProgram C (List String)).run.Keeps contract post state ↔
      contract.asks state (.loadNotes session) ∧
        ∀ answer after, contract.answers (.loadNotes session) state answer after →
          post answer after := Iff.rfl

theorem keeps_report {event : Event} {post : Except Fault Unit → σ → Prop} :
    (report event : ExchangeProgram C Unit).run.Keeps contract post state ↔
      contract.asks state (.report event) ∧
        ∀ answer after, contract.answers (.report event) state answer after →
          post (.ok answer) after := Iff.rfl

theorem keeps_today {post : Except Fault CivilDate → σ → Prop} :
    (today : ExchangeProgram C CivilDate).run.Keeps contract post state ↔
      contract.asks state .today ∧
        ∀ answer after, contract.answers .today state answer after →
          post (.ok answer) after := Iff.rfl

theorem keeps_runCall {contract : Contract (exchangeInterface wholeCalls) σ} {call : Call}
    {post : Except Fault Outcome → σ → Prop} :
    (runCall call).run.Keeps contract post state ↔
      contract.asks state (.call call) ∧
        ∀ answer after, contract.answers (.call call) state answer after →
          post (.ok answer) after := Iff.rfl

theorem keeps_checkCancelled {post : Except Fault Unit → σ → Prop} :
    (checkCancelled : ExchangeProgram C Unit).run.Keeps contract post state ↔
      contract.asks state .isCancelled ∧
        ∀ (answer : Bool) after, contract.answers .isCancelled state answer after →
          post (if answer then .error .cancelled else .ok ()) after := by
  refine and_congr_right fun _ => forall_congr' fun answer => forall_congr' fun after => ?_
  cases (answer : Bool) with
  | true => exact Iff.rfl
  | false => exact Iff.rfl

/-- Whatever the model calls its turn, it is a new turn of the assistant. -/
theorem keeps_complete {request : ModelRequest} {post : Except Fault Turn → σ → Prop} :
    (complete request : ExchangeProgram C Turn).run.Keeps contract post state ↔
      contract.asks state (.complete request) ∧
        ∀ (answer : Except Fault Turn) after,
          contract.answers (.complete request) state answer after →
            post (answer.map fun reply => { reply with role := .assistant, id := 0 }) after := by
  refine and_congr_right fun _ => forall_congr' fun answer => forall_congr' fun after => ?_
  cases (answer : Except Fault Turn) with
  | ok reply => exact Iff.rfl
  | error fault => exact Iff.rfl

end Single

/-! ### Tool calls -/

section Calls

variable {contract : Contract (unfolded η H) σ}

/-- Where the questions of calls may be asked and change nothing, a call changes nothing. -/
theorem keeps_embedCall {state : σ} (program : CallProgram η H α)
    (asks : ∀ question, contract.asks state (.call question))
    (still : ∀ question answer after,
      contract.answers (.call question) state answer after → after = state) :
    (embedCall program).Keeps contract (fun _ after => after = state) state := by
  induction program with
  | done result => exact rfl
  | ask question next ih =>
      refine ⟨asks question, ?_⟩
      intro answer after answered
      have same := still question answer after answered
      subst same
      exact ih answer

/-- What is kept with whole calls is kept with unfolded ones. -/
theorem keeps_unfold {whole : Contract (exchangeInterface wholeCalls) σ}
    {details : String → String} {tools : Toolset η} {chain : Chain η H} {program : ExchangeProgram wholeCalls α}
    {post : Except Fault α → σ → Prop} {state : σ} (keeps : program.run.Keeps whole post state)
    (means : ∀ question state, whole.asks state question →
      (unfoldQuestion details tools chain question).Keeps contract
        (whole.answers question state) state) :
    (unfold details tools chain program).run.Keeps contract post state :=
  keeps.embed means

end Calls

/-! ### What is written down -/

section Logged

variable (log : σ → List (Asked (unfolded η H)))

/-- Where each answer writes down a run of what stands for its question, all of them together are a
run of the program. -/
theorem keeps_logged
    {answers : (question : ExchangeQuestion wholeCalls) → σ → question.Answer → σ → Prop}
    {details : String → String} {tools : Toolset η} {chain : Chain η H}
    (logs : ∀ question before answer after, answers question before answer after →
      ∃ part, log after = log before ++ part ∧
        Runs (unfoldQuestion details tools chain question) part answer)
    (program : ExchangeProgram wholeCalls α) (state : σ) :
    program.run.Keeps { asks := fun _ _ => True, answers := answers }
      (fun result after => ∃ part, log after = log state ++ part ∧
        Runs (unfold details tools chain program).run part result) state := by
  have recorded : ∀ (program : Program (exchangeInterface wholeCalls) (Except Fault α)) (state : σ),
      program.Keeps { asks := fun _ _ => True, answers := answers }
        (fun result after => ∃ part, log after = log state ++ part ∧
          Runs (Program.embed (J := unfolded η H) (unfoldQuestion details tools chain) program)
            part result)
        state := by
    intro program
    induction program with
    | done result => exact fun state => ⟨[], by simp, .done result⟩
    | ask question next ih =>
        intro state
        constructor
        · exact trivial
        · intro answer after answered
          obtain ⟨first, logEq, runs⟩ := logs question state answer after answered
          apply (ih answer after).mono
          rintro result final ⟨rest, finalLog, runsOn⟩
          refine ⟨first ++ rest, ?_, ?_⟩
          · rw [finalLog, logEq, List.append_assoc]
          · exact Program.runs_bind_iff.2 ⟨first, answer, rest, rfl, runs, runsOn⟩
  exact recorded program.run state

/-- Where the questions of calls may be asked as long as a property holds, and each of them is
written down and leaves it true, a call writes down a run of itself. -/
theorem keeps_embedCall_logged {contract : Contract (unfolded η H) σ} {holds : σ → Prop}
    (asks : ∀ state question, holds state → contract.asks state (.call question))
    (answers : ∀ state question answer after, holds state →
      contract.answers (.call question) state answer after →
        holds after ∧ log after = log state ++ [⟨.call question, answer⟩])
    (program : CallProgram η H α) (state : σ) (held : holds state) :
    (embedCall program).Keeps contract
      (fun result after => holds after ∧
        ∃ part, log after = log state ++ part ∧ Runs (embedCall program) part result) state := by
  induction program generalizing state with
  | done result => exact ⟨held, [], by simp, .done result⟩
  | ask question next ih =>
      refine ⟨asks state question held, ?_⟩
      intro answer after answered
      obtain ⟨heldAfter, logEq⟩ := answers state question answer after held answered
      apply (ih answer after heldAfter).mono
      rintro result final ⟨heldFinal, part, finalLog, runs⟩
      refine ⟨heldFinal, ⟨.call question, answer⟩ :: part, ?_, .ask runs⟩
      rw [finalLog, logEq, List.append_assoc, List.singleton_append]

end Logged

end Parley.Exchange
