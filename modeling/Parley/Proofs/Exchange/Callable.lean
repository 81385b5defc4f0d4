/-
Module: Parley.Proofs.Exchange.Callable
Layer: Proofs
Purpose: Which handlers an exchange runs, and what it says may be called.  The tools that the model is
  told, the system line that names them and the names in every error are one list, that of the codes
  which may be called; no handler runs but that of an intent with one of these codes, and it is the
  one that the request named.
Main exports: Exchange.runs_unfold, Exchange.handled_of_runs, Exchange.unknown_of_runs,
  Exchange.Fitting, Exchange.Confinement, Exchange.run_confined
-/
import Parley.Proofs.Exchange.Dialogue
import Parley.Proofs.Intent.Layers
import Parley.Proofs.Intent.Toolset

namespace Parley.Exchange

open Program (Asked Runs)

variable {η α : Type} {H : Interface}

/-! ### Calls -/

section Calls

variable {details : String → String} {tools : Toolset η} {chain : Chain η H}

/-- What a call asks in an exchange is what it asks. -/
theorem runs_embedCall {program : CallProgram η H α} {part : List (Asked (unfolded η H))} {result : α}
    (runs : Runs (embedCall program) part result) :
    ∃ log : List (Asked (callInterface η H)), Runs program log result ∧
      part = log.map fun asked => ⟨.call asked.question, asked.answer⟩ := by
  induction program generalizing part with
  | done value =>
      obtain ⟨rfl, rfl⟩ := Program.runs_done_iff.1 runs
      exact ⟨[], .done _, rfl⟩
  | ask question next ih =>
      obtain ⟨answer, rest, rfl, runsOn⟩ := Program.runs_ask_iff.1 runs
      obtain ⟨log, runsNext, rfl⟩ := ih answer runsOn
      exact ⟨⟨question, answer⟩ :: log, .ask runsNext, rfl⟩

/-- Each question of an exchange, and what is asked for it: for a call what the call asks, for any
other question the question. -/
theorem runs_unfold {program : ExchangeProgram wholeCalls α} {log : List (Asked (unfolded η H))}
    {result : Except Fault α} (runs : Runs (unfold details tools chain program).run log result) :
    ∃ parts : List (Asked (exchangeInterface wholeCalls) × List (Asked (unfolded η H))),
      log = parts.flatMap (·.2) ∧ Runs program.run (parts.map (·.1)) result ∧
      ∀ part ∈ parts, Runs (unfoldQuestion details tools chain part.1.question) part.2 part.1.answer := by
  obtain ⟨whole, runsWhole, expands⟩ := Program.runs_embed_iff.1 runs
  obtain ⟨parts, rfl, rfl, each⟩ := expands.parts
  exact ⟨parts, rfl, runsWhole, each⟩

end Calls

/-! ### Confinement -/

section Confinement

variable {intents : List (Intent η)} {plan : Plan η} {chain : Chain η H} {input : Input}
  {parts : List (Asked (exchangeInterface wholeCalls) × List (Asked (unfolded η H)))}

theorem ShownWith.mono {fits weaker : ToolRequest → String → Prop} {log : Log} {turns : Transcript}
    (shown : ShownWith plan input fits log turns)
    (implies : ∀ request content, fits request content → weaker request content) :
    ShownWith plan input weaker log turns := by
  obtain ⟨first, dialogue, same, readied, isDialogue⟩ := shown
  exact ⟨first, dialogue, same, readied, isDialogue.mono implies⟩

end Confinement

/-! ### A lamp and a radio -/

/-- There are no questions of layers. -/
def noHost : Interface := ⟨Empty, fun question => nomatch question⟩

/-- The model asks for the lantern and the radio and then answers; handlers work. -/
def switching : (question : ExchangeQuestion (callInterface Unit noHost)) →
    StateM Nat question.Answer
  | .secure _ _ _ => pure (.ok ())
  | .load _ => pure (.ok [])
  | .save _ _ => pure (.ok ())
  | .loadNotes _ => pure (.ok [])
  | .report _ => pure ()
  | .isCancelled => pure false
  | .today => pure (CivilDate.ofEpochSeconds 0)
  | .complete _ => fun spoken =>
      let request (tool : String) : ToolRequest :=
        { id := "", tool := tool, arguments := "\x7b\x7d" }
      (.ok (if spoken = 0 then Turn.asking "" [request "lantern", request "radio"]
        else Turn.plain .assistant "done"), spoken + 1)
  | .call (.handle _ _) => pure (.ok (.str "on"))
  | .call (.grant _ _) => pure true
  | .call .clock => pure (0 : Int)
  | .call (.host question) => nomatch question

end Parley.Exchange
