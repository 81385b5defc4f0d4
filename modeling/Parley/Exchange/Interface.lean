/-
Module: Parley.Exchange.Interface
Layer: Exchange
Purpose: What an exchange asks of its surroundings: the security gate, the store, the model, whether
  it has been cancelled, the date, a place to report to, and what its tool calls ask.  Tool calls
  may ask in two ways.  A whole call is one question, whose answer is how the call ends; unfolding
  an exchange replaces each such question by the questions of the call itself.
Main exports: ModelRequest, ExchangeQuestion, exchangeInterface, ExchangeProgram, wholeCalls,
  Exchange.unfold, Exchange.saveTurns
-/
import Parley.Calendar.CivilDate
import Parley.Event
import Parley.Intent.Execution

namespace Parley

variable {C : Interface} {η : Type} {H : Interface} {α : Type}

/-- What the model is shown. -/
structure ModelRequest where
  transcript : Transcript
  systemLines : List String
  tools : List ToolDefinition

/-- What an exchange asks, where its tool calls ask the questions of `C`. -/
inductive ExchangeQuestion (C : Interface) where
  /-- Whether a message may be answered at all. -/
  | secure (user : Option String) (session message : String)
  /-- The stored transcript of a session. -/
  | load (session : String)
  | save (session : String) (turns : Transcript)
  /-- The stored system messages of a session. -/
  | loadNotes (session : String)
  | report (event : Event)
  /-- Whether this exchange has been told to stop. -/
  | isCancelled
  | today
  /-- The next turn of the model. -/
  | complete (request : ModelRequest)
  /-- A question of a tool call. -/
  | call (question : C.Question)

/-- The type of the answer to a question. -/
def ExchangeQuestion.Answer : ExchangeQuestion C → Type
  | .secure _ _ _ => Except Fault Unit
  | .load _ => Except Fault Transcript
  | .save _ _ => Except Fault Unit
  | .loadNotes _ => Except Fault (List String)
  | .report _ => Unit
  | .isCancelled => Bool
  | .today => CivilDate
  | .complete _ => Except Fault Turn
  | .call question => C.Answer question

/-- The questions of an exchange. -/
def exchangeInterface (C : Interface) : Interface :=
  ⟨ExchangeQuestion C, ExchangeQuestion.Answer⟩

/-- A computation inside an exchange, which a fault ends. -/
abbrev ExchangeProgram (C : Interface) (α : Type) : Type :=
  ExceptT Fault (Program (exchangeInterface C)) α

/-- Whole tool calls as questions, each answered by how the call ends. -/
def wholeCalls : Interface := ⟨Call, fun _ => Outcome⟩

namespace Exchange

/-- Ask the security gate. -/
def secure (user : Option String) (session message : String) : ExchangeProgram C Unit :=
  ExceptT.mk (Program.query (I := exchangeInterface C) (.secure user session message))

/-- Load the transcript of a session. -/
def load (session : String) : ExchangeProgram C Transcript :=
  ExceptT.mk (Program.query (I := exchangeInterface C) (.load session))

/-- Save the transcript of a session. -/
def save (session : String) (turns : Transcript) : ExchangeProgram C Unit :=
  ExceptT.mk (Program.query (I := exchangeInterface C) (.save session turns))

/-- Load the system messages of a session. -/
def loadNotes (session : String) : ExchangeProgram C (List String) :=
  ExceptT.mk (Program.query (I := exchangeInterface C) (.loadNotes session))

/-- Report an event. -/
def report (event : Event) : ExchangeProgram C Unit :=
  ExceptT.lift (Program.query (I := exchangeInterface C) (.report event))

/-- The date. -/
def today : ExchangeProgram C CivilDate :=
  ExceptT.lift (Program.query (I := exchangeInterface C) .today)

/-- Go on only if this exchange has not been cancelled. -/
def checkCancelled : ExchangeProgram C Unit := do
  let isCancelled : Bool ← ExceptT.lift
    (Program.query (I := exchangeInterface C) .isCancelled)
  if isCancelled then throw .cancelled else pure ()

/-- The next turn of the model.  Whatever it calls itself, it is a new assistant turn. -/
def complete (request : ModelRequest) : ExchangeProgram C Turn := do
  let reply : Turn ← ExceptT.mk
    (Program.query (I := exchangeInterface C) (.complete request))
  pure { reply with role := .assistant, id := 0 }

/-- Run a tool call. -/
def runCall (call : Call) : ExchangeProgram wholeCalls Outcome :=
  ExceptT.lift (Program.query (I := exchangeInterface wholeCalls) (.call call))

/-- Number a transcript, save it and report that. -/
def saveTurns (session : String) (turns : Transcript) : ExchangeProgram C Unit := do
  save session turns.numbered
  report (.transcriptSaved session turns.length)

/-! ### Unfolding tool calls -/

/-- The questions of an exchange whose tool calls are unfolded. -/
abbrev unfolded (η : Type) (H : Interface) : Interface := exchangeInterface (callInterface η H)

/-- The questions of a call as questions of an exchange. -/
def embedCall (program : CallProgram η H α) : Program (unfolded η H) α :=
  Program.embed (J := unfolded η H)
    (fun question => Program.query (I := unfolded η H) (.call question)) program

/-- One question of an exchange whose calls are unfolded. -/
def askUnfolded (question : ExchangeQuestion (callInterface η H)) :
    Program (unfolded η H) question.Answer :=
  Program.query (I := unfolded η H) question

/-- What stands for a question: for a whole call its own questions, for any other the question. -/
def unfoldQuestion (details : String → String) (tools : Toolset η) (chain : Chain η H) :
    (question : ExchangeQuestion wholeCalls) → Program (unfolded η H) question.Answer
  | .secure user session message => askUnfolded (.secure user session message)
  | .load session => askUnfolded (.load session)
  | .save session turns => askUnfolded (.save session turns)
  | .loadNotes session => askUnfolded (.loadNotes session)
  | .report event => askUnfolded (.report event)
  | .isCancelled => askUnfolded .isCancelled
  | .today => askUnfolded .today
  | .complete request => askUnfolded (.complete request)
  | .call call => embedCall (Call.run details tools chain call)

/-- An exchange in which the calls are run with a toolset and within a chain. -/
def unfold (details : String → String) (tools : Toolset η) (chain : Chain η H)
    (program : ExchangeProgram wholeCalls α) : ExchangeProgram (callInterface η H) α :=
  ExceptT.mk (Program.embed (J := unfolded η H) (unfoldQuestion details tools chain) program.run)

end Exchange

end Parley
