/-
Module: Parley.Opening.Run
Layer: Opening
Purpose: The opening of a session.  Before its first user message, configured intents are called and
  their results are written into the transcript as if the model had asked for them: one assistant
  turn with the requests and one tool turn for each.
Main exports: OpeningPlan.applies, Opening.sanitized, Opening.requests, Opening.run
-/
import Parley.Exchange.Interface
import Parley.Opening.Envelope
import Parley.Settings.Basic

namespace Parley

variable {η : Type}

/-- Whether a session with this transcript gets an opening: there are calls to make, the session has
an id if it needs one, and neither the user nor the assistant has spoken. -/
def OpeningPlan.applies (plan : OpeningPlan) (turns : Transcript) (session : String) : Bool :=
  !plan.calls.isEmpty && !(plan.requireSession && Text.isBlank session) &&
    turns.all fun turn => turn.role ≠ .user && turn.role ≠ .assistant

namespace Opening

/-- One character of a code inside an id. -/
def sanitizedChar (c : Char) : Char :=
  let lower := asciiLower c
  if ('a' ≤ lower ∧ lower ≤ 'z') ∨ ('0' ≤ lower ∧ lower ≤ '9') then lower else '_'

/-- A code with lower-case ASCII letters and digits; everything else becomes an underscore. -/
def sanitized (code : String) : String :=
  String.ofList (code.toList.map sanitizedChar)

/-- The request for the call at an index. -/
def request (call : OpeningCall) (index : Nat) : ToolRequest :=
  { id := "bootstrap_" ++ index.repr ++ "_" ++ sanitized call.intent
    tool := call.intent
    arguments := call.arguments.render }

/-- The requests of a plan: its calls that may be made, in order. -/
def requests (plan : OpeningPlan) (tools : Toolset η) : List ToolRequest :=
  (plan.calls.filter fun call => (tools.find? call.intent).isSome).zipIdx.map
    fun (call, index) => request call index

/-- The call for a request. -/
def callFor (session : String) (earlier : List Json) (request : ToolRequest) : Call :=
  { session := session
    message := ""
    tool := request.tool
    arguments := request.arguments
    earlier := earlier }

/-- Make the calls one after another: the tool turns and the number of failures. -/
def runCalls (plan : OpeningPlan) (session : String) (earlier : List Json) :
    List ToolRequest → ExchangeProgram wholeCalls (Transcript × Nat)
  | [] => pure ([], 0)
  | request :: requests => do
      Exchange.checkCancelled
      match ← Exchange.runCall (callFor session earlier request) with
      | .ok result =>
          let envelope := Envelope.fit plan.limits (Envelope.success request.tool result)
          let (turns, failures) ← runCalls plan session (earlier ++ [result]) requests
          pure (Turn.response request envelope :: turns, failures)
      | .error error =>
          match plan.policy with
          | .strict => throw (.openingFailed request.tool error.message)
          | .bestEffort =>
              let envelope := Envelope.fit plan.limits (Envelope.failure request.tool error)
              let (turns, failures) ← runCalls plan session earlier requests
              pure (Turn.response request envelope :: turns, failures + 1)

/-- The turns of an opening; none if none of its calls may be made. -/
def run (plan : OpeningPlan) (tools : Toolset η) (session : String) :
    ExchangeProgram wholeCalls Transcript := do
  let asked := requests plan tools
  if asked.isEmpty then pure []
  else
    let (turns, failures) ← runCalls plan session [] asked
    Exchange.report (.openingCompleted session asked.length failures)
    pure (Turn.asking "" asked :: turns)

end Opening

end Parley
