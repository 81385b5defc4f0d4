/-
Module: Parley.Intent.Execution
Layer: Intent
Purpose: One tool call from the name and the text the model wrote to its outcome: look the intent
  up, accept the arguments, run the layers around the handler, and check that the result agrees with
  the arguments.  Nothing is asked of the surroundings before the arguments are accepted.
Main exports: Call, Call.run
-/
import Parley.Intent.Acceptance
import Parley.Intent.Agreement
import Parley.Intent.Chain

namespace Parley

variable {η : Type} {H : Interface}

/-- A tool call. -/
structure Call where
  session : String
  message : String
  tool : String
  arguments : String
  /-- The results of the calls before this one. -/
  earlier : List Json

namespace Call

/-- The context in which a call begins. -/
def context (call : Call) (intent : Intent η) (arguments : Json.Object) (now : Int) : Context :=
  { session := call.session
    intent := intent.code
    message := call.message
    arguments := arguments
    startedAt := now
    notes := []
    earlier := call.earlier }

/-- The last step of a call: the handler of the intent. -/
def handlerStep (intent : Intent η) : Step η H := fun context => do
  match ← CallProgram.handle intent context with
  | .ok result => pure (.ok result, context)
  | .error text => pure (.error (.handlerFailed intent.code text), context)

/-- A result counts if it agrees with the arguments that the call ends with. -/
def verdict (intent : Intent η) : Outcome × Context → Outcome
  | (.error error, _) => .error error
  | (.ok result, after) =>
      match Agreement.check intent.code after.arguments result with
      | .ok () => .ok result
      | .error error => .error error

/-- Run a call.  `details` says what is wrong with a text that is not JSON. -/
def run (details : String → String) (tools : Toolset η) (chain : Chain η H) (call : Call) :
    CallProgram η H Outcome :=
  match tools.find? call.tool with
  | none => pure (.error (.toolNotFound call.tool))
  | some intent =>
      match intent.shape.accept details intent.code call.arguments with
      | .error error => pure (.error error)
      | .ok arguments => do
          let now ← CallProgram.clock
          let ended ← chain.run (handlerStep intent) (call.context intent arguments now)
          pure (verdict intent ended)

end Call

end Parley
