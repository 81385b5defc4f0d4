/-
Module: Parley.Intent.CallError
Layer: Intent
Purpose: Why a tool call can fail.  The model may correct the first four causes and is told about
  them; the other causes end the exchange.
Main exports: CallError, CallError.isRecoverable, CallError.message, CallError.payload,
  CallError.toFault
-/
import Parley.Fault
import Parley.Json.Printer

namespace Parley

/-- Causes of failure of a tool call. -/
inductive CallError where
  | toolNotFound (requested : String)
  | invalidArguments (intent text : String)
  | invalidArgumentFormat (intent text : String)
  | invalidArgumentType (intent field text : String)
  | invalidResponse (intent text : String)
  | handlerFailed (intent text : String)
  | rejected (layer intent reason : String)
deriving DecidableEq, Repr, Inhabited

/-- The payload that tells the model about a failed call. -/
def errorPayload (code text requested : String) (available : List String) : Json :=
  .obj [("error", .obj
    [("availableTools", .arr (available.map .str)), ("code", .str code), ("message", .str text),
      ("requestedTool", .str requested)])]

namespace CallError

/-- The code of a cause. -/
def code : CallError → String
  | .toolNotFound .. => "TOOL_NOT_FOUND"
  | .invalidArguments .. => "INVALID_ARGUMENTS"
  | .invalidArgumentFormat .. => "INVALID_ARGUMENT_FORMAT"
  | .invalidArgumentType .. => "INVALID_ARGUMENT_TYPE"
  | .invalidResponse .. => "INVALID_RESPONSE"
  | .handlerFailed .. => "INTENT_FAILED"
  | .rejected .. => "REJECTED"

/-- The intent a failure is about; for an unknown tool, the name that was asked for. -/
def intent : CallError → String
  | .toolNotFound requested => requested
  | .invalidArguments intent _ => intent
  | .invalidArgumentFormat intent _ => intent
  | .invalidArgumentType intent _ _ => intent
  | .invalidResponse intent _ => intent
  | .handlerFailed intent _ => intent
  | .rejected _ intent _ => intent

/-- Whether the model may correct the call. -/
def isRecoverable : CallError → Bool
  | .toolNotFound .. => true
  | .invalidArguments .. => true
  | .invalidArgumentFormat .. => true
  | .invalidArgumentType .. => true
  | _ => false

/-- The message of a failure. -/
def message : CallError → String
  | .toolNotFound requested => "no intent named " ++ Text.quote requested ++ " is available"
  | .invalidArguments intent text => "invalid arguments for " ++ intent ++ ": " ++ text
  | .invalidArgumentFormat intent text =>
      "arguments for " ++ intent ++ " must be a JSON object: " ++ text
  | .invalidArgumentType intent field text =>
      "field " ++ Text.quote field ++ " of " ++ intent ++ " has an unusable value: " ++ text
  | .invalidResponse intent text =>
      "intent " ++ intent ++ " returned an inconsistent response: " ++ text
  | .handlerFailed intent text => "intent " ++ intent ++ " failed: " ++ text
  | .rejected layer intent reason =>
      "middleware " ++ layer ++ " rejected intent " ++ intent ++ ": " ++ reason

/-- The payload of a failure. -/
def payload (error : CallError) (requested : String) (available : List String) : Json :=
  errorPayload error.code error.message requested available

/-- The fault with which a failure ends an exchange. -/
def toFault : CallError → Fault
  | .invalidResponse intent text => .invalidResponse intent text
  | .rejected layer intent reason => .rejected layer intent reason
  | .handlerFailed intent text => .intentFailed intent text
  | other => .intentFailed other.intent other.message

end CallError

end Parley
