/-
Module: Parley.Exchange.Responses
Layer: Exchange
Purpose: One response per request, in request order.  A response is taken for the request whose id
  it carries and used once; a request without one is answered by an error.
Main exports: Responses.take?, Responses.unanswered, Responses.inOrder
-/
import Parley.Intent.CallError

namespace Parley.Responses

/-- The first response to a request, and the other responses. -/
def take? (id : String) : Transcript → Option (Turn × Transcript)
  | [] => none
  | turn :: turns =>
      if turn.answers = some id then some (turn, turns)
      else (take? id turns).map fun (found, others) => (found, turn :: others)

/-- The answer to a request that nothing answered. -/
def unanswered (available : List String) (request : ToolRequest) : Turn :=
  Turn.response request
    (errorPayload "UNHANDLED_TOOL_CALL" "no response was produced for this tool call"
      request.tool available).render

/-- One response per request, in request order. -/
def inOrder (available : List String) : List ToolRequest → Transcript → Transcript
  | [], _ => []
  | request :: requests, responses =>
      match take? request.id responses with
      | some (found, others) => found :: inOrder available requests others
      | none => unanswered available request :: inOrder available requests responses

end Parley.Responses
