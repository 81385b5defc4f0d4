/-
Module: Parley.Transcript.Protocol
Layer: Transcript
Purpose: The order that a transcript must keep: an assistant turn that asks for tools is followed at
  once by one tool turn per request, in request order, and tool turns stand nowhere else.  The rule
  is given twice, as a sequence of blocks and as a check that goes through the turns once and
  reports the first violation.
Main exports: LedgerFault, Transcript.Block, Transcript.WellFormed, Transcript.check
-/
import Parley.Transcript.Turn
import Parley.Text.Quoted

namespace Parley

/-- What can be wrong with a transcript or with a position in it. -/
inductive LedgerFault where
  | outside (position length : Nat)
  | orphanTool (index : Nat)
  | missingResponse (index : Nat) (request : String)
  | mismatchedResponse (index : Nat) (expected : String) (found : Option String)
deriving DecidableEq, Repr, Inhabited

namespace LedgerFault

/-- The kind of a fault. -/
def kind : LedgerFault → String
  | .outside .. => "InvalidPosition"
  | .orphanTool .. => "OrphanToolTurn"
  | .missingResponse .. => "MissingResponse"
  | .mismatchedResponse .. => "MismatchedResponse"

/-- The message of a fault. -/
def message : LedgerFault → String
  | .outside position length =>
      "position " ++ position.repr ++ " is outside the transcript (1..=" ++ length.repr ++ ")"
  | .orphanTool index =>
      "tool turn at index " ++ index.repr ++ " does not answer a pending request"
  | .missingResponse index request =>
      "request " ++ request ++ " from the assistant turn at index " ++ index.repr ++
        " has no response"
  | .mismatchedResponse index expected found =>
      "tool turn at index " ++ index.repr ++ " answers " ++ Text.quoteOption found ++
        ", expected " ++ expected

end LedgerFault

namespace Transcript

/-! ### Blocks -/

/-- The turns `responses` answer the requests one by one. -/
inductive Answered : List ToolRequest → Transcript → Prop where
  | nil : Answered [] []
  | cons {request : ToolRequest} {requests : List ToolRequest} {turn : Turn}
      {responses : Transcript} :
      turn.role = .tool → turn.answers = some request.id → Answered requests responses →
      Answered (request :: requests) (turn :: responses)

/-- What a transcript consists of: single turns that leave nothing to be answered, and assistant
turns with requests together with their answers. -/
inductive Block : Transcript → Prop where
  | single {turn : Turn} : turn.role ≠ .tool → turn.asksForTools = false → Block [turn]
  | round {turn : Turn} {responses : Transcript} :
      turn.asksForTools = true → Answered turn.requests responses → Block (turn :: responses)

/-- A transcript that keeps the order: a sequence of blocks. -/
inductive WellFormed : Transcript → Prop where
  | nil : WellFormed []
  | append {block rest : Transcript} : Block block → WellFormed rest → WellFormed (block ++ rest)

/-! ### Checking -/

/-- The requests that a turn leaves to be answered. -/
def pendingAfter (turn : Turn) : List ToolRequest :=
  if turn.asksForTools then turn.requests else []

/-- Check the turns from a position on, while the requests `pending` of the turn at `asker` are not
answered yet. -/
def checkFrom (index asker : Nat) (pending : List ToolRequest) :
    Transcript → Except LedgerFault Unit
  | [] =>
      match pending with
      | [] => .ok ()
      | request :: _ => .error (.missingResponse asker request.id)
  | turn :: turns =>
      match pending with
      | [] =>
          if turn.role = .tool then .error (.orphanTool index)
          else checkFrom (index + 1) index (pendingAfter turn) turns
      | request :: requests =>
          if turn.role = .tool then
            if turn.answers = some request.id then checkFrom (index + 1) asker requests turns
            else .error (.mismatchedResponse index request.id turn.answers)
          else .error (.missingResponse asker request.id)

/-- Check a transcript; the first violation is reported. -/
def check (turns : Transcript) : Except LedgerFault Unit :=
  checkFrom 0 0 [] turns

end Transcript

end Parley
