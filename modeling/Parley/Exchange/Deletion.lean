/-
Module: Parley.Exchange.Deletion
Layer: Exchange
Purpose: Deleting a message: the transcript is cut at its position and saved.
Main exports: Exchange.delete
-/
import Parley.Exchange.Interface
import Parley.Transcript.Cut

namespace Parley.Exchange

variable {C : Interface}

/-- Cut the transcript of a session at a position, counted from one; the transcript that is stored
afterwards is the result. -/
def delete (session : String) (position : Nat) : ExchangeProgram C Transcript := do
  let turns ← load session
  match turns.cutAt position with
  | .error fault => throw (Fault.ofLedger fault)
  | .ok (kept, removed) =>
      saveTurns session kept
      report (.transcriptTruncated session position removed)
      load session

end Parley.Exchange
