/-
Module: Parley.Fault
Layer: Foundations
Purpose: Why an operation on a session can fail, and the messages that say so.
Main exports: Fault, Fault.kind, Fault.message
-/
import Parley.Transcript.Protocol

namespace Parley

/-- Causes of failure. -/
inductive Fault where
  /-- The file system refused. -/
  | files
  /-- A stored text is not what it should be. -/
  | malformed
  | config (text : String)
  | storage (text : String)
  | model (name text : String)
  | security (text : String)
  | cancelled
  | invalidResponse (intent text : String)
  | intentFailed (intent text : String)
  | rejected (layer intent reason : String)
  | openingFailed (intent text : String)
  | loopExhausted (rounds : Nat)
  | ledger (text : String)
  | other (text : String)
deriving DecidableEq, Repr, Inhabited

namespace Fault

/-- The kind of a fault. -/
def kind : Fault → String
  | .files => "Io"
  | .malformed => "Json"
  | .config .. => "Config"
  | .storage .. => "Storage"
  | .model .. => "Model"
  | .security .. => "Security"
  | .cancelled => "Cancelled"
  | .invalidResponse .. => "InvalidResponse"
  | .intentFailed .. => "IntentFailed"
  | .rejected .. => "Rejected"
  | .openingFailed .. => "BootstrapFailed"
  | .loopExhausted .. => "LoopExhausted"
  | .ledger .. => "Ledger"
  | .other .. => "Other"

/-- The message of a fault. -/
def message : Fault → String
  | .files => "IO"
  | .malformed => "JSON"
  | .config text => "config: " ++ text
  | .storage text => "storage: " ++ text
  | .model name text => "model " ++ name ++ ": " ++ text
  | .security text => "security check rejected the message: " ++ text
  | .cancelled => "exchange cancelled"
  | .invalidResponse intent text =>
      "intent " ++ intent ++ " returned an inconsistent response: " ++ text
  | .intentFailed intent text => "intent " ++ intent ++ " failed: " ++ text
  | .rejected layer intent reason =>
      "middleware " ++ layer ++ " rejected intent " ++ intent ++ ": " ++ reason
  | .openingFailed intent text => "first-turn bootstrap failed on " ++ intent ++ ": " ++ text
  | .loopExhausted rounds =>
      "tool loop limit reached (" ++ rounds.repr ++ " rounds) without a final answer"
  | .ledger text => "ledger: " ++ text
  | .other text => text

/-- A transcript fault as the fault of an operation. -/
def ofLedger (fault : LedgerFault) : Fault := .ledger fault.message

end Fault

end Parley
