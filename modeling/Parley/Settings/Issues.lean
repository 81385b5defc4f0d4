/-
Module: Parley.Settings.Issues
Layer: Settings
Purpose: What is wrong or doubtful about settings, in a fixed order.
Main exports: Issue, Issue.text, Settings.issues
-/
import Parley.Settings.Basic
import Parley.Text.Blank

namespace Parley

/-- How serious an issue is. -/
inductive Severity where
  | error
  | warning
deriving DecidableEq, Repr, Inhabited

/-- The name of a severity. -/
def Severity.name : Severity → String
  | .error => "error"
  | .warning => "warning"

/-- What stands before an issue of a severity. -/
def Severity.tag : Severity → String
  | .error => "ERROR"
  | .warning => "WARN"

/-- Something about one setting. -/
structure Issue where
  severity : Severity
  field : String
  message : String
deriving DecidableEq, Repr, Inhabited

/-- An issue in one line. -/
def Issue.text (issue : Issue) : String :=
  "[" ++ issue.severity.tag ++ "] " ++ issue.field ++ ": " ++ issue.message

/-- The issue, if the condition holds. -/
def Issue.when (condition : Bool) (severity : Severity) (field message : String) : List Issue :=
  if condition then [{ severity := severity, field := field, message := message }] else []

/-- Issues of the settings of exchanges. -/
def ExchangeSettings.issues (settings : ExchangeSettings) : List Issue :=
  Issue.when (settings.maxRounds = 0) .error "orchestrator.max_tool_rounds"
      "must be greater than 0" ++
    Issue.when (settings.invalidThreshold = 0) .error "orchestrator.invalid_call_threshold"
      "must be greater than 0" ++
    Issue.when (Text.isBlank settings.fallback) .error "orchestrator.fallback_message"
      "fallback message must not be empty"

/-- Issues of the opening call at an index. -/
def OpeningCall.issues (call : OpeningCall) (index : Nat) : List Issue :=
  let field := "bootstrap.intent_calls[" ++ index.repr ++ "]"
  Issue.when (Text.isBlank call.intent) .error (field ++ ".intent_code")
      "intent code must not be empty" ++
    Issue.when (call.arguments.kind ≠ .object) .error (field ++ ".params")
      "params must be a table"

/-- Issues of an opening plan. -/
def OpeningPlan.issues (plan : OpeningPlan) : List Issue :=
  Issue.when plan.calls.isEmpty .warning "bootstrap.intent_calls"
      "bootstrap is configured but lists no intents" ++
    (plan.calls.zipIdx.flatMap fun (call, index) => call.issues index) ++
    Issue.when (plan.limits.payloadBytes < plan.limits.previewChars) .warning
      "bootstrap.limits.preview_chars" "preview is larger than the payload budget"

/-- Issues of the settings of sessions. -/
def SessionSettings.issues (settings : SessionSettings) : List Issue :=
  Issue.when (settings.storage = .files && settings.path.isNone) .error "sessions.state_path"
    "jsonl storage requires a state_path"

/-- All issues. -/
def Settings.issues (settings : Settings) : List Issue :=
  settings.exchange.issues ++
    (match settings.opening with
      | none => []
      | some plan => plan.issues) ++
    settings.sessions.issues

end Parley
