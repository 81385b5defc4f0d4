/-
Module: Parley.Settings.Written
Layer: Settings
Purpose: Settings as a value, with every section and every member.
Main exports: Settings.toJson
-/
import Parley.Settings.Basic

namespace Parley

/-- Text, or null where there is none. -/
def optionalText : Option String → Json
  | none => .null
  | some text => .str text

/-- How exchanges run, as a value. -/
def ExchangeSettings.toJson (settings : ExchangeSettings) : Json :=
  .obj
    [("fallback_message", .str settings.fallback),
      ("instructions", .arr (settings.instructions.map .str)),
      ("invalid_call_threshold", .int settings.invalidThreshold),
      ("max_tool_rounds", .int settings.maxRounds), ("output_format", .str settings.format.name)]

/-- The bounds of a compaction as a value. -/
def Limits.toJson (limits : Limits) : Json :=
  .obj
    [("max_array_items", .int limits.arrayItems), ("max_depth", .int limits.depth),
      ("max_object_keys", .int limits.objectKeys), ("max_payload_bytes", .int limits.payloadBytes),
      ("max_string_chars", .int limits.stringChars), ("preview_chars", .int limits.previewChars)]

/-- An opening call as a value. -/
def OpeningCall.toJson (call : OpeningCall) : Json :=
  .obj [("intent_code", .str call.intent), ("params", call.arguments)]

/-- An opening plan as a value. -/
def OpeningPlan.toJson (plan : OpeningPlan) : Json :=
  .obj
    [("failure_policy", .str plan.policy.name),
      ("intent_calls", .arr (plan.calls.map OpeningCall.toJson)), ("limits", plan.limits.toJson),
      ("require_session_id", .bool plan.requireSession)]

/-- How sessions are kept, as a value. -/
def SessionSettings.toJson (settings : SessionSettings) : Json :=
  .obj
    [("state_path", optionalText settings.path), ("storage", .str settings.storage.name),
      ("ttl_secs", .int settings.ttlSeconds)]

/-- What is logged, as a value. -/
def LogSettings.toJson (settings : LogSettings) : Json :=
  .obj [("log_filter", .str settings.filter), ("log_format", .str settings.format.name)]

/-- Settings as a value. -/
def Settings.toJson (settings : Settings) : Json :=
  .obj
    [("bootstrap", match settings.opening with
        | none => .null
        | some plan => plan.toJson),
      ("observability", settings.log.toJson), ("orchestrator", settings.exchange.toJson),
      ("sessions", settings.sessions.toJson)]

end Parley
