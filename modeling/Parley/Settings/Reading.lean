/-
Module: Parley.Settings.Reading
Layer: Settings
Purpose: Reading settings off a document.  Every section and every member has a default, the code of
  an opening call apart, so the empty record stands for the standard settings.  The same decoders
  serve every written format, given its dialect.
Main exports: Settings.decoder, Settings.ofJson?, Settings.ofToml?
-/
import Parley.Json.Record
import Parley.Settings.Basic
import Parley.Toml.Lines

namespace Parley

open Json (Decoder Dialect)

/-- The failure policies by name. -/
def FailurePolicy.names : List (String × FailurePolicy) :=
  [("best_effort", .bestEffort), ("strict", .strict)]

/-- The storage kinds by name. -/
def StorageKind.names : List (String × StorageKind) :=
  [("memory", .memory), ("jsonl", .files)]

/-- The log formats by name. -/
def LogFormat.names : List (String × LogFormat) :=
  [("json", .json), ("pretty", .pretty)]

/-- Reads how exchanges run. -/
def ExchangeSettings.decoder (dialect : Dialect) : Decoder ExchangeSettings :=
  fun depth document => do
    let standard := ExchangeSettings.standard
    let members ← Json.members? dialect
      ["max_tool_rounds", "invalid_call_threshold", "fallback_message", "instructions",
        "output_format"] depth document
    let rounds ← members.withDefault "max_tool_rounds" standard.maxRounds Decoder.natural
    let threshold ←
      members.withDefault "invalid_call_threshold" standard.invalidThreshold Decoder.natural
    let fallback ← members.withDefault "fallback_message" standard.fallback Decoder.text
    let instructions ←
      members.withDefault "instructions" standard.instructions (Decoder.list Decoder.text)
    let format ← members.withDefault "output_format" standard.format
      (Decoder.choice dialect ReplyFormat.names)
    pure
      { maxRounds := rounds
        invalidThreshold := threshold
        fallback := fallback
        instructions := instructions
        format := format }

/-- Reads the bounds of a compaction. -/
def Limits.decoder (dialect : Dialect) : Decoder Limits := fun depth document => do
  let standard := Limits.standard
  let members ← Json.members? dialect
    ["max_depth", "max_array_items", "max_object_keys", "max_string_chars", "max_payload_bytes",
      "preview_chars"] depth document
  let levels ← members.withDefault "max_depth" standard.depth Decoder.natural
  let items ← members.withDefault "max_array_items" standard.arrayItems Decoder.natural
  let keys ← members.withDefault "max_object_keys" standard.objectKeys Decoder.natural
  let chars ← members.withDefault "max_string_chars" standard.stringChars Decoder.natural
  let bytes ← members.withDefault "max_payload_bytes" standard.payloadBytes Decoder.natural
  let preview ← members.withDefault "preview_chars" standard.previewChars Decoder.natural
  pure
    { depth := levels
      arrayItems := items
      objectKeys := keys
      stringChars := chars
      payloadBytes := bytes
      previewChars := preview }

/-- Reads an opening call.  Its arguments may have any form; where none are given they are the empty
record. -/
def OpeningCall.decoder (dialect : Dialect) : Decoder OpeningCall := fun depth document => do
  let members ← Json.members? dialect ["intent_code", "params"] depth document
  let intent ← members.required "intent_code" Decoder.text
  let arguments ← members.withDefault "params" (Json.obj []) Decoder.free
  pure { intent := intent, arguments := arguments }

/-- Reads an opening plan. -/
def OpeningPlan.decoder (dialect : Dialect) : Decoder OpeningPlan := fun depth document => do
  let standard := OpeningPlan.standard
  let members ← Json.members? dialect
    ["intent_calls", "failure_policy", "require_session_id", "limits"] depth document
  let calls ← members.withDefault "intent_calls" standard.calls
    (Decoder.list (OpeningCall.decoder dialect))
  let policy ← members.withDefault "failure_policy" standard.policy
    (Decoder.choice dialect FailurePolicy.names)
  let requireSession ←
    members.withDefault "require_session_id" standard.requireSession Decoder.bool
  let limits ← members.withDefault "limits" standard.limits (Limits.decoder dialect)
  pure { calls := calls, policy := policy, requireSession := requireSession, limits := limits }

/-- Reads how sessions are kept. -/
def SessionSettings.decoder (dialect : Dialect) : Decoder SessionSettings :=
  fun depth document => do
    let standard := SessionSettings.standard
    let members ← Json.members? dialect ["storage", "state_path", "ttl_secs"] depth document
    let storage ← members.withDefault "storage" standard.storage
      (Decoder.choice dialect StorageKind.names)
    let path ← members.withDefault "state_path" standard.path (Decoder.optional Decoder.text)
    let ttl ← members.withDefault "ttl_secs" standard.ttlSeconds Decoder.natural
    pure { storage := storage, path := path, ttlSeconds := ttl }

/-- Reads what is logged. -/
def LogSettings.decoder (dialect : Dialect) : Decoder LogSettings := fun depth document => do
  let standard := LogSettings.standard
  let members ← Json.members? dialect ["log_format", "log_filter"] depth document
  let format ← members.withDefault "log_format" standard.format
    (Decoder.choice dialect LogFormat.names)
  let filter ← members.withDefault "log_filter" standard.filter Decoder.text
  pure { format := format, filter := filter }

namespace Settings

/-- Reads settings. -/
def decoder (dialect : Dialect) : Decoder Settings := fun depth document => do
  let members ← Json.members? dialect ["orchestrator", "bootstrap", "sessions", "observability"]
    depth document
  let exchange ← members.withDefault "orchestrator" ExchangeSettings.standard
    (ExchangeSettings.decoder dialect)
  let opening ← members.withDefault "bootstrap" none
    (Decoder.optional (OpeningPlan.decoder dialect))
  let sessions ← members.withDefault "sessions" SessionSettings.standard
    (SessionSettings.decoder dialect)
  let log ← members.withDefault "observability" LogSettings.standard (LogSettings.decoder dialect)
  pure { exchange := exchange, opening := opening, sessions := sessions, log := log }

/-- The settings that a JSON text spells. -/
def ofJson? (text : String) : Option Settings := Json.decode? (decoder .json) text

/-- The settings that a configuration text spells.  Its depth is not limited further: each list and
each table takes a character. -/
def ofToml? (text : String) : Option Settings :=
  (Toml.parse? text).bind (decoder Toml.dialect (text.length + 1))

end Settings

end Parley
