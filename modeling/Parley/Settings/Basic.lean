/-
Module: Parley.Settings.Basic
Layer: Settings
Purpose: What can be configured, with the values that hold where nothing is.
Main exports: Settings, ExchangeSettings, OpeningPlan, OpeningCall, SessionSettings, LogSettings
-/
import Parley.Calendar.Duration
import Parley.Opening.Compaction
import Parley.Reply.Format

namespace Parley

/-- How exchanges run. -/
structure ExchangeSettings where
  /-- The greatest number of tool rounds. -/
  maxRounds : Nat
  /-- The number of invalid calls, none having succeeded, that ends an exchange early. -/
  invalidThreshold : Nat
  /-- The answer given when an exchange is ended early. -/
  fallback : String
  instructions : List String
  format : ReplyFormat
deriving DecidableEq, Repr

/-- How exchanges run where nothing is configured. -/
def ExchangeSettings.standard : ExchangeSettings :=
  { maxRounds := 10
    invalidThreshold := 2
    fallback := "I'm sorry, I wasn't able to complete that request with the tools available. " ++
      "Could you rephrase it or give me a bit more detail?"
    instructions := []
    format := .text }

instance : Inhabited ExchangeSettings := ⟨ExchangeSettings.standard⟩

/-- A call made before the first user message of a session. -/
structure OpeningCall where
  intent : String
  arguments : Json

/-- What a failing opening call does. -/
inductive FailurePolicy where
  /-- The failure is reported in the transcript. -/
  | bestEffort
  /-- The failure ends the exchange. -/
  | strict
deriving DecidableEq, Repr, Inhabited

/-- The calls made before the first user message of a session. -/
structure OpeningPlan where
  calls : List OpeningCall
  policy : FailurePolicy
  /-- Whether a session with a blank id has no opening. -/
  requireSession : Bool
  limits : Limits

/-- The plan without calls. -/
def OpeningPlan.standard : OpeningPlan :=
  { calls := [], policy := .bestEffort, requireSession := false, limits := .standard }

instance : Inhabited OpeningPlan := ⟨OpeningPlan.standard⟩

/-- Where sessions are kept. -/
inductive StorageKind where
  | memory
  | files
deriving DecidableEq, Repr, Inhabited

/-- The name of a storage kind. -/
def StorageKind.name : StorageKind → String
  | .memory => "memory"
  | .files => "jsonl"

/-- How sessions are kept.  A time to live of zero seconds means for ever. -/
structure SessionSettings where
  storage : StorageKind
  path : Option String
  ttlSeconds : Nat
deriving DecidableEq, Repr

/-- How sessions are kept where nothing is configured: in memory, for a day. -/
def SessionSettings.standard : SessionSettings :=
  { storage := .memory, path := none, ttlSeconds := 86400 }

instance : Inhabited SessionSettings := ⟨SessionSettings.standard⟩

/-- The time to live, if there is one. -/
def SessionSettings.ttl (settings : SessionSettings) : Option Duration :=
  if 0 < settings.ttlSeconds then some (.ofSeconds settings.ttlSeconds) else none

/-- How log lines are written. -/
inductive LogFormat where
  | json
  | pretty
deriving DecidableEq, Repr, Inhabited

/-- The name of a log format. -/
def LogFormat.name : LogFormat → String
  | .json => "json"
  | .pretty => "pretty"

/-- What is logged and how. -/
structure LogSettings where
  format : LogFormat
  filter : String
deriving DecidableEq, Repr

/-- What is logged where nothing is configured. -/
def LogSettings.standard : LogSettings :=
  { format := .json, filter := "info,sb_runtime=debug" }

instance : Inhabited LogSettings := ⟨LogSettings.standard⟩

/-- Everything that can be configured. -/
structure Settings where
  exchange : ExchangeSettings
  /-- Without a plan there is no opening. -/
  opening : Option OpeningPlan
  sessions : SessionSettings
  log : LogSettings
deriving Inhabited

/-- The settings where nothing is configured. -/
def Settings.standard : Settings :=
  { exchange := .standard, opening := none, sessions := .standard, log := .standard }

/-- The name of a failure policy. -/
def FailurePolicy.name : FailurePolicy → String
  | .bestEffort => "best_effort"
  | .strict => "strict"

end Parley
