/-
Module: Parley.Event
Layer: Foundations
Purpose: What is reported while exchanges run, and the written form of a report: the name of the
  event first, then its members in declaration order.
Main exports: Event, Event.chars, Event.text
-/
import Parley.Json.Printer

namespace Parley

/-- Reports; each names the session it is about. -/
inductive Event where
  | transcriptSaved (session : String) (turns : Nat)
  | transcriptTruncated (session : String) (position removed : Nat)
  | toolCacheHit (session tool request : String)
  | toolRoundCompleted (session : String) (round requests invalid succeeded : Nat)
  | safetyFallback (session : String) (invalid : Nat)
  | loopExhausted (session : String) (rounds : Nat)
  | openingCompleted (session : String) (intents errors : Nat)
  | outputReprompted (session format : String)
deriving DecidableEq, Repr, Inhabited

namespace Event

/-- The written form of a report with the given name, session and further members. -/
def record (name session : String) (members : List (String × List Char)) : List Char :=
  Json.recordChars
    ([("event", Json.quoted name), ("session_id", Json.quoted session)] ++ members)

/-- The written form of a report. -/
def chars : Event → List Char
  | .transcriptSaved session turns =>
      record "TranscriptSaved" session [("turns", Json.natChars turns)]
  | .transcriptTruncated session position removed =>
      record "TranscriptTruncated" session
        [("position", Json.natChars position), ("removed", Json.natChars removed)]
  | .toolCacheHit session tool request =>
      record "ToolCacheHit" session
        [("function_name", Json.quoted tool), ("call_id", Json.quoted request)]
  | .toolRoundCompleted session round requests invalid succeeded =>
      record "ToolRoundCompleted" session
        [("round", Json.natChars round), ("requests", Json.natChars requests),
          ("invalid", Json.natChars invalid), ("succeeded", Json.natChars succeeded)]
  | .safetyFallback session invalid =>
      record "SafetyFallback" session [("invalid", Json.natChars invalid)]
  | .loopExhausted session rounds =>
      record "LoopExhausted" session [("rounds", Json.natChars rounds)]
  | .openingCompleted session intents errors =>
      record "BootstrapCompleted" session
        [("intents", Json.natChars intents), ("errors", Json.natChars errors)]
  | .outputReprompted session format =>
      record "OutputReprompted" session [("format", Json.quoted format)]

/-- The written form of a report as text. -/
def text (event : Event) : String := String.ofList event.chars

end Event

end Parley
