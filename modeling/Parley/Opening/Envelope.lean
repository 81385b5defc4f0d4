/-
Module: Parley.Opening.Envelope
Layer: Opening
Purpose: The envelope in which the result of an opening call enters the transcript.  Its payload is
  compacted; if the text is still too long, a stub with a preview takes its place.
Main exports: Envelope.success, Envelope.failure, Envelope.fit
-/
import Parley.Opening.Compaction
import Parley.Intent.CallError

namespace Parley.Envelope

/-- Where opening results say they come from. -/
def source : String := "first_turn_bootstrap"

/-- A result in one line. -/
def summary : Json → String
  | .null => "no data"
  | .arr items => items.length.repr ++ " item(s)"
  | .obj fields => "record with " ++ fields.length.repr ++ " field(s)"
  | .str text => "text (" ++ text.toList.length.repr ++ " chars)"
  | other => other.render

/-- The envelope of a call that succeeded. -/
def success (intent : String) (data : Json) : Json :=
  .obj [("data", data), ("intentCode", .str intent), ("source", .str source),
    ("status", .str "SUCCESS"), ("summary", .str (summary data))]

/-- The envelope of a call that failed. -/
def failure (intent : String) (error : CallError) : Json :=
  .obj
    [("error", .obj [("code", .str error.code), ("message", .str error.message)]),
      ("intentCode", .str intent), ("source", .str source), ("status", .str "ERROR"),
      ("summary", .str (intent ++ " failed (" ++ error.code ++ ")"))]

/-- The fields of an envelope that hold what a call returned; all others are always kept. -/
def payloadKeys : List String := ["data", "error"]

/-- An envelope with its payload compacted. -/
def compacted (limits : Limits) : Json → Json
  | .obj fields =>
      .obj (fields.map fun (key, value) =>
        if payloadKeys.contains key then (key, value.compacted limits) else (key, value))
  | other => other

/-- A field of an envelope, null if it is not there. -/
def fieldOrNull (envelope : Json) (key : String) : Json :=
  (envelope.field? key).getD .null

/-- What stands for an envelope that is too long. -/
def stub (limits : Limits) (envelope : Json) : Json :=
  .obj
    [("intentCode", fieldOrNull envelope "intentCode"),
      ("preview", .str (Text.firstChars envelope.render limits.previewChars)),
      ("reason", .str "PAYLOAD_TOO_LARGE"), ("source", fieldOrNull envelope "source"),
      ("status", fieldOrNull envelope "status")]

/-- The text of an envelope within the limits. -/
def fit (limits : Limits) (envelope : Json) : String :=
  let text := (compacted limits envelope).render
  if text.utf8ByteSize ≤ limits.payloadBytes then text else (stub limits envelope).render

end Parley.Envelope
