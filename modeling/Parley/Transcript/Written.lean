/-
Module: Parley.Transcript.Written
Layer: Transcript
Purpose: The written form of turns: one JSON record a turn, one turn a line.  Reading passes over
  lines that are blank or are no turn, so a damaged line costs that line only.
Main exports: Turn.chars, Turn.text, Turn.ofText?, Transcript.lines, Transcript.ofLines
-/
import Parley.Transcript.Turn
import Parley.Json.Printer
import Parley.Json.Record
import Parley.Text.Blank

namespace Parley

open Json (Decoder)

/-- The names of roles as they are written. -/
def Role.names : List (String × Role) :=
  [("system", .system), ("user", .user), ("assistant", .assistant), ("tool", .tool)]

/-- The written form of a request. -/
def ToolRequest.chars (request : ToolRequest) : List Char :=
  Json.recordChars
    [("id", Json.quoted request.id), ("function_name", Json.quoted request.tool),
      ("raw_arguments", Json.quoted request.arguments)]

/-- Reads a request. -/
def ToolRequest.decoder : Decoder ToolRequest := fun depth document => do
  let members ← Json.members? .json ["id", "function_name", "raw_arguments"] depth document
  let id ← members.required "id" Decoder.text
  let tool ← members.required "function_name" Decoder.text
  let arguments ← members.required "raw_arguments" Decoder.text
  pure { id := id, tool := tool, arguments := arguments }

namespace Turn

/-- A member that is written only if it is there. -/
def optionalMember (name : String) : Option String → List (String × List Char)
  | none => []
  | some value => [(name, Json.quoted value)]

/-- The written form of a turn.  Members that are absent or empty are left out, the first three
apart. -/
def chars (turn : Turn) : List Char :=
  let requests := if turn.requests.isEmpty then []
    else [("tool_calls", Json.listChars (turn.requests.map ToolRequest.chars))]
  Json.recordChars
    ([("id", Json.natChars turn.id.toNat), ("role", Json.quoted turn.role.name),
        ("content", Json.quoted turn.content)] ++
      optionalMember "name" turn.name ++ requests ++
      optionalMember "tool_call_id" turn.answers)

/-- The written form of a turn as text. -/
def text (turn : Turn) : String := String.ofList turn.chars

/-- Reads a turn.  Only the role must be given. -/
def decoder : Decoder Turn := fun depth document => do
  let members ← Json.members? .json
    ["id", "role", "content", "name", "tool_calls", "tool_call_id"] depth document
  let id ← members.withDefault "id" 0 Decoder.natural
  let role ← members.required "role" (Decoder.choice .json Role.names)
  let content ← members.withDefault "content" "" Decoder.text
  let name ← members.withDefault "name" none (Decoder.optional Decoder.text)
  let requests ← members.withDefault "tool_calls" [] (Decoder.list ToolRequest.decoder)
  let answers ← members.withDefault "tool_call_id" none (Decoder.optional Decoder.text)
  pure
    { id := UInt64.ofNat id
      role := role
      content := content
      name := name
      requests := requests
      answers := answers }

/-- The turn a text spells. -/
def ofText? (text : String) : Option Turn := Json.decode? decoder text

end Turn

namespace Transcript

/-- The written form of a transcript: each turn on a line of its own. -/
def lines (turns : Transcript) : String :=
  String.ofList (turns.flatMap fun turn => turn.chars ++ ['\n'])

/-- A finished line, given last character first. -/
def endLine : List Char → List Char
  | '\r' :: rest => rest.reverse
  | line => line.reverse

/-- The lines of a text, each without its line end, which is a line feed or a carriage return and a
line feed.  A last line without line end counts if it is not empty. -/
def splitLines (text : List Char) : List (List Char) :=
  let (current, done) := text.foldl (fun (state : List Char × List (List Char)) c =>
    if c = '\n' then ([], endLine state.1 :: state.2) else (c :: state.1, state.2)) ([], [])
  (if current.isEmpty then done else current.reverse :: done).reverse

/-- The turn on a line, if there is one. -/
def turnOnLine? (line : List Char) : Option Turn :=
  if line.all Text.isSpace then none else Turn.ofText? (String.ofList line)

/-- The turns written on the lines of a text. -/
def ofLines (text : String) : Transcript :=
  (splitLines text.toList).filterMap turnOnLine?

end Transcript

end Parley
