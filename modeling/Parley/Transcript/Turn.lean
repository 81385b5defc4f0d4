/-
Module: Parley.Transcript.Turn
Layer: Transcript
Purpose: Conversation turns.  An assistant turn may carry requests to run tools; each request is to
  be answered by one tool turn that names it.
Main exports: Role, ToolRequest, Turn, Turn.asksForTools, Turn.response, Transcript.numbered
-/

namespace Parley

/-- Who speaks in a turn. -/
inductive Role where
  | system
  | user
  | assistant
  | tool
deriving DecidableEq, Repr, Inhabited

/-- The name of a role. -/
def Role.name : Role → String
  | .system => "system"
  | .user => "user"
  | .assistant => "assistant"
  | .tool => "tool"

/-- A request of the model to run a named tool.  The arguments are the text the model wrote. -/
structure ToolRequest where
  id : String
  tool : String
  arguments : String
deriving DecidableEq, Repr, Inhabited

/-- One entry of a transcript.  The id is the position of the turn when it was last saved, and zero
before that. -/
structure Turn where
  id : UInt64
  role : Role
  content : String
  name : Option String
  requests : List ToolRequest
  /-- The id of the request that a tool turn answers. -/
  answers : Option String
deriving DecidableEq, Repr, Inhabited

namespace Turn

/-- A turn with nothing but a role and a text. -/
def plain (role : Role) (content : String) : Turn :=
  { id := 0, role := role, content := content, name := none, requests := [], answers := none }

/-- An assistant turn that requests tools. -/
def asking (content : String) (requests : List ToolRequest) : Turn :=
  { plain .assistant content with requests := requests }

/-- The tool turn that answers a request. -/
def response (request : ToolRequest) (content : String) : Turn :=
  { plain .tool content with name := some request.tool, answers := some request.id }

/-- Only an assistant turn with at least one request asks for tools; requests on other turns mean
nothing. -/
def asksForTools (turn : Turn) : Bool :=
  turn.role = .assistant && !turn.requests.isEmpty

end Turn

/-- A conversation, oldest turn first. -/
abbrev Transcript : Type := List Turn

/-- Number the turns from one. -/
def Transcript.numbered (turns : Transcript) : Transcript :=
  turns.zipIdx.map fun (turn, index) => { turn with id := UInt64.ofNat (index + 1) }

@[simp] theorem Transcript.length_numbered (turns : Transcript) :
    turns.numbered.length = turns.length := by
  simp [Transcript.numbered]

end Parley
