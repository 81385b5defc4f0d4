/-
Module: Parley.Exchange.Loop
Layer: Exchange
Purpose: One exchange, from a user message to the answer.  The model is asked, the tools it requests
  are run and it is asked again, until it answers without tools.  Nothing of this is saved unless
  there is an answer; only the turns of an opening are saved as soon as they exist.
Main exports: Input, Reply, Exchange.Plan, Exchange.answer, Exchange.loop, Exchange.runWith,
  Exchange.run
-/
import Parley.Exchange.RequestIds
import Parley.Exchange.Responses
import Parley.Exchange.Round
import Parley.Exchange.SystemLines
import Parley.Opening.Run

namespace Parley

variable {η : Type}

/-- A user message. -/
structure Input where
  session : String
  user : Option String
  message : String
  /-- The codes of the intents that may be called; all of them if there is no list. -/
  subset : Option (List String)
deriving DecidableEq, Repr, Inhabited

/-- How an exchange ends. -/
structure Reply where
  text : String
  /-- The number of tool rounds. -/
  rounds : Nat
  /-- Whether the answer is the configured one, given since all calls were invalid. -/
  fallback : Bool
  /-- The length of the saved transcript. -/
  length : Nat
deriving DecidableEq, Repr, Inhabited

namespace Exchange

/-- What all exchanges have in common. -/
structure Plan (η : Type) where
  catalog : Catalog η
  settings : ExchangeSettings
  opening : Option OpeningPlan
  /-- What the reader of JSON says is wrong with a text that is not JSON. -/
  syntaxDetails : String → String

/-- What the requests of one exchange to the model have in common, apart from the transcript. -/
structure Frame (η : Type) where
  desk : Desk η
  settings : ExchangeSettings
  systemLines : List String

/-- A request to the model. -/
def Frame.request (frame : Frame η) (transcript : Transcript) (more : List String) :
    ModelRequest :=
  { transcript := transcript
    systemLines := frame.systemLines ++ more
    tools := frame.desk.tools.definitions }

/-- Save a complete transcript and return its last turn as the answer. -/
def finish (frame : Frame η) (turns : Transcript) (text : String) (rounds : Nat)
    (fallback : Bool) : ExchangeProgram wholeCalls Reply := do
  saveTurns frame.desk.session turns
  pure { text := text, rounds := rounds, fallback := fallback, length := turns.length }

/-- An answer in the required format: if the given one does not have it, the model is asked once
more.  A second answer that asks for tools is not taken. -/
def inFormat (frame : Frame η) (turns : Transcript) (reply : Turn) :
    ExchangeProgram wholeCalls Turn := do
  let format := frame.settings.format
  if format.accepts reply.content then pure reply
  else
    report (.outputReprompted frame.desk.session format.name)
    checkCancelled
    let retry ← complete (frame.request (turns ++ [reply]) [format.retryLine])
    pure (if retry.asksForTools then reply else retry)

/-- Whether all calls so far were invalid and there were too many of them. -/
def givesUp (settings : ExchangeSettings) (progress : Progress) : Bool :=
  settings.invalidThreshold ≤ progress.invalid && progress.succeeded = 0

/-- One tool round after `rounds - 1` others: the assistant turn and its responses. -/
def runRound (frame : Frame η) (rounds : Nat) (progress : Progress) (reply : Turn) :
    ExchangeProgram wholeCalls (Transcript × Progress) := do
  let requests := RequestIds.distinct rounds reply.requests
  let (responses, after) ← resolveAll frame.desk progress requests
  let answers := Responses.inOrder frame.desk.tools.names requests responses
  report (.toolRoundCompleted frame.desk.session rounds requests.length after.invalid
    after.succeeded)
  pure ({ reply with requests := requests } :: answers, after)

/-- End with an answer of the model. -/
def answer (frame : Frame η) (rounds : Nat) (turns : Transcript) (reply : Turn) :
    ExchangeProgram wholeCalls Reply := do
  let final ← inFormat frame turns reply
  finish frame (turns ++ [final]) final.content rounds false

/-- Ask the model and run the tools it requests until it answers; `left` more rounds may be run
after `rounds` rounds. -/
def loop (frame : Frame η) (rounds : Nat) (turns : Transcript) (progress : Progress) :
    (left : Nat) → ExchangeProgram wholeCalls Reply
  | 0 => do
      checkCancelled
      let reply ← complete (frame.request turns [])
      if reply.asksForTools then
        report (.loopExhausted frame.desk.session rounds)
        throw (.loopExhausted rounds)
      else answer frame rounds turns reply
  | left + 1 => do
      checkCancelled
      let reply ← complete (frame.request turns [])
      if reply.asksForTools then
        let (added, after) ← runRound frame (rounds + 1) progress reply
        if givesUp frame.settings after then
          report (.safetyFallback frame.desk.session after.invalid)
          let text := frame.settings.fallback
          finish frame (turns ++ added ++ [Turn.plain .assistant text]) text (rounds + 1) true
        else loop frame (rounds + 1) (turns ++ added) after left
      else answer frame rounds turns reply

/-- The transcript with which an exchange starts: the stored one, and the opening if there is one,
which is saved at once. -/
def openSession (plan : Plan η) (tools : Toolset η) (session : String) (stored : Transcript) :
    ExchangeProgram wholeCalls Transcript := do
  match plan.opening with
  | none => pure stored
  | some opening =>
      if opening.applies stored session then
        let added ← Opening.run opening tools session
        if added.isEmpty then pure stored
        else
          saveTurns session (stored ++ added)
          pure (stored ++ added)
      else pure stored

/-- One exchange, in which results of tool calls are reused or not. -/
def runWith (reuses : Bool) (plan : Plan η) (input : Input) :
    ExchangeProgram wholeCalls Reply := do
  secure input.user input.session input.message
  let stored ← load input.session
  let tools := plan.catalog.toolset input.subset
  let turns ← openSession plan tools input.session stored
  let notes ← loadNotes input.session
  let date ← today
  let frame : Frame η :=
    { desk :=
        { session := input.session, message := input.message, tools := tools, reuses := reuses }
      settings := plan.settings
      systemLines := systemLines plan.settings.instructions notes tools.names date }
  loop frame 0 (turns ++ [Turn.plain .user input.message]) .start plan.settings.maxRounds

/-- One exchange. -/
def run (plan : Plan η) (input : Input) : ExchangeProgram wholeCalls Reply :=
  runWith true plan input

end Exchange

end Parley
