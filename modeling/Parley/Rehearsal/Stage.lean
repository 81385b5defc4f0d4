/-
Module: Parley.Rehearsal.Stage
Layer: Rehearsal
Purpose: Playing a script.  The stage keeps what has been said so far and writes down what is asked
  of it: the handlers that were run, the requests that the model answered, and a log.
Main exports: Rehearsal.Stage, Rehearsal.surroundings, Rehearsal.describe
-/
import Parley.Rehearsal.Script

namespace Parley.Rehearsal

/-- Where a rehearsal stands.  Lists of what happened have the latest first. -/
structure Stage where
  bans : Bans
  /-- The replies of the model that are left. -/
  cues : List Cue
  /-- The reply once there are none left. -/
  encore : Option Turn
  /-- The number of gates that are open. -/
  openGates : Nat
  /-- The replies that wait for a gate, by the ticket of who asked. -/
  held : List (Nat × Cue)
  /-- How often each handler was run. -/
  runs : Dictionary Nat
  /-- The handlers that were run, and their arguments. -/
  handled : List (String × Json.Object)
  log : List String
  /-- The requests that the model answered. -/
  sent : List ModelRequest

/-- The stage before anything has happened. -/
def Stage.ready (bans : Bans) (cues : List Cue) (encore : Option Turn) : Stage :=
  { bans := bans, cues := cues, encore := encore, openGates := 0, held := [], runs := []
    handled := [], log := [], sent := [] }

/-- A line for the log. -/
def Stage.note (stage : Stage) (line : String) : Stage :=
  { stage with log := line :: stage.log }

/-- A step of a rehearsal. -/
abbrev StageM : Type → Type := Outside Stage

/-- Ask the office. -/
def askOffice (question : OfficeQuestion) : StageM question.Answer :=
  StateT.lift (Program.query (I := officeInterface) question)

/-- Note a line in the log. -/
def note (line : String) : StageM Unit := modify fun stage => stage.note line

/-- Cancel the exchange of a session, if one is named, and note whether there was one. -/
def cancelFor : Option String → StageM Unit
  | none => pure ()
  | some session => do
      let found : Bool ← askOffice (.cancel session)
      note ("cancel " ++ session ++ ": " ++ (if found then "true" else "false"))

/-! ### Handlers -/

/-- The notes of layers, each as its written form.  A duration differs from run to run and is left
open. -/
def describeNotes (notes : Dictionary Json) : List (String × Json) :=
  notes.map fun (key, value) =>
    (key, .str (if key = Layer.durationNote then "<ms>" else value.render))

/-- A context as a value. -/
def describe (context : Context) : Json :=
  .obj
    [("intent_code", .str context.intent), ("metadata", .obj (describeNotes context.notes)),
      ("parameters", .str (Json.obj context.arguments).render),
      ("previous_results", .arr (context.earlier.map fun result => .str result.render)),
      ("session_id", .str context.session), ("user_message", .str context.message)]

mutual

/-- The result of a behaviour; `count` runs came before. -/
def Behaviour.result (context : Context) (count : Nat) : Behaviour → Except String Json
  | .echo => .ok (.obj context.arguments)
  | .value result => .ok result
  | .failure text => .error text
  | .context => .ok (describe context)
  | .inTurn behaviours => resultAt context count count behaviours

/-- The result of the behaviour in a place of a list, or of the last one if the list ends before. -/
def Behaviour.resultAt (context : Context) (count : Nat) :
    Nat → List Behaviour → Except String Json
  | _, [] => .ok (.obj context.arguments)
  | 0, behaviour :: _ => behaviour.result context count
  | _ + 1, [last] => last.result context count
  | place + 1, _ :: next :: behaviours => resultAt context count place (next :: behaviours)

end

/-- The name under which a run is written down. -/
def Behaviour.shownName (behaviour : Behaviour) (intent : Intent Part) (context : Context) :
    String :=
  match behaviour with
  | .context => context.intent
  | _ => intent.code

/-- Run a handler. -/
def runPart (intent : Intent Part) (context : Context) :
    StageM (Option (Except String Json)) := do
  let behaviour := intent.handler.behaviour
  let count := ((Dictionary.find? (← get).runs intent.code).getD 0)
  modify fun stage =>
    { stage with
      runs := Dictionary.insert intent.code (count + 1) stage.runs
      handled := (behaviour.shownName intent context, context.arguments) :: stage.handled }
  cancelFor intent.handler.cancels
  pure (some (behaviour.result context count))

/-! ### The model -/

/-- The reply to the ticket's request: the one that waits for a gate, or the next one. -/
def takeCue (ticket : Nat) : StageM (Option Cue) := do
  let stage := (← get)
  match stage.held.lookup ticket with
  | some cue =>
      modify fun stage => { stage with held := stage.held.filter fun entry => entry.1 ≠ ticket }
      pure (some cue)
  | none =>
      match stage.cues with
      | [] => pure none
      | cue :: cues =>
          modify fun stage => { stage with cues := cues }
          pure (some cue)

/-- Write down a request that was answered. -/
def recordSent (request : ModelRequest) : StageM Unit :=
  modify fun stage => { stage with sent := request :: stage.sent }

/-- What the model says when no reply is left. -/
def exhausted (request : ModelRequest) : StageM (Option (Except Fault Turn)) := do
  recordSent request
  match (← get).encore with
  | some turn => pure (some (.ok turn))
  | none => pure (some (.error (.model "scripted" "script exhausted")))

/-- Give a reply that waits for nothing any more. -/
def deliver (cue : Cue) (request : ModelRequest) : StageM (Option (Except Fault Turn)) := do
  cancelFor cue.cancels
  if cue.probes then
    let active : Nat ← askOffice .active
    note ("active sessions: " ++ active.repr)
  match cue.reply with
  | .error text => pure (some (.error (.model "driver" text)))
  | .ok turn =>
      recordSent request
      pure (some (.ok turn))

/-- The model's answer to a request, if there is one yet. -/
def reply (ticket : Nat) (request : ModelRequest) : StageM (Option (Except Fault Turn)) := do
  match ← takeCue ticket with
  | none => exhausted request
  | some cue =>
      if !cue.gated then deliver cue request
      else if (← get).openGates = 0 then
        modify fun stage => { stage with held := (ticket, cue) :: stage.held }
        pure none
      else
        modify fun stage => { stage with openGates := stage.openGates - 1 }
        deliver cue request

/-- The surroundings of a rehearsed office. -/
def surroundings : Surroundings Part stageInterface Stage where
  secure := fun _ user session message => do
    pure (some ((← get).bans.check user session message))
  complete := reply
  handle := fun _ intent context => runPart intent context
  host := fun _ line => do
    note line
    pure (some ())

/-- The last step of a call that is rehearsed without a toolset: it is noted, and then a part is
played for whatever intent the context names, each time as in its first run. -/
def lastStep (part : Part) : StageStep := fun context => do
  let () ← CallProgram.host (H := stageInterface) "terminal"
  let intent : Intent Part :=
    { code := context.intent
      description := []
      shape := .empty
      handler := { part with behaviour := part.behaviour.first } }
  Call.handlerStep intent context

end Parley.Rehearsal
