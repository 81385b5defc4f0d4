/-
Module: Parley.Rehearsal.Script
Layer: Rehearsal
Purpose: Stand-ins for handlers, layers, model and security gate that are written down as data, so
  that exchanges can be rehearsed without the real ones.
Main exports: Rehearsal.Behaviour, Rehearsal.Part, Rehearsal.Action, Rehearsal.layer,
  Rehearsal.Cue, Rehearsal.Bans
-/
import Parley.Office

namespace Parley.Rehearsal

/-- What a handler does. -/
inductive Behaviour where
  /-- Returns its arguments. -/
  | echo
  | value (result : Json)
  | failure (text : String)
  /-- Behaves in the run of a number as the behaviour in that place of a list, and in all runs after
  these as the last.  A list inside the list goes by the number of the same run. -/
  | inTurn (behaviours : List Behaviour)
  /-- Returns the context that it sees. -/
  | context

/-- What a behaviour does in its first run, now done in every run. -/
def Behaviour.first : Behaviour → Behaviour
  | .inTurn (behaviour :: _) => behaviour.first
  | other => other

/-- A handler: what it does, and the session whose exchange it cancels first. -/
structure Part where
  behaviour : Behaviour
  cancels : Option String

/-- The layers of a rehearsal may ask for a line to be noted in the log. -/
def stageInterface : Interface := ⟨String, fun _ => Unit⟩

/-- An office for rehearsals. -/
abbrev StageOffice : Type := Office Part stageInterface

/-- What is said in a rehearsal of a text that is not JSON. -/
def syntaxDetails : String → String := fun _ => "<json>"

/-- A layer for rehearsals. -/
abbrev StageLayer : Type := Layer Part stageInterface

/-- A step inside a rehearsed call. -/
abbrev StageStep : Type := Step Part stageInterface

/-- What a layer may do, one after another. -/
inductive Action where
  /-- Note a line in the log. -/
  | note (text : String)
  | setArgument (key : String) (value : Json)
  | dropArgument (key : String)
  | setNote (key : String) (value : Json)
  | setIntent (code : String)
  /-- Run the rest of the chain and keep its outcome. -/
  | next
  /-- Return at once that the call is rejected. -/
  | deny (reason : String)
  /-- Return at once that there is no such tool. -/
  | raiseNotFound
  /-- Return a value at once. -/
  | give (value : Json)
  /-- Put a kept value under a key of a record. -/
  | wrap (key : String)
  /-- Put a value in the place of a kept error. -/
  | recover (value : Json)

/-- Do a list of actions for the layer with a name, given the rest of the chain and the outcome kept
so far. -/
def perform (name : String) (rest : StageStep) : List Action → Outcome → StageStep
  | [], kept, context => pure (kept, context)
  | .note text :: actions, kept, context => do
      let () ← CallProgram.host (H := stageInterface) text
      perform name rest actions kept context
  | .setArgument key value :: actions, kept, context =>
      perform name rest actions kept
        { context with arguments := Dictionary.insert key value context.arguments }
  | .dropArgument key :: actions, kept, context =>
      perform name rest actions kept
        { context with arguments := Dictionary.erase context.arguments key }
  | .setNote key value :: actions, kept, context =>
      perform name rest actions kept
        { context with notes := Dictionary.insert key value context.notes }
  | .setIntent code :: actions, kept, context =>
      perform name rest actions kept { context with intent := code }
  | .next :: actions, _, context => do
      let (kept, after) ← rest context
      perform name rest actions kept after
  | .deny reason :: _, _, context =>
      pure (.error (.rejected name context.intent reason), context)
  | .raiseNotFound :: _, _, context => pure (.error (.toolNotFound context.intent), context)
  | .give value :: _, _, context => pure (.ok value, context)
  | .wrap key :: actions, kept, context =>
      perform name rest actions (kept.map fun value => .obj [(key, value)]) context
  | .recover value :: actions, kept, context =>
      let kept := match kept with
        | .ok result => .ok result
        | .error _ => .ok value
      perform name rest actions kept context

/-- A layer that does a list of actions; without any it returns null. -/
def layer (name : String) (priority : Int) (targets : List String) (actions : List Action) :
    StageLayer :=
  { name := name
    priority := priority
    targets := targets
    handle := fun rest context => perform name rest actions (.ok .null) context }

/-- One reply of the model. -/
structure Cue where
  /-- The turn, or the text of an error. -/
  reply : Except String Turn
  /-- Whether the reply waits until a gate is opened for it. -/
  gated : Bool
  /-- The session whose exchange is cancelled first. -/
  cancels : Option String
  /-- Whether the number of active sessions is noted. -/
  probes : Bool

/-- What the security gate refuses. -/
structure Bans where
  user : Option String
  session : Option String
  text : Option String
deriving DecidableEq, Inhabited

/-- The verdict of the security gate: the user counts first, then the session, then the message. -/
def Bans.check (bans : Bans) (user : Option String) (session message : String) :
    Except Fault Unit :=
  if bans.user.isSome && bans.user = user then
    .error (.security ("user " ++ user.getD "" ++ " is blocked"))
  else if bans.session = some session then
    .error (.security ("session " ++ session ++ " is blocked"))
  else if bans.text.any fun text => Text.somewhere
      (fun rest => (Text.after? text.toList rest).isSome) message.toList then
    .error (.security "message is blocked")
  else .ok ()

end Parley.Rehearsal
