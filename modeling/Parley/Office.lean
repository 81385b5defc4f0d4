/-
Module: Parley.Office
Layer: Office
Purpose: Many operations at once.  The office holds what they share: the locks and cancel tokens of
  the sessions, the store, the windows of the rate limits, the clock and the reports.  An operation
  waits for the permit of its session, then runs until it ends or asks the outside world something
  that has no answer yet, and goes on when it is polled again.  However it ends, by its result or by
  being abandoned, its token is forgotten and its permit given back.
Main exports: Office, Operation, Outside, Surroundings, Office.start, Office.poll, Office.abandon,
  Office.cancel, Office.play
-/
import Parley.Exchange.Deletion
import Parley.Exchange.Loop
import Parley.Intent.RateWindow
import Parley.Session.Backend
import Parley.Session.Cancellation
import Parley.Session.Locks

namespace Parley

/-- What may be asked of the office for a session, one operation at a time. -/
inductive Operation where
  | exchange (input : Input)
  | deletion (session : String) (position : Nat)
deriving DecidableEq, Inhabited

/-- The session of an operation. -/
def Operation.session : Operation → String
  | .exchange input => input.session
  | .deletion session _ => session

/-- The result of an operation. -/
inductive Result where
  | reply (reply : Reply)
  | turns (turns : Transcript)
deriving DecidableEq, Inhabited

variable {η : Type} {H : Interface} {σ α : Type}

/-- What is left of an operation that holds the permit of its session. -/
abbrev Work (η : Type) (H : Interface) : Type :=
  Program (Exchange.unfolded η H) (Except Fault Result)

/-- How far an operation has come. -/
inductive TaskStage (η : Type) (H : Interface) where
  /-- It has no permit yet. -/
  | waiting
  /-- It runs, under a cancel token if it is an exchange. -/
  | running (token : Option Nat) (work : Work η H)

/-- An operation that has not ended.  Its ticket is that of its claim on the session. -/
structure Task (η : Type) (H : Interface) where
  ticket : Nat
  operation : Operation
  stage : TaskStage η H

/-- What all operations share. -/
structure Office (η : Type) (H : Interface) where
  plan : Exchange.Plan η
  chain : Chain η H
  /-- The time to live of what is stored. -/
  ttl : Option Duration
  locks : LockTable
  cancels : CancelTable
  backend : Backend
  /-- The window of each rate limit. -/
  windows : List (RateLimit × RateWindow)
  /-- The time in nanoseconds. -/
  now : Int
  /-- The reports, latest first. -/
  reports : List Event
  tasks : List (Task η H)

/-- What those outside may ask of the office while they answer. -/
inductive OfficeQuestion where
  /-- Trip the token of the exchange that runs for a session; says whether there is one. -/
  | cancel (session : String)
  /-- The number of sessions with an operation running or waiting. -/
  | active
deriving DecidableEq

/-- The type of the answer to a question of those outside. -/
def OfficeQuestion.Answer : OfficeQuestion → Type
  | .cancel _ => Bool
  | .active => Nat

/-- The questions of those outside. -/
def officeInterface : Interface := ⟨OfficeQuestion, OfficeQuestion.Answer⟩

/-- A computation of those outside, on a state of their own. -/
abbrev Outside (σ : Type) : Type → Type := StateT σ (Program officeInterface)

/-- Who answers what the office cannot: the security gate, the model, the handlers and the
application's own layers. `none` means that there is no answer yet, and the ticket says who asks. -/
structure Surroundings (η : Type) (H : Interface) (σ : Type) where
  secure : Nat → Option String → String → String → Outside σ (Option (Except Fault Unit))
  complete : Nat → ModelRequest → Outside σ (Option (Except Fault Turn))
  handle : Nat → Intent η → Context → Outside σ (Option (Except String Json))
  host : Nat → (question : H.Question) → Outside σ (Option (H.Answer question))

namespace Office

/-- An office with nothing going on. -/
def new (plan : Exchange.Plan η) (chain : Chain η H) (ttl : Option Duration) (backend : Backend)
    (now : Int) : Office η H :=
  { plan := plan, chain := chain, ttl := ttl, locks := .empty, cancels := .empty, backend := backend
    windows := [], now := now, reports := [], tasks := [] }

/-- The backend that settings ask for.  A directory must be named, by a path that the file system
accepts. -/
def backendOf (settings : SessionSettings) : Except Fault Backend :=
  match settings.storage, settings.path with
  | .memory, _ => .ok (.memory .empty)
  | .files, none => .error (.config "sessions.storage = \"jsonl\" requires sessions.state_path")
  | .files, some path =>
      match Directory.atPath? path with
      | none => .error .files
      | some directory => .ok (.files directory)

/-- The plan of exchanges that settings ask for. -/
def planOf (details : String → String) (settings : Settings) (catalog : Catalog η) :
    Exchange.Plan η :=
  { catalog := catalog, settings := settings.exchange, opening := settings.opening
    syntaxDetails := details }

/-- The office that settings ask for. -/
def ofSettings (details : String → String) (settings : Settings) (catalog : Catalog η)
    (chain : Chain η H) (now : Int) : Except Fault (Office η H) :=
  (backendOf settings.sessions).map fun backend =>
    new (planOf details settings catalog) chain settings.sessions.ttl backend now

/-- The number of sessions with an operation running or waiting. -/
def active (office : Office η H) : Nat := office.locks.count

/-- Trip the token of the exchange that runs for a session; says whether there is one. -/
def cancel (office : Office η H) (session : String) : Bool × Office η H :=
  let (found, cancels) := office.cancels.cancel session
  (found, { office with cancels := cancels })

/-- The stored transcript of a session. -/
def transcript (office : Office η H) (session : String) :
    Except Fault Transcript × Office η H :=
  let (turns, backend) := office.backend.load session office.now
  (turns, { office with backend := backend })

/-- Replace the system messages of a session. -/
def setNotes (office : Office η H) (session : String) (messages : List String) :
    Except Fault Unit × Office η H :=
  let (done, backend) := office.backend.saveNotes session messages office.ttl office.now
  (done, { office with backend := backend })

/-! ### Answering -/

/-- The answer to a question of those outside. -/
def serve (question : OfficeQuestion) : StateM (Office η H) question.Answer := fun office =>
  match question with
  | .cancel session => office.cancel session
  | .active => (office.active, office)

/-- Let those outside answer. -/
def consult (outside : Outside σ α) : StateM (Office η H × σ) α := fun (office, state) =>
  let program := outside.run state
  let ((answer, state), office) := Program.run (I := officeInterface) serve program office
  (answer, office, state)

/-- Admit a call under a rate limit. -/
def grant (office : Office η H) (limit : RateLimit) (session : String) : Bool × Office η H :=
  let window := (office.windows.lookup limit).getD []
  let (granted, after) := RateWindow.grant limit office.now session window
  let others := office.windows.filter fun entry => entry.1 ≠ limit
  (granted, { office with windows := (limit, after) :: others })

/-- How the office itself answers a question of an operation that runs under a token; `none` if the
question is for those outside. -/
def inside? (token : Option Nat) :
    (question : ExchangeQuestion (callInterface η H)) →
      Option (StateM (Office η H) question.Answer)
  | .secure _ _ _ => none
  | .load session => some fun office => office.transcript session
  | .save session turns => some fun office =>
      let (done, backend) := office.backend.save session turns office.ttl office.now
      (done, { office with backend := backend })
  | .loadNotes session => some fun office =>
      let (messages, backend) := office.backend.loadNotes session office.now
      (messages, { office with backend := backend })
  | .report event => some fun office => ((), { office with reports := event :: office.reports })
  | .isCancelled => some fun office => (token.any office.cancels.isTripped, office)
  | .today => some fun office =>
      (CivilDate.ofEpochSeconds (Int.fdiv office.now 1000000000), office)
  | .complete _ => none
  | .call (.handle _ _) => none
  | .call (.grant limit session) => some fun office => office.grant limit session
  | .call .clock => some fun office => (office.now, office)
  | .call (.host _) => none

/-- The answer of the surroundings to a question of the operation with a ticket. -/
def outside (surroundings : Surroundings η H σ) (ticket : Nat) :
    (question : ExchangeQuestion (callInterface η H)) → Outside σ (Option question.Answer)
  | .secure user session message => surroundings.secure ticket user session message
  | .complete request => surroundings.complete ticket request
  | .call (.handle intent context) => surroundings.handle ticket intent context
  | .call (.host question) => surroundings.host ticket question
  | _ => pure none

/-- The answer of the office, or of its surroundings, to a question of the operation with a ticket,
which runs under a token. -/
def respond (surroundings : Surroundings η H σ) (ticket : Nat) (token : Option Nat)
    (question : ExchangeQuestion (callInterface η H)) :
    StateM (Office η H × σ) (Option question.Answer) :=
  match inside? token question with
  | some answer => fun (office, state) =>
      let (given, office) := answer office
      (some given, office, state)
  | none => consult (outside surroundings ticket question)

/-! ### Operations -/

/-- An exchange, its tool calls unfolded. -/
def exchange (plan : Exchange.Plan η) (chain : Chain η H) (input : Input) :
    ExchangeProgram (callInterface η H) Reply :=
  Exchange.unfold plan.syntaxDetails (plan.catalog.toolset input.subset) chain
    (Exchange.run plan input)

/-- The program of an operation. -/
def work (plan : Exchange.Plan η) (chain : Chain η H) : Operation → Work η H
  | .exchange input => (exchange plan chain input).run.bind fun reply => .done (reply.map .reply)
  | .deletion session position =>
      (Exchange.delete (C := callInterface η H) session position).run.bind fun turns =>
        .done (turns.map .turns)

/-- Register what an operation needs that has just got its permit. -/
def begin (office : Office η H) (operation : Operation) : TaskStage η H × Office η H :=
  match operation with
  | .exchange input =>
      let (token, cancels) := office.cancels.register input.session
      (.running (some token) (work office.plan office.chain operation),
        { office with cancels := cancels })
  | .deletion _ _ => (.running none (work office.plan office.chain operation), office)

/-- Give back what an operation holds that runs under a token. -/
def finish (office : Office η H) (ticket : Nat) (session : String) (token : Option Nat) :
    Office η H :=
  { office with
    cancels := if token.isSome then office.cancels.remove session else office.cancels
    locks := office.locks.release ticket }

/-- The task with a ticket. -/
def task? (office : Office η H) (ticket : Nat) : Option (Task η H) :=
  office.tasks.find? fun task => task.ticket = ticket

/-- Take a task off the list. -/
def dropTask (office : Office η H) (ticket : Nat) : Office η H :=
  { office with tasks := office.tasks.filter fun task => task.ticket ≠ ticket }

/-- Put a task in the place of the one with its ticket. -/
def putTask (office : Office η H) (task : Task η H) : Office η H :=
  { office with tasks := task :: (office.dropTask task.ticket).tasks }

/-- Start an operation: it takes the permit of its session or queues for it.  It does not run before
it is polled. -/
def start (office : Office η H) (operation : Operation) : Nat × Office η H :=
  let (ticket, locks) := office.locks.acquire operation.session
  (ticket,
    { office with locks := locks }.putTask
      { ticket := ticket, operation := operation, stage := .waiting })

/-- Let a task begin that waits for its permit, if it has got it. -/
def callIn (office : Office η H) (ticket : Nat) : Office η H :=
  match office.task? ticket with
  | none => office
  | some task =>
      match task.stage with
      | .running _ _ => office
      | .waiting =>
          let (held, locks) := office.locks.poll ticket
          let office := { office with locks := locks }
          if held then
            let (stage, office) := office.begin task.operation
            office.putTask { task with stage := stage }
          else office

/-- End a task that has run to its end under a token. -/
def conclude (office : Office η H) (task : Task η H) (token : Option Nat) : Office η H :=
  (office.finish task.ticket task.operation.session token).dropTask task.ticket

/-- What is left of the work of a task when it has run as far as it goes, and the office then. -/
def leftOver (surroundings : Surroundings η H σ) (task : Task η H) (token : Option Nat)
    (work : Work η H) (office : Office η H) (outside : σ) : Work η H × Office η H × σ :=
  Program.advance (I := Exchange.unfolded η H) (respond surroundings task.ticket token) work
    (office, outside)

/-- Run a running task as far as it goes; the result, if it ends. -/
def advance (surroundings : Surroundings η H σ) (task : Task η H) (token : Option Nat)
    (work : Work η H) : StateM (Office η H × σ) (Option (Except Fault Result)) :=
  fun (office, outside) =>
    let ended := leftOver surroundings task token work office outside
    match ended.1 with
    | .done result => (some result, ended.2.1.conclude task token, ended.2.2)
    | paused => (none, ended.2.1.putTask { task with stage := .running token paused }, ended.2.2)

/-- Look after a task: one that waits for its permit begins if it has got it, and one that runs goes
on.  The result, if the task ends; `none` too if there is no such task. -/
def poll (surroundings : Surroundings η H σ) (ticket : Nat) :
    StateM (Office η H × σ) (Option (Except Fault Result)) := fun (office, outside) =>
  let office := office.callIn ticket
  match office.task? ticket with
  | none => (none, office, outside)
  | some task =>
      match task.stage with
      | .running token work => advance surroundings task token work (office, outside)
      | .waiting => (none, office, outside)

/-- Abandon a task wherever it is; says whether there was one. -/
def abandon (office : Office η H) (ticket : Nat) : Bool × Office η H :=
  match office.task? ticket with
  | none => (false, office)
  | some task =>
      let office := office.dropTask ticket
      match task.stage with
      | .waiting => (true, { office with locks := office.locks.abandon ticket })
      | .running token _ => (true, office.finish ticket task.operation.session token)

/-- Run a program on its own, outside any operation; `none` if it cannot go on. -/
def play (surroundings : Surroundings η H σ) (token : Option Nat)
    (program : Program (Exchange.unfolded η H) α) : StateM (Office η H × σ) (Option α) :=
  fun state =>
    let answers := respond surroundings 0 token
    let (left, after) := Program.advance (I := Exchange.unfolded η H) answers program state
    match left with
    | .done result => (some result, after)
    | .ask _ _ => (none, after)

end Office

end Parley
