/-
Module: Parley.Intent.Context
Layer: Intent
Purpose: What a tool call shares with the layers around it, and the questions that running a call
  puts to its surroundings: the handlers themselves, admission under a rate limit, the clock, and
  whatever else the layers of an application want to ask.
Main exports: Context, RateLimit, CallQuestion, callInterface, CallProgram, Outcome, Step
-/
import Parley.Calendar.Duration
import Parley.Intent.CallError
import Parley.Intent.Toolset
import Parley.Program

namespace Parley

/-- What a call shares with the layers around it.  Layers may change it. -/
structure Context where
  session : String
  /-- The code of the intent, which layers may change as well. -/
  intent : String
  /-- The user message that the exchange answers. -/
  message : String
  /-- The arguments that the handler will receive. -/
  arguments : Json.Object
  /-- When the call began, in nanoseconds. -/
  startedAt : Int
  /-- Notes of the layers. -/
  notes : Dictionary Json
  /-- The results of the calls before this one. -/
  earlier : List Json

/-- A limit on the calls of a session within a window of time.  The number tells limits apart that
are equal otherwise. -/
structure RateLimit where
  number : Nat
  maxCalls : Nat
  window : Duration
  targets : List String
deriving DecidableEq, Repr, Inhabited

variable {η : Type} {H : Interface}

/-- What a call asks of its surroundings. -/
inductive CallQuestion (η : Type) (H : Interface) where
  /-- Run the handler of an intent. -/
  | handle (intent : Intent η) (context : Context)
  /-- Admit one more call of a session under a limit. -/
  | grant (limit : RateLimit) (session : String)
  /-- The time in nanoseconds. -/
  | clock
  /-- A question of the application's own layers. -/
  | host (question : H.Question)

/-- The type of the answer to a question. -/
def CallQuestion.Answer : CallQuestion η H → Type
  | .handle _ _ => Except String Json
  | .grant _ _ => Bool
  | .clock => Int
  | .host question => H.Answer question

/-- The questions of a call. -/
def callInterface (η : Type) (H : Interface) : Interface :=
  ⟨CallQuestion η H, CallQuestion.Answer⟩

/-- A computation inside a call. -/
abbrev CallProgram (η : Type) (H : Interface) : Type → Type :=
  Program (callInterface η H)

/-- How a call ends. -/
abbrev Outcome : Type := Except CallError Json

/-- A step of a call: from the context it finds to the outcome and the context it leaves. -/
abbrev Step (η : Type) (H : Interface) : Type :=
  Context → CallProgram η H (Outcome × Context)

namespace CallProgram

/-- Ask one question. -/
def ask (question : CallQuestion η H) : CallProgram η H question.Answer :=
  Program.query (I := callInterface η H) question

/-- The outcome of a handler. -/
def handle (intent : Intent η) (context : Context) : CallProgram η H (Except String Json) :=
  ask (.handle intent context)

/-- Whether a call is admitted. -/
def grant (limit : RateLimit) (session : String) : CallProgram η H Bool :=
  ask (.grant limit session)

/-- The time. -/
def clock : CallProgram η H Int := ask .clock

/-- The answer to a question of the application. -/
def host (question : H.Question) : CallProgram η H (H.Answer question) :=
  ask (.host question)

end CallProgram

end Parley
