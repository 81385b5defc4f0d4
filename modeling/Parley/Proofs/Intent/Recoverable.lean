/-
Module: Parley.Proofs.Intent.Recoverable
Layer: Proofs
Purpose: Which failures of a call the model may correct: those that come before anything is done.  A
  call that names no tool, or whose arguments are not accepted, fails at once with such an error and
  asks nothing of its surroundings.  Once the layers run, no such error comes out, whatever the
  handler does, as long as no layer makes one up.
Main exports: Call.Unfit, Step.Firm, Layer.Innocent, Wrapper.NeverOriginates, Layer.Plain,
  Call.recoverable_before_layers
-/
import Parley.Proofs.Intent.Nesting

namespace Parley

open Program (Asked Runs Expands runs_bind_iff runs_bind_done_iff runs_embed_iff)

variable {η : Type} {H : Interface}

/-! ### Before the layers -/

/-- Every error that the taking of fields ends in is one that the model may correct. -/
theorem takeFields_recoverable {intent : String} {given taken : Json.Object} {fields : List Field}
    {error : CallError} (rejects : takeFields intent given taken fields = .error error) :
    error.isRecoverable = true := by
  induction fields generalizing given taken with
  | nil => contradiction
  | cons field fields ih =>
      rw [takeFields] at rejects
      split at rejects
      · split at rejects
        · cases rejects
          rfl
        · exact ih rejects
      · split at rejects
        · exact ih rejects
        · cases rejects
          rw [Field.refusal]
          split <;> rfl

/-- So is every error that the acceptance of arguments ends in, whatever fields are declared. -/
theorem Shape.accept_recoverable {details : String → String} {shape : Shape}
    {intent arguments : String} {error : CallError}
    (rejects : shape.accept details intent arguments = .error error) :
    error.isRecoverable = true := by
  rw [Shape.accept] at rejects
  split at rejects
  · cases rejects
    rfl
  · exact takeFields_recoverable rejects
  · cases rejects
    rfl

/-- A call that is not fit to be run, and the error that says why. -/
inductive Call.Unfit (details : String → String) (tools : Toolset η) (call : Call) :
    CallError → Prop where
  | unknown : tools.find? call.tool = none → Unfit details tools call (.toolNotFound call.tool)
  | rejected {intent : Intent η} {error : CallError} : tools.find? call.tool = some intent →
      intent.shape.accept details intent.code call.arguments = .error error →
      Unfit details tools call error

namespace Call.Unfit

variable {details : String → String} {tools : Toolset η} {call : Call} {error : CallError}

theorem recoverable (unfit : call.Unfit details tools error) : error.isRecoverable = true := by
  cases unfit with
  | unknown => rfl
  | rejected _ rejects => exact Shape.accept_recoverable rejects

/-- Such a call fails at once, whatever the layers are. -/
theorem run_eq (unfit : call.Unfit details tools error) (chain : Chain η H) :
    Call.run details tools chain call = pure (.error error) := by
  cases unfit with
  | unknown none => rw [Call.run, none]
  | rejected found rejects =>
      rw [Call.run, found]
      dsimp only
      rw [rejects]

end Call.Unfit

/-! ### Within the layers -/

/-- A step ends in no error that the model may correct. -/
def Step.Firm (step : Step η H) : Prop :=
  ∀ context log error after, Runs (step context) log (.error error, after) →
    error.isRecoverable = false

/-- A layer ends in no such error if the rest of the chain does not. -/
def Layer.Innocent (layer : Layer η H) : Prop :=
  ∀ next : Step η H, next.Firm → Step.Firm (layer.handle next)

/-- Whenever a wrapper returns an error that the model may correct, it has received it from the rest
of the chain. -/
def Wrapper.NeverOriginates (wrapper : Wrapper η H) : Prop :=
  ∀ context own error after, Runs (wrapper.body context) own (.error error, after) →
    error.isRecoverable = true →
      ∃ given received, (given, received) ∈ Wrapper.rests own ∧ received.1 = .error error

/-- Layers that make up no errors which the model may correct: the built-in ones, and others that
only pass such errors on. -/
inductive Layer.Plain : Layer η H → Prop where
  | logging : Plain Layer.logging
  | rateLimit (limit : RateLimit) : Plain (Layer.rateLimit limit)
  | wrapper {wrapper : Wrapper η H} : wrapper.NeverOriginates → Plain wrapper.layer

namespace Layer

theorem innocent_logging : Innocent (logging : Layer η H) := by
  intro next firm context log error after runs
  obtain ⟨first, ⟨outcome, between⟩, second, rfl, inside, noted⟩ := runs_bind_iff.1 runs
  obtain ⟨now, -, same⟩ := runs_bind_done_iff.1 noted
  cases same
  exact firm _ _ _ _ inside

theorem innocent_rateLimit (limit : RateLimit) : Innocent (rateLimit limit : Layer η H) := by
  intro next firm context log error after runs
  obtain ⟨_, granted, rest, rfl, -, goesOn⟩ := runs_bind_iff.1 runs
  cases (granted : Bool) with
  | true => exact firm _ _ _ _ goesOn
  | false =>
      cases goesOn
      rfl

/-- What a wrapper has received from the rest of the chain is a result of the rest. -/
theorem runs_of_mem_rests {next : Step η H} {own : List (Asked (wrapperInterface η H))}
    {log : List (Asked (callInterface η H))}
    (expands : Expands (WrapperQuestion.meaning next) own log) {given : Context}
    {received : Outcome × Context} (member : (given, received) ∈ Wrapper.rests own) :
    ∃ part, Runs (next given) part received := by
  induction expands with
  | nil => contradiction
  | @cons question answer part _ _ ran _ ih =>
      cases question with
      | own question => exact ih member
      | rest context =>
          rcases List.mem_cons.1 member with same | later
          · cases same
            exact ⟨part, ran⟩
          · exact ih later

theorem innocent_wrapper {wrapper : Wrapper η H} (never : wrapper.NeverOriginates) :
    Innocent wrapper.layer := by
  intro next firm context log error after runs
  obtain ⟨own, body, expands⟩ := runs_embed_iff.1 runs
  cases recoverable : error.isRecoverable with
  | false => rfl
  | true =>
      obtain ⟨given, ⟨outcome, left⟩, member, rfl⟩ := never _ _ _ _ body recoverable
      obtain ⟨part, ran⟩ := runs_of_mem_rests expands member
      exact recoverable.symm.trans (firm _ _ _ _ ran)

theorem Plain.innocent {layer : Layer η H} (plain : layer.Plain) : layer.Innocent := by
  cases plain with
  | logging => exact innocent_logging
  | rateLimit limit => exact innocent_rateLimit limit
  | wrapper never => exact innocent_wrapper never

end Layer

/-- Innocent layers around a firm step make a firm step. -/
theorem Chain.firm_around {layers : Chain η H} {last : Step η H}
    (innocent : ∀ layer ∈ layers, layer.Innocent) (firm : last.Firm) :
    Step.Firm (Chain.around layers last) := by
  induction layers with
  | nil => exact firm
  | cons layer inner ih =>
      obtain ⟨first, others⟩ := List.forall_mem_cons.1 innocent
      exact first _ (ih others)

/-- A handler may fail, but not so that the model may correct it. -/
theorem Call.firm_handlerStep (intent : Intent η) :
    Step.Firm (Call.handlerStep intent : Step η H) := by
  intro context log error after runs
  obtain ⟨_, outcome, rest, rfl, -, ends⟩ := runs_bind_iff.1 runs
  cases (outcome : Except String Json) with
  | ok result => cases ends
  | error text =>
      cases ends
      rfl

namespace Agreement

variable {intent : String} {arguments : Json.Object} {error : CallError}

theorem checkRecord_firm {record : Json.Object} {item : Option Nat}
    (disagrees : checkRecord intent arguments record item = .error error) :
    error.isRecoverable = false := by
  rw [checkRecord] at disagrees
  split at disagrees
  · contradiction
  · cases disagrees
    rfl

theorem checkItems_firm {index : Nat} {items : List Json}
    (disagrees : checkItems intent arguments index items = .error error) :
    error.isRecoverable = false := by
  induction items generalizing index with
  | nil => contradiction
  | cons item items ih =>
      cases item with
      | obj record =>
          rw [checkItems] at disagrees
          split at disagrees
          · exact ih disagrees
          · next fails =>
              cases disagrees
              exact checkRecord_firm fails
      | _ => exact ih disagrees

/-- A result that disagrees with the arguments is not one that the model may correct. -/
theorem check_firm {response : Json} (disagrees : check intent arguments response = .error error) :
    error.isRecoverable = false := by
  cases response with
  | obj record => exact checkRecord_firm disagrees
  | arr items => exact checkItems_firm disagrees
  | _ => contradiction

end Agreement

theorem Call.verdict_firm {intent : Intent η} {ended : Outcome × Context} {error : CallError}
    (firm : ∀ error, ended.1 = .error error → error.isRecoverable = false)
    (judged : Call.verdict intent ended = .error error) : error.isRecoverable = false := by
  obtain ⟨outcome, after⟩ := ended
  cases outcome with
  | error cause =>
      cases judged
      exact firm _ rfl
  | ok result =>
      rw [Call.verdict] at judged
      split at judged
      · contradiction
      · next disagrees =>
          cases judged
          exact Agreement.check_firm disagrees

/-- A call whose arguments are accepted fails in no way that the model may correct. -/
theorem Call.firm_run {details : String → String} {tools : Toolset η} {chain : Chain η H}
    {call : Call} {intent : Intent η} {accepted : Json.Object} (found : tools.find? call.tool = some intent)
    (accepts : intent.shape.accept details intent.code call.arguments = .ok accepted)
    (innocent : ∀ layer ∈ chain, layer.Innocent) {log : List (Asked (callInterface η H))}
    {error : CallError} (runs : Runs (Call.run details tools chain call) log (.error error)) :
    error.isRecoverable = false := by
  rw [Call.run, found] at runs
  dsimp only at runs
  rw [accepts] at runs
  obtain ⟨_, now, rest, rfl, -, goesOn⟩ := runs_bind_iff.1 runs
  obtain ⟨⟨outcome, after⟩, inside, judged⟩ := runs_bind_done_iff.1 goesOn
  have meant : ∀ layer ∈ chain.filter fun layer => layer.appliesTo
      (call.context intent accepted now).intent, layer.Innocent :=
    fun layer member => innocent layer (List.mem_filter.1 member).1
  have firm := Chain.firm_around meant (Call.firm_handlerStep intent)
  have fails : Call.verdict intent (outcome, after) = .error error := judged.symm
  apply Call.verdict_firm ?_ fails
  rintro cause rfl
  exact firm _ _ _ _ inside

/-- A call that names no tool, or whose arguments are not accepted, ends in an error that the model
may correct; it asks nothing, whatever the layers are, and leaves any state as it was from which
questions are answered.  A call of a tool whose arguments are accepted ends in no such error,
whatever is answered, if each of its layers is a built-in one or makes up no such error. -/
theorem Call.recoverable_before_layers (details : String → String) (tools : Toolset η)
    (chain : Chain η H) (call : Call) :
    (∀ error, call.Unfit details tools error →
      error.isRecoverable = true ∧
      Call.run details tools chain call = pure (.error error) ∧
      (∀ log outcome, Runs (Call.run details tools chain call) log outcome ↔
        log = [] ∧ outcome = .error error) ∧
      ∀ {σ : Type}
        (answer : (question : CallQuestion η H) → StateM σ question.Answer) (state : σ),
        Program.run (I := callInterface η H) answer (Call.run details tools chain call) state =
          (.error error, state)) ∧
    (∀ intent accepted, tools.find? call.tool = some intent →
      intent.shape.accept details intent.code call.arguments = .ok accepted →
      (∀ layer ∈ chain, layer.Plain) →
        ∀ log error, Runs (Call.run details tools chain call) log (.error error) →
          error.isRecoverable = false) := by
  constructor
  · intro error unfit
    have atOnce := unfit.run_eq chain
    refine ⟨unfit.recoverable, atOnce, ?runs, ?state⟩
    case runs =>
      intro log outcome
      rw [atOnce]
      exact Program.runs_done_iff
    case state =>
      intro σ answer state
      rw [atOnce]
      rfl
  · intro intent accepted found accepts plain log error runs
    exact Call.firm_run found accepts (fun layer member => (plain layer member).innocent) runs

namespace Rehearsal

/-- A layer that leaves a note and then runs the rest of the chain. -/
def noting : Wrapper Part stageInterface :=
  wrapper "noting" 100 [] [.setNote "seen" (.bool true), .next]

theorem neverOriginates_noting : noting.NeverOriginates := by
  intro context own error after runs recoverable
  cases runs with
  | @ask _ _ received _ _ ends =>
      obtain ⟨rfl, same⟩ := Program.runs_done_iff.1 ends
      exact ⟨_, received, List.mem_cons_self, (congrArg Prod.fst same).symm⟩

/-- A limit on enquiries. -/
def twoAMinute : RateLimit :=
  { number := 1, maxCalls := 2, window := .ofSeconds 60, targets := ["lookup"] }

/-- The built-in layers around it. -/
def guarded : Chain Part stageInterface :=
  [.logging, .rateLimit twoAMinute, noting.layer]

theorem plain_guarded : ∀ layer ∈ guarded, layer.Plain :=
  List.forall_mem_cons.2 ⟨.logging, List.forall_mem_cons.2 ⟨.rateLimit _,
    List.forall_mem_singleton.2 (.wrapper neverOriginates_noting)⟩⟩

theorem recoverable_before_layers_enquiry :
    (CallError.toolNotFound "lost").isRecoverable = true ∧
      Call.run syntaxDetails (Toolset.ofIntents [lookup]) guarded { enquiry with tool := "lost" } =
        pure (.error (.toolNotFound "lost")) ∧
      ∃ log, Runs (Call.run syntaxDetails (Toolset.ofIntents [lookup]) guarded enquiry) log
          (.error (.handlerFailed "lookup" "down")) ∧
        (CallError.handlerFailed "lookup" "down").isRecoverable = false := by
  obtain ⟨before, -⟩ := Call.recoverable_before_layers syntaxDetails
    (Toolset.ofIntents [lookup]) guarded { enquiry with tool := "lost" }
  obtain ⟨-, within⟩ := Call.recoverable_before_layers syntaxDetails
    (Toolset.ofIntents [lookup]) guarded enquiry
  obtain ⟨recoverable, atOnce, -⟩ := before (.toolNotFound "lost") (.unknown rfl)
  have found : (Toolset.ofIntents [lookup]).find? enquiry.tool = some lookup := rfl
  have runs : Runs (Call.run syntaxDetails (Toolset.ofIntents [lookup]) guarded enquiry)
      [⟨.clock, (0 : Int)⟩,
        ⟨.grant twoAMinute "s1", true⟩,
        ⟨.handle lookup { enquiry.context lookup (reference "X1") 0 with
          notes := [("seen", .bool true)] }, .error "down"⟩, ⟨.clock, (5 : Int)⟩]
      (.error (.handlerFailed "lookup" "down")) := by
    rw [Call.run, found]
    dsimp only
    rw [show lookup.shape.accept syntaxDetails lookup.code enquiry.arguments =
      .ok (reference "X1") from accept_enquiry]
    exact .ask (.ask (.ask (.ask (.done _))))
  exact ⟨recoverable, atOnce, _, runs,
    within lookup (reference "X1") found accept_enquiry plain_guarded _ _ runs⟩

end Rehearsal

end Parley
