/-
Module: Parley.Proofs.Intent.Agreement
Layer: Proofs
Purpose: With which arguments the result of a tool call agrees.  The result is checked once all layers
  are done, against the arguments that the context then holds.  These are the ones the handler
  received in its last run if every layer is faithful to the rest of the chain; a layer that changes
  the arguments after the handler has run makes the check compare with something else.
Main exports: LastHandled, Leeway, Step.Faithful, Layer.Faithful, Chain.Faithful,
  Chain.Faithful.around, Call.runs_ok_iff, Call.agrees_with_handled
-/
import Parley.Proofs.Intent.Layers
import Parley.Proofs.Json.Written
import Parley.Rehearsal.Script

namespace Parley

open Program (Asked Runs runs_bind_iff runs_bind_done_iff runs_query_iff runs_done_iff)

variable {η : Type} {H : Interface} {intent : Intent η}

/-! ### The last run of a handler -/

/-- The handler of an intent is not run. -/
def Unhandled (intent : Intent η) (log : List (Asked (callInterface η H))) : Prop :=
  ∀ asked ∈ log, ∀ context, asked.question ≠ .handle intent context

/-- The handler of an intent is run, and in its last run it receives the arguments. -/
def LastHandled (intent : Intent η) (log : List (Asked (callInterface η H)))
    (arguments : Json.Object) : Prop :=
  ∃ before context answer after, log = before ++ ⟨.handle intent context, answer⟩ :: after ∧
    Unhandled intent after ∧ context.arguments = arguments

section Logs

variable {first second log : List (Asked (callInterface η H))} {arguments other : Json.Object}

theorem Unhandled.append (none : Unhandled intent first) (more : Unhandled intent second) :
    Unhandled intent (first ++ second) :=
  List.forall_mem_append.2 ⟨none, more⟩

theorem unhandled_single {question : CallQuestion η H} {answer : question.Answer}
    (isOther : ∀ context, question ≠ .handle intent context) :
    Unhandled intent [⟨question, answer⟩] :=
  List.forall_mem_singleton.2 isOther

theorem unhandled_clock (now : Int) :
    Unhandled intent [(⟨.clock, now⟩ : Asked (callInterface η H))] := by
  apply unhandled_single
  intro context same
  contradiction

theorem LastHandled.later (handled : LastHandled intent second arguments) :
    LastHandled intent (first ++ second) arguments := by
  obtain ⟨before, context, answer, after, rfl, none, received⟩ := handled
  exact ⟨first ++ before, context, answer, after, (List.append_assoc ..).symm, none, received⟩

theorem LastHandled.append (handled : LastHandled intent first arguments)
    (none : Unhandled intent second) : LastHandled intent (first ++ second) arguments := by
  obtain ⟨before, context, answer, after, rfl, noneAfter, received⟩ := handled
  exact ⟨before, context, answer, after ++ second, List.append_assoc .., noneAfter.append none,
    received⟩

theorem Unhandled.elim {context : Context} {answer : Except String Json}
    (none : Unhandled intent (first ++ ⟨.handle intent context, answer⟩ :: second)) : False :=
  none ⟨.handle intent context, answer⟩ (by simp) context rfl

theorem LastHandled.not_unhandled (handled : LastHandled intent log arguments) :
    ¬Unhandled intent log := by
  obtain ⟨before, context, answer, after, rfl, -, -⟩ := handled
  exact Unhandled.elim

/-- There is one last run. -/
theorem LastHandled.unique (one : LastHandled intent log arguments)
    (two : LastHandled intent log other) : arguments = other := by
  obtain ⟨before, context, answer, after, rfl, none, rfl⟩ := one
  obtain ⟨start, last, given, rest, split, noneRest, rfl⟩ := two
  -- if one of the two runs came first, the other one would stand in what follows it
  rcases List.append_eq_append_iff.1 split with ⟨between, -, right⟩ | ⟨between, -, right⟩
  · cases between with
    | nil =>
        cases right
        rfl
    | cons asked between =>
        cases right
        exact none.elim.elim
  · cases between with
    | nil =>
        cases right
        rfl
    | cons asked between =>
        cases right
        exact noneRest.elim.elim

end Logs

/-! ### Faithful layers -/

/-- What a step may do with the arguments when it does not run the handler. -/
inductive Leeway where
  /-- It always runs the handler. -/
  | never
  /-- It leaves them as they are. -/
  | keeping
  | any
deriving DecidableEq

namespace Leeway

/-- What may become of the arguments. -/
def Permits : Leeway → Json.Object → Json.Object → Prop
  | .never, _, _ => False
  | .keeping, before, after => after = before
  | .any, _, _ => True

/-- What one permits the other permits as well. -/
def Within (narrow wide : Leeway) : Prop :=
  ∀ before after, narrow.Permits before after → wide.Permits before after

theorem never_within (leeway : Leeway) : never.Within leeway :=
  fun _ _ permits => permits.elim

/-- If the handler is run, the arguments of its last run are left; otherwise what is permitted. -/
def Leaves (leeway : Leeway) (intent : Intent η) (log : List (Asked (callInterface η H)))
    (before after : Json.Object) : Prop :=
  LastHandled intent log after ∨ Unhandled intent log ∧ leeway.Permits before after

section Leaves

variable {leeway : Leeway} {first second : List (Asked (callInterface η H))}
  {before between after : Json.Object}

theorem Leaves.append (leaves : leeway.Leaves intent first before after)
    (none : Unhandled intent second) : leeway.Leaves intent (first ++ second) before after := by
  rcases leaves with last | ⟨noneFirst, permits⟩
  · exact .inl (last.append none)
  · exact .inr ⟨noneFirst.append none, permits⟩

theorem Leaves.later (none : Unhandled intent first)
    (leaves : leeway.Leaves intent second before after) :
    leeway.Leaves intent (first ++ second) before after := by
  rcases leaves with last | ⟨noneSecond, permits⟩
  · exact .inl last.later
  · exact .inr ⟨none.append noneSecond, permits⟩

/-- Arguments that may only be kept are kept one time after another. -/
theorem Leaves.trans (strict : leeway ≠ .any) (one : leeway.Leaves intent first before between)
    (two : leeway.Leaves intent second between after) :
    leeway.Leaves intent (first ++ second) before after := by
  rcases two with last | ⟨none, permits⟩
  · exact .inl last.later
  · cases leeway with
    | never => exact permits.elim
    | keeping =>
        have same : after = between := permits
        exact same ▸ one.append none
    | any => exact absurd rfl strict

end Leaves

end Leeway

/-- From whatever context a step is run, it leaves the arguments so. -/
def Step.Faithful (intent : Intent η) (leeway : Leeway) (step : Step η H) : Prop :=
  ∀ context log outcome after, Runs (step context) log (outcome, after) →
    leeway.Leaves intent log context.arguments after.arguments

/-- A layer is a faithful step if the rest of the chain is one, with what leeway the rest may have. -/
def Layer.Faithful (intent : Intent η) (within leeway : Leeway) (layer : Layer η H) : Prop :=
  ∀ next : Step η H, next.Faithful intent within → Step.Faithful intent leeway (layer.handle next)

/-- From the inside out each layer is faithful with the leeway of the layers in it. -/
inductive Chain.Faithful (intent : Intent η) : Leeway → Chain η H → Prop where
  | nil : Faithful intent .never []
  | cons {within leeway : Leeway} {layer : Layer η H} {inner : Chain η H} :
      layer.Faithful intent within leeway → Faithful intent within inner →
      Faithful intent leeway (layer :: inner)
  | loosen {narrow wide : Leeway} {layers : Chain η H} :
      narrow.Within wide → Faithful intent narrow layers → Faithful intent wide layers

theorem Step.Faithful.loosen {narrow wide : Leeway} {step : Step η H} (within : narrow.Within wide)
    (faithful : step.Faithful intent narrow) : step.Faithful intent wide := by
  intro context log outcome after runs
  rcases faithful context log outcome after runs with last | ⟨none, permits⟩
  · exact .inl last
  · exact .inr ⟨none, within _ _ permits⟩

/-- The handler is run with the arguments of the context, which stay. -/
theorem Call.faithful_handlerStep :
    Step.Faithful intent .never (Call.handlerStep intent : Step η H) := by
  intro context log outcome after runs
  obtain ⟨asks, answer, rest, rfl, handles, ends⟩ := runs_bind_iff.1 runs
  obtain rfl := runs_query_iff.1 handles
  have left : rest = [] ∧ after = context := by
    cases (answer : Except String Json) with
    | ok result =>
        obtain ⟨none, same⟩ := runs_done_iff.1 ends
        exact ⟨none, congrArg Prod.snd same⟩
    | error text =>
        obtain ⟨none, same⟩ := runs_done_iff.1 ends
        exact ⟨none, congrArg Prod.snd same⟩
  obtain ⟨rfl, rfl⟩ := left
  exact .inl ⟨[], after, answer, [], rfl, by simp [Unhandled], rfl⟩

/-- Faithful layers around the handler are a faithful step. -/
theorem Chain.Faithful.around {leeway : Leeway} {layers : Chain η H}
    (faithful : Chain.Faithful intent leeway layers) :
    Step.Faithful intent leeway (Chain.around layers (Call.handlerStep intent)) := by
  induction faithful with
  | nil => exact Call.faithful_handlerStep
  | cons layer _ ih => exact layer _ ih
  | loosen within _ ih => exact ih.loosen within

namespace Layer

/-- Noting the duration of calls is as faithful as the rest of the chain. -/
theorem faithful_logging (leeway : Leeway) :
    Layer.Faithful intent leeway leeway (logging : Layer η H) := by
  intro next faithful context log outcome after runs
  obtain ⟨part, ⟨given, between⟩, rest, rfl, inside, goesOn⟩ := runs_bind_iff.1 runs
  obtain ⟨now, times, same⟩ := runs_bind_done_iff.1 goesOn
  obtain rfl := runs_query_iff.1 times
  cases same
  exact (faithful _ _ _ _ inside).append (unhandled_clock now)

/-- A rate limit may turn a call away, and then it keeps the arguments. -/
theorem faithful_rateLimit (limit : RateLimit) {leeway : Leeway} (mayRefuse : leeway ≠ .never) :
    Layer.Faithful intent leeway leeway (rateLimit limit : Layer η H) := by
  intro next faithful context log outcome after runs
  obtain ⟨asks, granted, rest, rfl, admits, goesOn⟩ := runs_bind_iff.1 runs
  obtain rfl := runs_query_iff.1 admits
  have asked : Unhandled intent
      [(⟨.grant limit context.session, granted⟩ : Asked (callInterface η H))] := by
    apply unhandled_single
    intro other same
    contradiction
  apply Leeway.Leaves.later asked
  cases (granted : Bool) with
  | true => exact faithful _ _ _ _ goesOn
  | false =>
      obtain ⟨rfl, same⟩ := runs_done_iff.1 goesOn
      cases same
      refine .inr ⟨by simp [Unhandled], ?_⟩
      cases leeway with
      | never => exact absurd rfl mayRefuse
      | keeping => rfl
      | any => trivial

end Layer

namespace Rehearsal

variable {name : String} {priority : Int} {targets : List String} {intent : Intent Part}

/-- A layer that runs the rest of the chain twice is as faithful as it, unless the rest may do
anything with the arguments when it does not run the handler. -/
theorem faithful_twice {leeway : Leeway} (strict : leeway ≠ .any) :
    Layer.Faithful intent leeway leeway (layer name priority targets [.next, .next]) := by
  intro next faithful context log outcome after runs
  obtain ⟨first, ⟨_, between⟩, second, rfl, once, goesOn⟩ := runs_bind_iff.1 runs
  obtain ⟨⟨_, last⟩, again, same⟩ := runs_bind_done_iff.1 goesOn
  cases same
  exact (faithful _ _ _ _ once).trans strict (faithful _ _ _ _ again)

/-- A layer that sets an argument and then runs the rest of the chain may leave other arguments than
it found, so it is as faithful as the rest unless that may only keep them. -/
theorem faithful_setting {leeway : Leeway} (lax : leeway ≠ .keeping) (key : String) (value : Json) :
    Layer.Faithful intent leeway leeway
      (layer name priority targets [.setArgument key value, .next]) := by
  intro next faithful context log outcome after runs
  obtain ⟨⟨_, last⟩, inside, same⟩ := runs_bind_done_iff.1 runs
  cases same
  rcases faithful _ _ _ _ inside with handled | ⟨unhandled, permits⟩
  · exact .inl handled
  · cases leeway with
    | never => exact permits.elim
    | keeping => exact absurd rfl lax
    | any => exact .inr ⟨unhandled, trivial⟩

end Rehearsal

/-- Layers that are all as faithful as the rest are so together. -/
theorem Chain.faithful_of_all {leeway : Leeway} {layers : Chain η H}
    (all : ∀ layer ∈ layers, layer.Faithful intent leeway leeway) :
    Chain.Faithful intent leeway layers := by
  induction layers with
  | nil => exact .loosen (Leeway.never_within leeway) .nil
  | cons layer inner ih =>
      have ⟨first, others⟩ := List.forall_mem_cons.1 all
      exact .cons first (ih others)

/-! ### Whole calls -/

section Calls

variable {details : String → String} {tools : Toolset η} {chain : Chain η H} {call : Call}
  {log : List (Asked (callInterface η H))} {result : Json} {arguments : Json.Object}

/-- A call has a result exactly if its arguments are accepted and the layers come to a result that
agrees with the arguments they leave. -/
theorem Call.runs_ok_iff (found : tools.find? call.tool = some intent) :
    Runs (Call.run details tools chain call) log (.ok result) ↔
      ∃ accepted now part after,
        intent.shape.accept details intent.code call.arguments = .ok accepted ∧
        log = ⟨.clock, now⟩ :: part ∧
        Runs (chain.run (Call.handlerStep intent) (call.context intent accepted now)) part
          (.ok result, after) ∧
        Agreement.check intent.code after.arguments result = .ok () := by
  rw [Call.run, found]
  dsimp only
  constructor
  · intro runs
    cases accepts : intent.shape.accept details intent.code call.arguments with
    | error error =>
        rw [accepts] at runs
        cases runs
    | ok accepted =>
        rw [accepts] at runs
        obtain ⟨asks, now, rest, rfl, times, goesOn⟩ := runs_bind_iff.1 runs
        obtain rfl := runs_query_iff.1 times
        obtain ⟨⟨outcome, after⟩, inside, judged⟩ := runs_bind_done_iff.1 goesOn
        cases outcome with
        | error error => cases judged
        | ok value =>
            cases checked : Agreement.check intent.code after.arguments value with
            | error error =>
                simp only [verdict, checked] at judged
                cases judged
            | ok _ =>
                simp only [verdict, checked] at judged
                cases judged
                exact ⟨accepted, now, rest, after, rfl, rfl, inside, checked⟩
  · rintro ⟨accepted, now, part, after, accepts, rfl, inside, agrees⟩
    rw [accepts]
    have judged : verdict intent (.ok result, after) = .ok result := by
      simp only [verdict, agrees]
    exact .ask (runs_bind_done_iff.2 ⟨_, inside, judged.symm⟩)

/-- If the layers meant for an intent are faithful, the result of a call of it agrees with the
arguments of the last run of its handler. -/
theorem Call.agrees_with_handled {leeway : Leeway} (found : tools.find? call.tool = some intent)
    (faithful : Chain.Faithful intent leeway
      (chain.filter fun layer => layer.appliesTo intent.code))
    (runs : Runs (Call.run details tools chain call) log (.ok result))
    (handled : LastHandled intent log arguments) :
    Agreement.check intent.code arguments result = .ok () := by
  obtain ⟨accepted, now, part, after, -, rfl, inside, agrees⟩ := (Call.runs_ok_iff found).1 runs
  have inPart : LastHandled intent part after.arguments := by
    rcases faithful.around _ _ _ _ inside with last | ⟨none, -⟩
    · exact last
    · exact absurd ((unhandled_clock now).append none) handled.not_unhandled
  have inLog : LastHandled intent ([(⟨.clock, now⟩ : Asked (callInterface η H))] ++ part)
      after.arguments := inPart.later
  rw [handled.unique inLog]
  exact agrees

end Calls

/-! ### A reference that is corrected -/

namespace Rehearsal

/-- A reference, as arguments and as a record. -/
def reference (text : String) : Json.Object := [("ref", .str text)]

/-- An intent that takes a reference and gives a record with another. -/
def lookup : Intent Part :=
  { code := "lookup", description := [], shape := ⟨[⟨"ref", .string, true, ""⟩]⟩
    handler := ⟨.value (.obj (reference "X2")), none⟩ }

/-- A call of it. -/
def enquiry : Call :=
  { session := "s1", message := "", tool := "lookup"
    arguments := "\x7b\"ref\":\"X1\"\x7d", earlier := [] }

theorem accept_enquiry :
    lookup.shape.accept syntaxDetails "lookup" enquiry.arguments = .ok (reference "X1") := by
  have writes := Json.writes_recordChars [("ref", Json.quoted "X1", .text (some "X1"))]
    (List.forall_mem_singleton.2 (Json.writes_quoted "X1"))
  have spelled : enquiry.arguments = String.ofList (Json.recordChars [("ref", Json.quoted "X1")]) := by
    decide
  have read : Json.parse? enquiry.arguments = some (.obj (reference "X1")) := by
    rw [Json.parse?, spelled]
    exact congrArg (·.bind (Json.Document.value? Json.Document.greatestDepth)) writes.parse?
  rw [Shape.accept, read]
  rfl

theorem agrees_reference :
    Agreement.check "lookup" (reference "X2") (.obj (reference "X2")) = .ok () :=
  rfl

/-- The outer layer sets the reference, and the inner one runs the handler twice. -/
def correcting : Chain Part stageInterface :=
  [layer "correct" 1 [] [.setArgument "ref" (.str "X2"), .next], layer "again" 2 [] [.next, .next]]

/-- The layer sets the reference once the handler has run. -/
def late : Chain Part stageInterface :=
  [layer "late" 1 [] [.next, .setArgument "ref" (.str "X2")]]

/-- The handler is run in the call with a reference. -/
def handled (received : String) : Asked (callInterface Part stageInterface) :=
  ⟨.handle lookup (enquiry.context lookup (reference received) 0), .ok (.obj (reference "X2"))⟩

theorem agrees_with_handled_corrected :
    ∃ log, Runs (Call.run syntaxDetails (Toolset.ofIntents [lookup]) correcting enquiry) log
        (.ok (.obj (reference "X2"))) ∧
      LastHandled lookup log (reference "X2") ∧
      Agreement.check "lookup" (reference "X2") (.obj (reference "X2")) = .ok () := by
  have found : (Toolset.ofIntents [lookup]).find? enquiry.tool = some lookup := rfl
  have runs : Runs (Call.run syntaxDetails (Toolset.ofIntents [lookup]) correcting enquiry)
      [⟨.clock, (0 : Int)⟩, handled "X2", handled "X2"] (.ok (.obj (reference "X2"))) := by
    refine (Call.runs_ok_iff found).2 ⟨_, _, _, enquiry.context lookup (reference "X2") 0,
      accept_enquiry, rfl, ?_, agrees_reference⟩
    exact .ask (.ask (.done _))
  have last : LastHandled lookup
      [⟨.clock, (0 : Int)⟩, handled "X2", handled "X2"] (reference "X2") :=
    ⟨[⟨.clock, (0 : Int)⟩, handled "X2"], _, _, [], rfl, by simp [Unhandled], rfl⟩
  have faithful : Chain.Faithful lookup .never
      (correcting.filter fun layer => layer.appliesTo lookup.code) := by
    apply Chain.faithful_of_all
    exact List.forall_mem_cons.2 ⟨faithful_setting (by decide) _ _,
      List.forall_mem_singleton.2 (faithful_twice (by decide))⟩
  exact ⟨_, runs, last, Call.agrees_with_handled found faithful runs last⟩

/-- A layer that changes the arguments after the handler has run hides that its result does not agree
with what it received. -/
theorem result_disagrees_late :
    ∃ log, Runs (Call.run syntaxDetails (Toolset.ofIntents [lookup]) late enquiry) log
        (.ok (.obj (reference "X2"))) ∧
      LastHandled lookup log (reference "X1") ∧
      Agreement.check "lookup" (reference "X1") (.obj (reference "X2")) ≠ .ok () := by
  have found : (Toolset.ofIntents [lookup]).find? enquiry.tool = some lookup := rfl
  have runs : Runs (Call.run syntaxDetails (Toolset.ofIntents [lookup]) late enquiry)
      [⟨.clock, (0 : Int)⟩, handled "X1"] (.ok (.obj (reference "X2"))) := by
    refine (Call.runs_ok_iff found).2 ⟨_, _, _, enquiry.context lookup (reference "X2") 0,
      accept_enquiry, rfl, ?_, agrees_reference⟩
    exact .ask (.done _)
  have last : LastHandled lookup [⟨.clock, (0 : Int)⟩, handled "X1"] (reference "X1") :=
    ⟨[⟨.clock, (0 : Int)⟩], _, _, [], rfl, by simp [Unhandled], rfl⟩
  have disagrees : Agreement.check "lookup" (reference "X1") (.obj (reference "X2")) =
      .error (.invalidResponse "lookup" "field \x60ref\x60: requested \"X1\" but got \"X2\"") := rfl
  refine ⟨_, runs, last, ?_⟩
  rw [disagrees]
  simp

end Rehearsal

end Parley
