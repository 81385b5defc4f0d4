/-
Module: Parley.Proofs.Opening.Policies
Layer: Proofs
Purpose: What an opening does under its two policies, whatever its calls ask and however they end,
  as long as nothing tells it to stop.  Where failures are reported it makes all calls that may be
  made and never fails; where a failure ends it, it does the same up to the first failure.  So with
  the same outcomes, none of them a failure, both leave the same turns.
Main exports: Opening.callLog, Opening.Series, Opening.runs_runCalls_iff, Opening.EndsWith,
  Opening.Made, Opening.runs_unfold_iff, Opening.nodup_ids, Opening.Recorded, Opening.run_by_policy
-/
import Mathlib.Data.List.Nodup
import Parley.Proofs.Exchange.Callable
import Parley.Proofs.Exchange.RequestIds
import Parley.Proofs.Opening.Envelope

namespace Parley

namespace Opening

open Program (Asked Runs)
open Exchange (Log unfold unfolded unfoldQuestion)

variable {η : Type} {H : Interface} {plan : OpeningPlan} {details : String → String}
  {tools : Toolset η} {chain : Chain η H} {session : String}

/-- Nothing told the exchange to stop. -/
def Undisturbed {C : Interface} (log : List (Asked (exchangeInterface C))) : Prop :=
  ∀ answer : Bool, (⟨.isCancelled, answer⟩ : Asked (exchangeInterface C)) ∈ log → answer = false

/-! ### The calls -/

/-- The turn that answers a request by the outcome of its call. -/
def answerTurn (limits : Limits) (request : ToolRequest) (outcome : Outcome) : Turn :=
  Turn.response request (Envelope.fit limits (Envelope.ofOutcome request.tool outcome))

/-- The number of failures. -/
def failures (outcomes : List Outcome) : Nat :=
  outcomes.countP fun outcome => !outcome.isOk

/-- What calls leave, with one more call before them. -/
def prepend (limits : Limits) (request : ToolRequest) (outcome : Outcome)
    (rest : Transcript × Nat) : Transcript × Nat :=
  (answerTurn limits request outcome :: rest.1, if outcome.isOk then rest.2 else rest.2 + 1)

theorem prepend_failures (limits : Limits) (request : ToolRequest) (outcome : Outcome)
    (turns : Transcript) (outcomes : List Outcome) :
    prepend limits request outcome (turns, failures outcomes) =
      (answerTurn limits request outcome :: turns, failures (outcome :: outcomes)) := by
  cases outcome with
  | ok value => simp [prepend, failures, Except.isOk, Except.toBool]
  | error error => simp [prepend, failures, Except.isOk, Except.toBool]

/-- How calls go on after the first has ended. -/
def afterCall (plan : OpeningPlan) (session : String) (earlier : List Json) (request : ToolRequest)
    (requests : List ToolRequest) (outcome : Outcome) :
    Program (exchangeInterface wholeCalls) (Except Fault (Transcript × Nat)) :=
  match outcome, plan.policy with
  | .error error, .strict => .done (.error (.openingFailed request.tool error.message))
  | _, _ =>
      (runCalls plan session (earlier ++ outcome.toOption.toList) requests).run >>=
        fun rest => .done (rest.map (prepend plan.limits request outcome))

theorem afterCall_of_goesOn {outcome : Outcome} (goesOn : plan.policy = .strict → outcome.isOk)
    (earlier : List Json) (request : ToolRequest) (requests : List ToolRequest) :
    afterCall plan session earlier request requests outcome =
      (runCalls plan session (earlier ++ outcome.toOption.toList) requests).run >>=
        fun rest => .done (rest.map (prepend plan.limits request outcome)) := by
  unfold afterCall
  split
  · next isStrict => exact absurd (goesOn isStrict) (by simp [Except.isOk, Except.toBool])
  · rfl

theorem afterCall_of_strict (strict : plan.policy = .strict) (earlier : List Json)
    (request : ToolRequest) (requests : List ToolRequest) (error : CallError) :
    afterCall plan session earlier request requests (.error error) =
      .done (.error (.openingFailed request.tool error.message)) := by
  unfold afterCall
  rw [strict]

/-- The first call is made if nothing says that it must not be, and then the policy decides whether
the others are. -/
theorem run_runCalls_cons (earlier : List Json) (request : ToolRequest)
    (requests : List ToolRequest) :
    (runCalls plan session earlier (request :: requests)).run =
      .ask (I := exchangeInterface wholeCalls) .isCancelled fun isCancelled : Bool =>
        if isCancelled then .done (.error .cancelled)
        else
          .ask (I := exchangeInterface wholeCalls) (.call (callFor session earlier request))
            (afterCall plan session earlier request requests) := by
  obtain ⟨calls, policy, requireSession, limits⟩ := plan
  rw [runCalls]
  refine congrArg (Program.ask (I := exchangeInterface wholeCalls) .isCancelled)
    (funext fun isCancelled : Bool => ?_)
  cases isCancelled with
  | true => rfl
  | false =>
      refine congrArg (Program.ask (I := exchangeInterface wholeCalls)
        (.call (callFor session earlier request))) (funext fun outcome : Outcome => ?_)
      cases outcome with
      | ok value =>
          refine congrArg (Program.bind _) (funext fun rest : Except Fault (Transcript × Nat) => ?_)
          cases rest <;> rfl
      | error error =>
          cases policy with
          | strict => rfl
          | bestEffort =>
              have goesOn : FailurePolicy.bestEffort = .strict →
                  (Except.error error : Outcome).isOk := fun same => absurd same (by decide)
              have same : earlier ++ (Except.error error : Outcome).toOption.toList = earlier :=
                List.append_nil earlier
              rw [afterCall_of_goesOn goesOn, same]
              refine congrArg (Program.bind (runCalls _ session earlier requests).run)
                (funext fun rest : Except Fault (Transcript × Nat) => ?_)
              cases rest <;> rfl

/-- The questions of calls that are made one after another, where each knows the results of those
before it. -/
def callLog (session : String) : List Json → List (ToolRequest × Outcome) → Log
  | _, [] => []
  | earlier, (request, outcome) :: made =>
      ⟨.isCancelled, false⟩ :: ⟨.call (callFor session earlier request), outcome⟩ ::
        callLog session (earlier ++ outcome.toOption.toList) made

/-- What calls come to when they end one after another in some outcomes: each leaves a turn, but
under the strict policy a failure ends them. -/
inductive Series (plan : OpeningPlan) :
    List ToolRequest → List Outcome → Except Fault (Transcript × Nat) → Prop where
  | nil : Series plan [] [] (.ok ([], 0))
  | cons {request : ToolRequest} {outcome : Outcome} {requests : List ToolRequest}
      {outcomes : List Outcome} {result : Except Fault (Transcript × Nat)} :
      (plan.policy = .strict → outcome.isOk) → Series plan requests outcomes result →
      Series plan (request :: requests) (outcome :: outcomes)
        (result.map (prepend plan.limits request outcome))
  | stop (request : ToolRequest) (requests : List ToolRequest) (error : CallError) :
      plan.policy = .strict →
      Series plan (request :: requests) [.error error]
        (.error (.openingFailed request.tool error.message))

theorem undisturbed_called {call : Call} {outcome : Outcome} {log : Log}
    (undisturbed : Undisturbed log) :
    Undisturbed ((⟨.isCancelled, false⟩ :: ⟨.call call, outcome⟩ :: log : Log)) := by
  intro answer member
  rcases List.mem_cons.1 member with same | member
  · cases same
    rfl
  · rcases List.mem_cons.1 member with same | member
    · cases same
    · exact undisturbed answer member

theorem undisturbed_nil {C : Interface} : Undisturbed ([] : List (Asked (exchangeInterface C))) :=
  fun _ member => absurd member List.not_mem_nil

/-- The runs of the calls: they end in any outcomes, and come to what these make of them. -/
theorem runs_runCalls_iff {earlier : List Json} {requests : List ToolRequest} {log : Log}
    {result : Except Fault (Transcript × Nat)} :
    Undisturbed log ∧ Runs (runCalls plan session earlier requests).run log result ↔
      ∃ outcomes, Series plan requests outcomes result ∧
        log = callLog session earlier (requests.zip outcomes) := by
  constructor
  · rintro ⟨undisturbed, runs⟩
    induction requests generalizing earlier log result with
    | nil =>
        obtain ⟨rfl, rfl⟩ := Program.runs_run_pure runs
        exact ⟨[], .nil, rfl⟩
    | cons request requests ih =>
        rw [run_runCalls_cons] at runs
        obtain ⟨isCancelled, asked, rfl, called⟩ := Program.runs_ask_iff.1 runs
        obtain rfl := undisturbed isCancelled List.mem_cons_self
        rw [if_neg Bool.false_ne_true] at called
        obtain ⟨outcome, rest, rfl, goes⟩ := Program.runs_ask_iff.1 called
        have others : Undisturbed rest := fun answer member =>
          undisturbed answer (List.mem_cons_of_mem _ (List.mem_cons_of_mem _ member))
        by_cases goesOn : plan.policy = .strict → outcome.isOk
        · rw [afterCall_of_goesOn goesOn] at goes
          obtain ⟨made, follow, rfl⟩ := Program.runs_bind_done_iff.1 goes
          obtain ⟨outcomes, series, rfl⟩ := ih others follow
          exact ⟨outcome :: outcomes, .cons goesOn series, rfl⟩
        · obtain ⟨strict, failed⟩ := Classical.not_imp.1 goesOn
          cases outcome with
          | ok value => exact absurd rfl failed
          | error error =>
              rw [afterCall_of_strict strict] at goes
              obtain ⟨rfl, rfl⟩ := Program.runs_done_iff.1 goes
              exact ⟨[.error error], .stop request requests error strict, by simp [callLog]⟩
  · rintro ⟨outcomes, series, rfl⟩
    induction series generalizing earlier with
    | nil => exact ⟨undisturbed_nil, .done _⟩
    | @cons request outcome requests outcomes result goesOn _ ih =>
        obtain ⟨undisturbed, runs⟩ := @ih (earlier ++ outcome.toOption.toList)
        rw [run_runCalls_cons]
        refine ⟨undisturbed_called undisturbed, .ask (.ask ?_)⟩
        rw [afterCall_of_goesOn goesOn]
        exact Program.runs_bind_done_iff.2 ⟨result, runs, rfl⟩
    | stop request requests error strict =>
        rw [run_runCalls_cons, List.zip_cons_cons, List.zip_nil_right]
        refine ⟨undisturbed_called undisturbed_nil, .ask (.ask ?_)⟩
        rw [afterCall_of_strict strict]
        exact .done _

/-- All calls that may be made were made, and none of them failed if failures end the opening. -/
structure Completed (plan : OpeningPlan) (asked : List ToolRequest) (outcomes : List Outcome) :
    Prop where
  all : outcomes.length = asked.length
  succeeded : plan.policy = .strict → ∀ outcome ∈ outcomes, outcome.isOk

/-- The call for a request was the first that failed, and the last. -/
structure StoppedAt (plan : OpeningPlan) (asked : List ToolRequest) (outcomes : List Outcome)
    (request : ToolRequest) (error : CallError) : Prop where
  strict : plan.policy = .strict
  first : ∃ values : List Json, outcomes = values.map .ok ++ [.error error] ∧
    asked[values.length]? = some request

theorem series_iff {requests : List ToolRequest} {outcomes : List Outcome}
    {result : Except Fault (Transcript × Nat)} :
    Series plan requests outcomes result ↔
      Completed plan requests outcomes ∧ result =
          .ok (List.zipWith (answerTurn plan.limits) requests outcomes, failures outcomes) ∨
        ∃ request error, StoppedAt plan requests outcomes request error ∧
          result = .error (.openingFailed request.tool error.message) := by
  constructor
  · intro series
    induction series with
    | nil => exact .inl ⟨⟨rfl, fun _ _ member => absurd member List.not_mem_nil⟩, rfl⟩
    | @cons request outcome requests outcomes _ goesOn _ ih =>
        rcases ih with ⟨completed, rfl⟩ | ⟨last, error, ⟨strict, values, rfl, isLast⟩, rfl⟩
        · refine .inl ⟨⟨congrArg (· + 1) completed.all, fun strict => ?_⟩, ?_⟩
          · exact List.forall_mem_cons.2 ⟨goesOn strict, completed.succeeded strict⟩
          · exact congrArg Except.ok (prepend_failures _ _ _ _ _)
        · cases outcome with
          | ok value => exact .inr ⟨last, error, ⟨strict, value :: values, rfl, isLast⟩, rfl⟩
          | error error => exact absurd (goesOn strict) (by simp [Except.isOk, Except.toBool])
    | stop request requests error strict =>
        exact .inr ⟨request, error, ⟨strict, [], rfl, rfl⟩, rfl⟩
  · rintro (⟨completed, rfl⟩ | ⟨request, error, ⟨strict, values, rfl, isLast⟩, rfl⟩)
    · induction requests generalizing outcomes with
      | nil =>
          cases List.length_eq_zero_iff.1 completed.all
          exact .nil
      | cons request requests ih =>
          cases outcomes with
          | nil => exact absurd completed.all (by simp)
          | cons outcome outcomes =>
              have others : Completed plan requests outcomes :=
                ⟨Nat.succ.inj completed.all, fun strict other member =>
                  completed.succeeded strict other (List.mem_cons_of_mem _ member)⟩
              have goesOn : plan.policy = .strict → outcome.isOk :=
                fun strict => completed.succeeded strict outcome List.mem_cons_self
              rw [List.zipWith_cons_cons, ← prepend_failures]
              exact .cons goesOn (ih others)
    · induction values generalizing requests with
      | nil =>
          cases requests with
          | nil => cases isLast
          | cons first requests =>
              cases isLast
              exact .stop request requests error strict
      | cons value values ih =>
          cases requests with
          | nil => cases isLast
          | cons first requests =>
              exact .cons (fun _ => rfl) (ih isLast)

/-! ### The opening -/

/-- The turns of an opening whose calls ended in some outcomes. -/
def turnsOf (limits : Limits) (asked : List ToolRequest) (outcomes : List Outcome) : Transcript :=
  if asked.isEmpty then []
  else Turn.asking "" asked :: List.zipWith (answerTurn limits) asked outcomes

/-- What is reported at the end of an opening that made calls. -/
def completion {C : Interface} (session : String) (outcomes : List Outcome) :
    List (Asked (exchangeInterface C)) :=
  if outcomes.isEmpty then []
  else [⟨.report (.openingCompleted session outcomes.length (failures outcomes)), ()⟩]

/-- How an opening ends after calls with some outcomes: what is reported last, and the result. -/
inductive EndsWith (plan : OpeningPlan) (tools : Toolset η) (session : String) {C : Interface} :
    List Outcome → List (Asked (exchangeInterface C)) → Except Fault Transcript → Prop where
  | completed {outcomes : List Outcome} : Completed plan (requests plan tools) outcomes →
      EndsWith plan tools session outcomes (completion session outcomes)
        (.ok (turnsOf plan.limits (requests plan tools) outcomes))
  | stopped {outcomes : List Outcome} {request : ToolRequest} {error : CallError} :
      StoppedAt plan (requests plan tools) outcomes request error →
      EndsWith plan tools session outcomes []
        (.error (.openingFailed request.tool error.message))

/-- How an opening goes on after its calls. -/
def afterCalls (session : String) (asked : List ToolRequest) :
    Except Fault (Transcript × Nat) →
      Program (exchangeInterface wholeCalls) (Except Fault Transcript)
  | .ok (turns, failed) =>
      .ask (I := exchangeInterface wholeCalls)
        (.report (.openingCompleted session asked.length failed))
        fun _ => .done (.ok (Turn.asking "" asked :: turns))
  | .error fault => .done (.error fault)

theorem run_run (plan : OpeningPlan) (tools : Toolset η) (session : String) :
    (run plan tools session).run =
      if (requests plan tools).isEmpty then .done (.ok [])
      else (runCalls plan session [] (requests plan tools)).run >>=
        afterCalls session (requests plan tools) := by
  rw [run]
  dsimp only
  split
  · rfl
  · refine congrArg (Program.bind _) (funext fun made : Except Fault (Transcript × Nat) => ?_)
    cases made <;> rfl

theorem undisturbed_append {C : Interface} {first second : List (Asked (exchangeInterface C))} :
    Undisturbed (first ++ second) ↔ Undisturbed first ∧ Undisturbed second := by
  simp only [Undisturbed, List.mem_append, or_imp, forall_and]

theorem undisturbed_completion {C : Interface} (session : String) (outcomes : List Outcome) :
    Undisturbed (completion (C := C) session outcomes) := by
  intro answer member
  rw [completion] at member
  split at member
  · cases member
  · cases List.mem_singleton.1 member

theorem Completed.completion_eq {C : Interface} {asked : List ToolRequest} {outcomes : List Outcome}
    (completed : Completed plan asked outcomes) (some : asked ≠ []) :
    completion (C := C) session outcomes =
      [⟨.report (.openingCompleted session asked.length (failures outcomes)), ()⟩] := by
  have called : outcomes ≠ [] := by
    rintro rfl
    exact some (List.length_eq_zero_iff.1 completed.all.symm)
  rw [completion, if_neg (by rwa [List.isEmpty_iff]), completed.all]

/-- An opening without calls leaves and reports nothing. -/
theorem endsWith_of_none {C : Interface} {outcomes : List Outcome}
    {last : List (Asked (exchangeInterface C))} {result : Except Fault Transcript}
    (nothing : requests plan tools = []) :
    EndsWith plan tools session outcomes last result ↔
      outcomes = [] ∧ last = [] ∧ result = .ok [] := by
  constructor
  · intro ends
    cases ends with
    | completed completed =>
        obtain rfl : outcomes = [] :=
          List.length_eq_zero_iff.1 (completed.all.trans (congrArg List.length nothing))
        exact ⟨rfl, rfl, by simp [turnsOf, nothing]⟩
    | stopped stopped =>
        obtain ⟨values, -, isLast⟩ := stopped.first
        rw [nothing] at isLast
        cases isLast
  · rintro ⟨rfl, rfl, rfl⟩
    have completed : Completed plan (requests plan tools) [] :=
      ⟨congrArg List.length nothing.symm, fun _ _ member => absurd member List.not_mem_nil⟩
    have ends : EndsWith plan tools session (C := C) [] _ _ := .completed completed
    simpa [turnsOf, nothing, completion] using ends

/-- The runs of an opening: its calls end in some outcomes, and these decide how it ends. -/
theorem runs_run_iff {log : Log} {result : Except Fault Transcript} :
    Undisturbed log ∧ Runs (run plan tools session).run log result ↔
      ∃ outcomes last, EndsWith plan tools session outcomes last result ∧
        log = callLog session [] ((requests plan tools).zip outcomes) ++ last := by
  rw [run_run]
  by_cases nothing : requests plan tools = []
  · rw [if_pos (List.isEmpty_iff.2 nothing), Program.runs_done_iff]
    constructor
    · rintro ⟨-, rfl, rfl⟩
      refine ⟨[], [], (endsWith_of_none nothing).2 ⟨rfl, rfl, rfl⟩, ?_⟩
      rw [List.zip_nil_right]
      rfl
    · rintro ⟨outcomes, last, ends, rfl⟩
      obtain ⟨rfl, rfl, rfl⟩ := (endsWith_of_none nothing).1 ends
      rw [List.zip_nil_right]
      exact ⟨undisturbed_nil, rfl, rfl⟩
  · have turns : ∀ outcomes, turnsOf plan.limits (requests plan tools) outcomes =
        Turn.asking "" (requests plan tools) ::
          List.zipWith (answerTurn plan.limits) (requests plan tools) outcomes :=
      fun outcomes => if_neg (by rwa [List.isEmpty_iff])
    rw [if_neg (by rwa [List.isEmpty_iff]), Program.runs_bind_iff]
    constructor
    · rintro ⟨undisturbed, before, made, after, rfl, called, ends⟩
      obtain ⟨outcomes, series, rfl⟩ :=
        runs_runCalls_iff.1 ⟨(undisturbed_append.1 undisturbed).1, called⟩
      rcases series_iff.1 series with ⟨completed, rfl⟩ | ⟨request, error, stopped, rfl⟩
      · obtain ⟨⟨⟩, rest, rfl, ended⟩ := Program.runs_ask_iff.1 ends
        obtain ⟨rfl, rfl⟩ := Program.runs_done_iff.1 ended
        rw [← turns, ← completed.completion_eq nothing]
        exact ⟨outcomes, _, .completed completed, rfl⟩
      · obtain ⟨rfl, rfl⟩ := Program.runs_done_iff.1 ends
        exact ⟨outcomes, [], .stopped stopped, rfl⟩
    · rintro ⟨outcomes, last, ends, rfl⟩
      cases ends with
      | completed completed =>
          obtain ⟨undisturbed, runs⟩ := runs_runCalls_iff.2
            ⟨outcomes, series_iff.2 (.inl ⟨completed, rfl⟩), rfl⟩
          refine ⟨undisturbed_append.2 ⟨undisturbed, undisturbed_completion _ _⟩,
            _, _, _, rfl, runs, ?_⟩
          rw [turns, completed.completion_eq nothing]
          exact .ask (.done _)
      | @stopped request error stopped =>
          obtain ⟨undisturbed, runs⟩ := runs_runCalls_iff.2
            ⟨outcomes, series_iff.2 (.inr ⟨request, error, stopped, rfl⟩), rfl⟩
          exact ⟨undisturbed_append.2 ⟨undisturbed, undisturbed_nil⟩, _, _, _, rfl, runs, .done _⟩

/-! ### What the calls ask -/

/-- All that is asked for calls that are made one after another.  Before each call nothing says that
it must not be made, and the call is run with the results of those before it. -/
inductive Made (details : String → String) (tools : Toolset η) (chain : Chain η H)
    (session : String) :
    List Json → List (ToolRequest × Outcome) → List (Asked (unfolded η H)) → Prop where
  | nil {earlier : List Json} : Made details tools chain session earlier [] []
  | cons {earlier : List Json} {request : ToolRequest} {outcome : Outcome}
      {calls : List (ToolRequest × Outcome)} {part : List (Asked (callInterface η H))}
      {rest : List (Asked (unfolded η H))} :
      Runs (Call.run details tools chain (callFor session earlier request)) part outcome →
      Made details tools chain session (earlier ++ outcome.toOption.toList) calls rest →
      Made details tools chain session earlier ((request, outcome) :: calls)
        (⟨.isCancelled, false⟩ :: part.map (fun asked => ⟨.call asked.question, asked.answer⟩) ++
          rest)

/-- A run of a call is one of what stands for the call in an opening. -/
theorem runs_embedCall_map {α : Type} {program : CallProgram η H α}
    {log : List (Asked (callInterface η H))} {result : α} (runs : Runs program log result) :
    Runs (Exchange.embedCall program)
      (log.map fun asked => (⟨.call asked.question, asked.answer⟩ : Asked (unfolded η H)))
      result := by
  induction runs with
  | done result => exact .done result
  | ask _ ih => exact .ask ih

theorem expands_cons (question : ExchangeQuestion wholeCalls) {answer : question.Answer}
    {part rest : List (Asked (unfolded η H))} {log : Log}
    (runs : Runs (unfoldQuestion details tools chain question) part answer)
    (expands : Program.Expands (unfoldQuestion details tools chain) log rest) :
    Program.Expands (unfoldQuestion details tools chain) (⟨question, answer⟩ :: log : Log)
      (part ++ rest) :=
  .cons runs expands

theorem made_of_expands {earlier : List Json} {calls : List (ToolRequest × Outcome)}
    {whole : List (Asked (unfolded η H))}
    (expands : Program.Expands (unfoldQuestion details tools chain) (callLog session earlier calls)
      whole) :
    Made details tools chain session earlier calls whole := by
  induction calls generalizing earlier whole with
  | nil =>
      cases expands
      exact .nil
  | cons call calls ih =>
      cases expands with
      | @cons _ _ first _ _ asks expands =>
          cases expands with
          | cons calls others =>
              obtain rfl : first = _ := Program.runs_query_iff.1 asks
              obtain ⟨part, runs, rfl⟩ := Exchange.runs_embedCall calls
              exact .cons runs (ih others)

theorem Made.expands {earlier : List Json} {calls : List (ToolRequest × Outcome)} {log : Log}
    {whole last : List (Asked (unfolded η H))}
    (made : Made details tools chain session earlier calls whole)
    (expands : Program.Expands (unfoldQuestion details tools chain) log last) :
    Program.Expands (unfoldQuestion details tools chain) (callLog session earlier calls ++ log)
      (whole ++ last) := by
  induction made with
  | nil => exact expands
  | @cons earlier request outcome calls part rest runs _ ih =>
      have first : Runs (unfoldQuestion details tools chain .isCancelled)
          [(⟨.isCancelled, false⟩ : Asked (unfolded η H))] false :=
        Program.runs_query_iff.2 rfl
      have call := expands_cons (.call (callFor session earlier request))
        (runs_embedCall_map runs) ih
      have whole := expands_cons .isCancelled first call
      exact (List.append_assoc (_ :: _) rest last).symm ▸ whole

theorem expands_completion (session : String) (outcomes : List Outcome) :
    Program.Expands (unfoldQuestion details tools chain) (completion session outcomes)
      (completion session outcomes) := by
  rw [completion, completion]
  split
  · exact .nil
  · have asks : Runs (unfoldQuestion details tools chain
        (.report (.openingCompleted session outcomes.length (failures outcomes)))) _ () :=
      Program.runs_query_iff.2 rfl
    exact expands_cons _ asks .nil

theorem completion_of_expands {outcomes : List Outcome} {last : List (Asked (unfolded η H))}
    (expands : Program.Expands (unfoldQuestion details tools chain) (completion session outcomes)
      last) :
    last = completion session outcomes := by
  rw [completion] at expands ⊢
  split at expands
  · next none =>
      cases expands
      exact (if_pos none).symm
  · next some =>
      cases expands with
      | @cons _ _ part _ _ asks rest =>
          cases rest
          obtain rfl : part = _ := Program.runs_query_iff.1 asks
          exact (if_neg some).symm

/-- The questions whether to stop are the same if calls are taken as a whole. -/
theorem undisturbed_of_expands {log : Log} {whole : List (Asked (unfolded η H))}
    (expands : Program.Expands (unfoldQuestion details tools chain) log whole)
    (undisturbed : Undisturbed whole) : Undisturbed log := by
  obtain ⟨parts, rfl, rfl, each⟩ := expands.parts
  intro answer member
  obtain ⟨⟨asked, part⟩, isPart, rfl⟩ := List.mem_map.1 member
  have isQuestion := Program.runs_query_iff.1 (each _ isPart)
  apply undisturbed answer
  exact List.mem_flatMap.2 ⟨_, isPart, isQuestion ▸ List.mem_singleton_self _⟩

/-- The runs of an opening whose calls are run with a toolset and within a chain. -/
theorem runs_unfold_iff {log : List (Asked (unfolded η H))} {result : Except Fault Transcript}
    (undisturbed : Undisturbed log) :
    Runs (unfold details tools chain (run plan tools session)).run log result ↔
      ∃ outcomes calls last, EndsWith plan tools session outcomes last result ∧
        Made details tools chain session [] ((requests plan tools).zip outcomes) calls ∧
        log = calls ++ last := by
  constructor
  · intro runs
    obtain ⟨whole, runsWhole, expands⟩ := Program.runs_embed_iff.1 runs
    obtain ⟨outcomes, last, ends, rfl⟩ :=
      runs_run_iff.1 ⟨undisturbed_of_expands expands undisturbed, runsWhole⟩
    obtain ⟨calls, reported, rfl, made, reports⟩ := expands.split
    refine ⟨outcomes, calls, reported, ?_, made_of_expands made, rfl⟩
    cases ends with
    | completed completed =>
        rw [completion_of_expands reports]
        exact .completed completed
    | stopped stopped =>
        cases reports
        exact .stopped stopped
  · rintro ⟨outcomes, calls, last, ends, made, rfl⟩
    cases ends with
    | completed completed =>
        have expands := made.expands (expands_completion session outcomes)
        exact Program.runs_embed_iff.2
          ⟨_, (runs_run_iff.2 ⟨outcomes, _, .completed completed, rfl⟩).2, expands⟩
    | stopped stopped =>
        exact Program.runs_embed_iff.2
          ⟨_, (runs_run_iff.2 ⟨outcomes, _, .stopped stopped, rfl⟩).2, made.expands .nil⟩

/-! ### The requests -/

/-- What stands before the first underscore of a text that begins with a number is the number. -/
theorem takeWhile_repr (n : Nat) (rest : List Char) :
    (n.repr.toList ++ '_' :: rest).takeWhile (· != '_') = n.repr.toList := by
  have digits : ∀ c ∈ n.repr.toList, c != '_' := by
    intro c member
    rw [Nat.repr_eq_ofList_toDigits, String.toList_ofList] at member
    have digit := Nat.isDigit_of_mem_toDigits (by omega) (by omega) member
    rw [bne_iff_ne]
    rintro rfl
    exact absurd digit (by decide)
  rw [List.takeWhile_append_of_pos digits, List.takeWhile_cons_of_neg (by decide), List.append_nil]

/-- The position of a call can be read off the id of its request, whatever its code is. -/
theorem position_of_id {call other : OpeningCall} {m n : Nat}
    (same : (request call m).id = (request other n).id) : m = n := by
  have chars : m.repr.toList ++ '_' :: (sanitized call.intent).toList =
      n.repr.toList ++ '_' :: (sanitized other.intent).toList := by
    simpa [request] using congrArg String.toList same
  have numbers := congrArg (List.takeWhile (· != '_')) chars
  rw [takeWhile_repr, takeWhile_repr, String.toList_inj] at numbers
  exact RequestIds.repr_inj numbers

/-- The requests of a plan have different ids, although a call may stand in it twice and codes that
differ may look the same in an id. -/
theorem nodup_ids (plan : OpeningPlan) (tools : Toolset η) :
    ((requests plan tools).map (·.id)).Nodup := by
  have positions : ((plan.calls.filter fun call => (tools.find? call.intent).isSome).zipIdx.map
      (·.2)).Nodup := by
    rw [List.zipIdx_map_snd]
    exact List.nodup_range'
  rw [requests, List.map_map, List.Nodup, List.pairwise_map]
  refine (List.pairwise_map.1 positions).imp fun apart same => apart ?_
  exact position_of_id same

/-- The requests are for the calls that may be made, in order. -/
theorem requests_calls (plan : OpeningPlan) (tools : Toolset η) :
    (requests plan tools).map (fun request => (request.tool, request.arguments)) =
      (plan.calls.filter fun call => (tools.find? call.intent).isSome).map
        fun call => (call.intent, call.arguments.render) := by
  rw [requests, List.map_map]
  conv_rhs => rw [← List.zipIdx_map_fst 0 (plan.calls.filter _), List.map_map]
  rfl

theorem requests_eq_nil_iff :
    requests plan tools = [] ↔ ∀ call ∈ plan.calls, tools.find? call.intent = none := by
  simp [requests, List.filter_eq_nil_iff]

/-! ### What the turns record -/

/-- The status in the answer to a request. -/
def statusOf (outcome : Outcome) : String :=
  if outcome.isOk then "SUCCESS" else "ERROR"

/-- How an answer records what came of a request. -/
structure Records (limits : Limits) (request : ToolRequest) (outcome : Outcome) (turn : Turn) :
    Prop where
  role : turn.role = .tool
  answers : turn.answers = some request.id
  name : turn.name = some request.tool
  /-- Its text is that of a record with the status, -/
  written : ∃ written : Json, turn.content = written.render ∧
    written.field? "status" = some (.str (statusOf outcome))
  /-- and who reads it finds the status, unless the limits let it nest deeper than can be read. -/
  read : limits.depth ≤ 125 → (∀ data, outcome = .ok data → Json.Throughout Json.Stored data) →
    ∃ read, Json.parse? turn.content = some read ∧
      read.field? "status" = some (.str (statusOf outcome))

theorem records_answerTurn (limits : Limits) (request : ToolRequest) (outcome : Outcome) :
    Records limits request outcome (answerTurn limits request outcome) := by
  obtain ⟨written, -, isWritten, carries, regular, nests⟩ :=
    Envelope.fit_written limits request.tool outcome
  have status : ∀ value, Envelope.Carries (Envelope.ofOutcome request.tool outcome) value →
      value.field? "status" = some (.str (statusOf outcome)) := by
    intro value carries
    obtain ⟨text, whole, here⟩ := carries "status" (by decide)
    rw [here, ← whole]
    cases outcome <;> rfl
  constructor
  · rfl
  · rfl
  · rfl
  · exact ⟨written, isWritten, status written carries⟩
  · intro shallow stored
    have deepest : limits.depth + 2 ≤ Json.Document.greatestDepth := Nat.add_le_add_right shallow 2
    refine ⟨written.reread, ?_, status _ carries.reread⟩
    change Json.parse? (Envelope.fit _ _) = _
    rw [isWritten, Json.parse?_render (regular (Envelope.stored_payload stored))
      (nests.mono deepest)]

/-- What an opening leaves: nothing if none of its calls may be made, and else a turn with requests
for those that may, and one answer for each request. -/
inductive Recorded (plan : OpeningPlan) (tools : Toolset η) : List Outcome → Transcript → Prop where
  | nothing : (∀ call ∈ plan.calls, tools.find? call.intent = none) → Recorded plan tools [] []
  | answered {asked : List ToolRequest} {outcomes : List Outcome} {answers : Transcript} :
      (∃ call ∈ plan.calls, tools.find? call.intent ≠ none) →
      asked.map (fun request => (request.tool, request.arguments)) =
        (plan.calls.filter fun call => (tools.find? call.intent).isSome).map
          (fun call => (call.intent, call.arguments.render)) →
      (asked.map (·.id)).Nodup →
      List.Forall₂ (fun call turn => Records plan.limits call.1 call.2 turn)
        (asked.zip outcomes) answers →
      answers.length = asked.length →
      Recorded plan tools outcomes (Turn.asking "" asked :: answers)

theorem recorded_turnsOf {outcomes : List Outcome}
    (all : outcomes.length = (requests plan tools).length) :
    Recorded plan tools outcomes (turnsOf plan.limits (requests plan tools) outcomes) := by
  rw [turnsOf]
  split
  · next isEmpty =>
      have nothing := List.isEmpty_iff.1 isEmpty
      rw [nothing] at all
      obtain rfl := List.length_eq_zero_iff.1 all
      exact .nothing (requests_eq_nil_iff.1 nothing)
  · next some =>
      refine .answered ?_ (requests_calls plan tools) (nodup_ids plan tools) ?_ ?_
      · rw [List.isEmpty_iff, requests_eq_nil_iff] at some
        push Not at some
        exact some
      · have answered : ∀ calls : List (ToolRequest × Outcome),
            List.Forall₂ (fun call turn => Records plan.limits call.1 call.2 turn) calls
              (calls.map fun call => answerTurn plan.limits call.1 call.2) := by
          intro calls
          rw [List.forall₂_map_right_iff, List.forall₂_same]
          exact fun call _ => records_answerTurn plan.limits call.1 call.2
        have zipped := answered ((requests plan tools).zip outcomes)
        rwa [List.map_zip_eq_zipWith] at zipped
      · rw [List.length_zipWith, all, Nat.min_self]

/-- The failures are the calls with the status of an error. -/
theorem failures_eq_count (outcomes : List Outcome) :
    failures outcomes = (outcomes.map statusOf).count "ERROR" := by
  rw [failures, List.count_eq_countP, List.countP_map]
  refine List.countP_congr fun outcome _ => ?_
  cases outcome <;> simp [statusOf, Except.isOk, Except.toBool]

/-! ### The policies -/

theorem forall_isOk_iff {outcomes : List Outcome} :
    (∀ outcome ∈ outcomes, outcome.isOk) ↔ ∃ values : List Json, outcomes = values.map .ok := by
  constructor
  · intro succeeded
    induction outcomes with
    | nil => exact ⟨[], rfl⟩
    | cons outcome outcomes ih =>
        obtain ⟨first, others⟩ := List.forall_mem_cons.1 succeeded
        obtain ⟨values, rfl⟩ := ih others
        cases outcome with
        | ok value => exact ⟨value :: values, rfl⟩
        | error error => cases first
  · rintro ⟨values, rfl⟩ outcome member
    obtain ⟨value, -, rfl⟩ := List.mem_map.1 member
    rfl

/-- What an opening does if nothing tells it to stop, for any calls, tools and layers.  Where
failures are reported, it makes all calls that may be made, whatever their outcomes, and ends in the
turns that record them, having reported how many calls there were and how many failed.  Where a
failure ends it, it ends in the same turns and the same report if all calls succeed; and else it
fails by the first call that failed, makes no call after it and reports nothing. -/
theorem run_by_policy (details : String → String) (plan : OpeningPlan) (tools : Toolset η)
    (chain : Chain η H)
    (session : String) :
    (∀ (log : List (Asked (unfolded η H))) result, Undisturbed log →
      (Runs (unfold details tools chain
          (run { plan with policy := .bestEffort } tools session)).run log result ↔
        ∃ outcomes calls, outcomes.length = (requests plan tools).length ∧
          Made details tools chain session [] ((requests plan tools).zip outcomes) calls ∧
          log = calls ++ completion session outcomes ∧
          result = .ok (turnsOf plan.limits (requests plan tools) outcomes))) ∧
    (∀ (log : List (Asked (unfolded η H))) result, Undisturbed log →
      (Runs (unfold details tools chain
          (run { plan with policy := .strict } tools session)).run log result ↔
        (∃ (values : List Json) (calls : List (Asked (unfolded η H))),
          values.length = (requests plan tools).length ∧
          Made details tools chain session [] ((requests plan tools).zip (values.map .ok)) calls ∧
          log = calls ++ completion session (values.map .ok) ∧
          result = .ok (turnsOf plan.limits (requests plan tools) (values.map .ok))) ∨
        ∃ (values : List Json) (request : ToolRequest) (error : CallError),
          (requests plan tools)[values.length]? = some request ∧
          Made details tools chain session []
            ((requests plan tools).zip (values.map .ok ++ [.error error])) log ∧
          result = .error (.openingFailed request.tool error.message))) ∧
    ∀ outcomes : List Outcome, outcomes.length = (requests plan tools).length →
      Recorded plan tools outcomes (turnsOf plan.limits (requests plan tools) outcomes) ∧
      failures outcomes = (outcomes.map statusOf).count "ERROR" := by
  refine ⟨fun log result undisturbed => ?_, fun log result undisturbed => ?_,
    fun outcomes all => ⟨recorded_turnsOf all, failures_eq_count outcomes⟩⟩
  · rw [runs_unfold_iff undisturbed]
    constructor
    · rintro ⟨outcomes, calls, last, ends, made, rfl⟩
      cases ends with
      | completed completed => exact ⟨outcomes, calls, completed.all, made, rfl, rfl⟩
      | stopped stopped => exact nomatch stopped.strict
    · rintro ⟨outcomes, calls, all, made, rfl, rfl⟩
      have completed : Completed { plan with policy := .bestEffort } (requests plan tools)
          outcomes := ⟨all, fun strict => nomatch strict⟩
      exact ⟨outcomes, calls, _, .completed completed, made, rfl⟩
  · rw [runs_unfold_iff undisturbed]
    constructor
    · rintro ⟨outcomes, calls, last, ends, made, rfl⟩
      cases ends with
      | completed completed =>
          obtain ⟨values, rfl⟩ := forall_isOk_iff.1 (completed.succeeded rfl)
          have all := completed.all
          rw [List.length_map] at all
          exact .inl ⟨values, calls, all, made, rfl, rfl⟩
      | @stopped request error stopped =>
          obtain ⟨values, rfl, isLast⟩ := stopped.first
          rw [List.append_nil]
          exact .inr ⟨values, request, error, isLast, made, rfl⟩
    · rintro (⟨values, calls, all, made, rfl, rfl⟩ | ⟨values, request, error, isLast, made, rfl⟩)
      · have completed : Completed { plan with policy := .strict } (requests plan tools)
            (values.map .ok) :=
          ⟨(List.length_map _).trans all, fun _ => forall_isOk_iff.2 ⟨values, rfl⟩⟩
        exact ⟨_, calls, _, .completed completed, made, rfl⟩
      · have stopped : StoppedAt { plan with policy := .strict } (requests plan tools)
            (values.map .ok ++ [.error error]) request error :=
          ⟨rfl, values, rfl, isLast⟩
        exact ⟨_, log, [], .stopped stopped, made, (List.append_nil log).symm⟩

/-! ### A lantern at dusk -/

/-- The lantern twice, and between them something unknown. -/
def dusk : OpeningPlan :=
  { calls := [⟨"lantern", .obj []⟩, ⟨"ghost", .obj []⟩, ⟨"lantern", .obj []⟩], policy := .bestEffort
    requireSession := false, limits := .standard }

/-- The lantern may be called. -/
def lamps : Toolset Unit := (Catalog.ofIntents [Exchange.lantern]).toolset none

/-- The lantern is lit once, and then there is no oil.  The state is the number of times it was
called. -/
def burning : (question : ExchangeQuestion (callInterface Unit Exchange.noHost)) →
    StateM Nat question.Answer
  | .secure _ _ _ => pure (.ok ())
  | .load _ => pure (.ok [])
  | .save _ _ => pure (.ok ())
  | .loadNotes _ => pure (.ok [])
  | .report _ => pure ()
  | .isCancelled => pure false
  | .today => pure (CivilDate.ofEpochSeconds 0)
  | .complete _ => pure (.ok (Turn.plain .assistant "done"))
  | .call (.handle _ _) => fun called =>
      (if called = 0 then .ok (.str "lit") else .error "no oil", called + 1)
  | .call (.grant _ _) => pure true
  | .call .clock => pure (0 : Int)
  | .call (.host question) => nomatch question

/-- The opening, with all that is asked in it. -/
def burnt (policy : FailurePolicy) :
    Except Fault Transcript × Nat × List (Asked (unfolded Unit Exchange.noHost)) :=
  Program.run (I := unfolded Unit Exchange.noHost) (Program.recording burning)
    (unfold id lamps [] (run { dusk with policy := policy } lamps "hall")).run (0, [])

/-- Whether an answer lets the exchange go on. -/
def goesOn? (asked : Asked (unfolded Unit Exchange.noHost)) : Bool :=
  match asked with
  | ⟨.isCancelled, isCancelled⟩ => !(isCancelled : Bool)
  | _ => true

theorem undisturbed_of_all (log : List (Asked (unfolded Unit Exchange.noHost)))
    (all : log.all goesOn? = true) : Undisturbed log := by
  intro answer member
  have goesOn := List.all_eq_true.1 all _ member
  simpa [goesOn?] using goesOn

theorem runs_burnt (policy : FailurePolicy) :
    Runs (unfold id lamps [] (run { dusk with policy := policy } lamps "hall")).run
      (burnt policy).2.2 (burnt policy).1 := by
  obtain ⟨log, isLog, runs⟩ := Program.runs_recording burning
    (unfold id lamps [] (run { dusk with policy := policy } lamps "hall")).run 0 []
  rw [List.nil_append] at isLog
  rwa [← isLog] at runs

theorem run_by_policy_burnt :
    (∃ outcomes turns, (burnt .bestEffort).1 = .ok turns ∧ turns.length = 3 ∧
      Recorded dusk lamps outcomes turns) ∧
    ∃ (earlier : List Json) (request : ToolRequest) (error : CallError),
      (requests dusk lamps)[earlier.length]? = some request ∧
      (burnt .strict).1 = .error (.openingFailed request.tool error.message) := by
  obtain ⟨bestEffort, strict, recorded⟩ :=
    run_by_policy id dusk lamps ([] : Chain Unit Exchange.noHost) "hall"
  constructor
  · have undisturbed := undisturbed_of_all (burnt .bestEffort).2.2 (by decide +kernel)
    obtain ⟨outcomes, calls, all, -, -, result⟩ :=
      (bestEffort _ _ undisturbed).1 (runs_burnt .bestEffort)
    have three : (burnt .bestEffort).1.map List.length = .ok 3 := by decide +kernel
    rw [result] at three
    exact ⟨outcomes, _, result, Except.ok.inj three, (recorded outcomes all).1⟩
  · have undisturbed := undisturbed_of_all (burnt .strict).2.2 (by decide +kernel)
    rcases (strict _ _ undisturbed).1 (runs_burnt .strict) with
      ⟨_, _, _, _, _, succeeded⟩ | ⟨earlier, request, error, isLast, -, failed⟩
    · have fails : (burnt .strict).1.isOk = false := by decide +kernel
      rw [succeeded] at fails
      cases fails
    · exact ⟨earlier, request, error, isLast, failed⟩

end Opening

end Parley
