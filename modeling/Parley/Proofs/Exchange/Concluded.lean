/-
Module: Parley.Proofs.Exchange.Concluded
Layer: Proofs
Purpose: By which of its answers an exchange ends.  It has been told that it is cancelled, the store
  has failed, or one step decided: the gate, the model or a call gave an answer after which nothing
  was left but to report and to save.
Main exports: Exchange.storeFault?, Exchange.roundsIn, Exchange.EndsAlone, Exchange.Concluded,
  Exchange.concluded_loop, Exchange.concluded_runWith
-/
import Parley.Proofs.Exchange.Endings
import Parley.Proofs.Transcript.Protocol

namespace Parley.Exchange

open Program (Asked Runs runs_run_bind runs_run_pure runs_run_throw runs_lift_bind runs_query_iff)

variable {η : Type}

/-- The fault with which the store answered a question. -/
def storeFault? : Asked (exchangeInterface wholeCalls) → Option Fault
  | ⟨.load _, .error fault⟩ => some fault
  | ⟨.save _ _, .error fault⟩ => some fault
  | ⟨.loadNotes _, .error fault⟩ => some fault
  | _ => none

/-- Whether a tool round is reported to be complete. -/
def completesRound : Asked (exchangeInterface wholeCalls) → Bool
  | ⟨.report (.toolRoundCompleted _ _ _ _ _), _⟩ => true
  | _ => false

/-- The number of tool rounds that were completed. -/
def roundsIn (log : Log) : Nat := log.countP completesRound

@[simp] theorem roundsIn_append (first second : Log) :
    roundsIn (first ++ second) = roundsIn first + roundsIn second := List.countP_append

/-- A step that an exchange has begun ends it by itself, whatever else it is told: `EndsAlone plan
before step rest result` says that after `before`, the answer to `step` leads to the result, and only
`rest` is asked after it. -/
inductive EndsAlone (plan : Plan η) :
    Log → Asked (exchangeInterface wholeCalls) → Log → Except Fault Reply → Prop where
  /-- The gate rejects the message. -/
  | rejected (user : Option String) (session message : String) (fault : Fault) :
      EndsAlone plan [] ⟨.secure user session message, .error fault⟩ [] (.error fault)
  /-- A call of an opening fails, and the opening is strict. -/
  | opening (before : Log) {opening : OpeningPlan} (call : Call) (error : CallError) :
      plan.opening = some opening → opening.policy = .strict →
      EndsAlone plan before ⟨.call call, .error error⟩ []
        (.error (.openingFailed call.tool error.message))
  /-- The model fails. -/
  | failed (before : Log) (request : ModelRequest) (fault : Fault) :
      EndsAlone plan before ⟨.complete request, .error fault⟩ [] (.error fault)
  /-- A call fails with an error that the model cannot correct. -/
  | fatal {before : Log} {call : Call} {error : CallError} : error.isRecoverable = false →
      EndsAlone plan before ⟨.call call, .error error⟩ [] (.error error.toFault)
  /-- The model asks for tools after as many rounds as are allowed. -/
  | exhausted {before : Log} {request : ModelRequest} {said : Turn} {session : String} :
      (adopted said).asksForTools = true → roundsIn before = plan.settings.maxRounds →
      EndsAlone plan before ⟨.complete request, .ok said⟩
        [⟨.report (.loopExhausted session plan.settings.maxRounds), ()⟩]
        (.error (.loopExhausted plan.settings.maxRounds))
  /-- The model answers without tools, in the required format. -/
  | answered {before : Log} {request : ModelRequest} {said : Turn} {session : String}
      {turns : Transcript} {rounds : Nat} :
      (adopted said).asksForTools = false → plan.settings.format.accepts said.content = true →
      EndsAlone plan before ⟨.complete request, .ok said⟩ (savedLog session turns)
        (.ok { text := said.content, rounds := rounds, fallback := false, length := turns.length })
  /-- The model answers when it is asked once more for the required format. -/
  | retried (before : Log) (request : ModelRequest) (said : Turn) (session : String)
      {turns : Transcript} {text : String} {rounds : Nat} :
      EndsAlone plan
        (before ++ [⟨.report (.outputReprompted session plan.settings.format.name), ()⟩,
          ⟨.isCancelled, false⟩])
        ⟨.complete request, .ok said⟩ (savedLog session turns)
        (.ok { text := text, rounds := rounds, fallback := false, length := turns.length })
  /-- The last call of a round fails, as all calls before it, and there were too many of them. -/
  | givenUp {before : Log} {call : Call} {error : CallError} {session : String}
      {round requests invalid rounds : Nat} {turns : Transcript} :
      error.isRecoverable = true → plan.settings.invalidThreshold ≤ invalid →
      EndsAlone plan before ⟨.call call, .error error⟩
        (⟨.report (.toolRoundCompleted session round requests invalid 0), ()⟩ ::
          ⟨.report (.safetyFallback session invalid), ()⟩ :: savedLog session turns)
        (.ok { text := plan.settings.fallback, rounds := rounds, fallback := true
               length := turns.length })

/-- How an exchange has ended, if all that it asked was `log`. -/
inductive Concluded (plan : Plan η) : Log → Except Fault Reply → Prop where
  | cancelled (before : Log) : Concluded plan (before ++ [⟨.isCancelled, true⟩]) (.error .cancelled)
  | unstored (before : Log) {asked : Asked (exchangeInterface wholeCalls)} {fault : Fault} :
      storeFault? asked = some fault → Concluded plan (before ++ [asked]) (.error fault)
  | alone {before : Log} {step : Asked (exchangeInterface wholeCalls)} {rest : Log}
      {result : Except Fault Reply} :
      EndsAlone plan before step rest result → Concluded plan (before ++ step :: rest) result

/-! ### The rounds -/

section Rounds

variable {plan : Plan η} {input : Input} {reuses : Bool} {notes : List String} {date : CivilDate}
  {number left : Nat} {turns : Transcript} {history : List Resolved} {before log : Log}
  {result : Except Fault Reply}

/-- A fault in a round comes from its last answer. -/
theorem concluded_of_stops {desk : Desk η} {resolved : List Resolved} {fault : Fault}
    (stops : Stops desk history resolved log fault) (before : Log) :
    Concluded plan (before ++ log) (.error fault) := by
  cases stops with
  | cancelled _ =>
      rw [← List.append_assoc]
      exact .cancelled _
  | @failed resolved last _ _ fails =>
      obtain ⟨request, means⟩ := last
      cases means with
      | reused content => contradiction
      | called outcome =>
          cases outcome with
          | ok value => contradiction
          | error error =>
              rw [Resolved.fault?] at fails
              dsimp only at fails
              split at fails
              · contradiction
              · next fatal =>
                  cases fails
                  have decides : ∀ early : Log, EndsAlone plan early
                      ⟨.call { session := desk.session, message := desk.message
                               tool := request.tool, arguments := request.arguments
                               earlier := values (history ++ resolved) }, .error error⟩ []
                      (.error error.toFault) :=
                    fun _ => .fatal (by simpa using fatal)
                  have ends := Concluded.alone
                    (decides (before ++ resolvedLog desk history resolved ++ [⟨.isCancelled, false⟩]))
                  rw [resolvedLog_append]
                  simpa [resolvedLog, Resolved.log] using ends

/-- What is left is to save the transcript. -/
theorem concluded_of_finish {step : Asked (exchangeInterface wholeCalls)} (rest : Log)
    {text : String} {fallback : Bool}
    (runs : Runs (finish (plan.frame reuses input notes date) turns text number fallback).run log
      result)
    (alone : EndsAlone plan before step (rest ++ savedLog input.session turns)
      (.ok { text := text, rounds := number, fallback := fallback, length := turns.length })) :
    Concluded plan (before ++ step :: (rest ++ log)) result := by
  rcases runs_finish runs with ⟨fault, rfl, rfl⟩ | ⟨rfl, rfl⟩
  · have unsaved : Concluded plan (before ++ step :: rest ++
        [⟨.save (plan.frame reuses input notes date).desk.session turns.numbered, .error fault⟩])
        (.error fault) :=
      .unstored _ rfl
    simpa using unsaved
  · exact .alone alone

/-- What follows an answer of the model without tools is decided by it, or by the answer to the
second request. -/
theorem concluded_of_answer {request : ModelRequest} {said : Turn}
    (asks : (adopted said).asksForTools = false)
    (runs : Runs (answer (plan.frame reuses input notes date) number turns (adopted said)).run log
      result) :
    Concluded plan (before ++ ⟨.complete request, .ok said⟩ :: log) result := by
  rcases runs_answer runs with ⟨fault, formatted, rfl⟩ | ⟨final, asked, after, rfl, formatted, ends⟩
  · cases formatted with
    | cancelled =>
        have stopped : Concluded plan _ _ := .cancelled (before ++ [⟨.complete request, .ok said⟩,
          ⟨.report (.outputReprompted input.session plan.settings.format.name), ()⟩])
        simpa [repromptLog, Plan.frame] using stopped
    | failed =>
        have failed : Concluded plan _ _ := .alone (.failed
          (before ++ [⟨.complete request, .ok said⟩,
            ⟨.report (.outputReprompted input.session plan.settings.format.name), ()⟩,
            ⟨.isCancelled, false⟩])
          (retryRequest (plan.frame reuses input notes date) turns (adopted said)) fault)
        simpa [repromptLog, Plan.frame] using failed
  · cases formatted with
    | accepted accepts => exact concluded_of_finish [] ends (.answered asks accepts)
    | retried again =>
        have retried := concluded_of_finish [] ends (.retried
          (before ++ [⟨.complete request, .ok said⟩])
          (retryRequest (plan.frame reuses input notes date) turns (adopted said)) again
          input.session)
        simpa [repromptLog, Plan.frame] using retried

/-- Where an exchange ends that has not been given up. -/
theorem concluded_of_ends (rounds : roundsIn before = number)
    (bound : number + left = plan.settings.maxRounds)
    (ends : Ends (plan.frame reuses input notes date) left number turns history log result) :
    Concluded plan (before ++ log) result := by
  cases ends with
  | cancelled => exact .cancelled before
  | failed fault =>
      have failed : Concluded plan _ _ := .alone (.failed (before ++ [⟨.isCancelled, false⟩])
        ((plan.frame reuses input notes date).request turns []) fault)
      simpa using failed
  | exhausted said none asks =>
      subst none
      rw [Nat.add_zero] at bound
      subst bound
      have checked : roundsIn (before ++ [⟨.isCancelled, false⟩]) = plan.settings.maxRounds := by
        rw [roundsIn_append, rounds]
        rfl
      have exhausted : EndsAlone plan (before ++ [⟨.isCancelled, false⟩])
          ⟨.complete ((plan.frame reuses input notes date).request turns []), .ok said⟩
          [⟨.report (.loopExhausted input.session plan.settings.maxRounds), ()⟩] _ :=
        .exhausted asks checked
      simpa [Plan.frame] using Concluded.alone exhausted
  | stopped part _ asks _ _ stops =>
      have stopped : Concluded plan _ _ := concluded_of_stops stops (before ++
        [⟨.isCancelled, false⟩,
          ⟨.complete ((plan.frame reuses input notes date).request turns []), .ok part.said⟩])
      simpa using stopped
  | answered asks runs =>
      have answered : Concluded plan (before ++ [⟨.isCancelled, false⟩] ++
          ⟨.complete ((plan.frame reuses input notes date).request turns []), .ok _⟩ :: _) _ :=
        concluded_of_answer asks runs
      simpa using answered

/-- Where no request has been answered by a result, the last of a round was called for, and the call
failed. -/
theorem Round.Complete.last {round : Round} (complete : round.Complete number)
    (none : successes round.resolved = 0) :
    ∃ resolved request error, round.resolved = resolved ++ [⟨request, .called (.error error)⟩] ∧
      error.isRecoverable = true := by
  have some : round.resolved ≠ [] := by
    intro empty
    have requests := (Turn.asksForTools_iff.1 complete.asks).2
    have sameLength := congrArg List.length complete.requests
    rw [List.length_map, RequestIds.length_distinct, empty] at sameLength
    exact requests (List.length_eq_zero_iff.1 sameLength.symm)
  obtain ⟨resolved, last, isResolved⟩ := List.eq_nil_or_concat round.resolved |>.resolve_left some
  rw [List.concat_eq_append] at isResolved
  have member : last ∈ round.resolved :=
    isResolved ▸ List.mem_append_right _ (List.mem_singleton_self _)
  have invalid : last.isInvalid = true := by
    simpa using List.countP_eq_zero.1 none last member
  have settled := complete.settled last member
  obtain ⟨request, means⟩ := last
  cases means with
  | reused content => contradiction
  | called outcome =>
      cases outcome with
      | ok value => contradiction
      | error error =>
          refine ⟨resolved, request, error, isResolved, ?_⟩
          simpa [Resolved.fault?] using settled

/-- An exchange that is given up after a round ends by the last call of the round. -/
theorem concluded_of_givenUp {round : Round} {text : String}
    (isText : text = plan.settings.fallback) (complete : round.Complete number)
    (hopeless : Hopeless plan.settings.invalidThreshold (history ++ round.resolved))
    (runs : Runs (finish (plan.frame reuses input notes date) turns text number true).run log
      result) {earlier : Transcript} :
    Concluded plan (before ++ (round.log (plan.frame reuses input notes date) number earlier history ++
      ⟨.report (.safetyFallback input.session (refusals (history ++ round.resolved))), ()⟩ :: log))
      result := by
  subst isText
  obtain ⟨tooMany, none⟩ := hopeless
  have noneHere : successes round.resolved = 0 := by
    rw [successes_append] at none
    exact Nat.eq_zero_of_add_eq_zero_left none
  obtain ⟨resolved, request, error, isResolved, recoverable⟩ := complete.last noneHere
  have decides : EndsAlone plan
      (before ++ ([⟨.isCancelled, false⟩,
        ⟨.complete ((plan.frame reuses input notes date).request earlier []), .ok round.said⟩] ++
        resolvedLog (plan.frame reuses input notes date).desk history resolved ++
          [⟨.isCancelled, false⟩]))
      ⟨.call { session := input.session, message := input.message, tool := request.tool
               arguments := request.arguments, earlier := values (history ++ resolved) },
        .error error⟩
      ([⟨.report (.toolRoundCompleted input.session number round.resolved.length
          (refusals (history ++ round.resolved)) 0), ()⟩,
        ⟨.report (.safetyFallback input.session (refusals (history ++ round.resolved))), ()⟩] ++
          savedLog input.session turns)
      (.ok { text := plan.settings.fallback, rounds := number, fallback := true
             length := turns.length }) :=
    .givenUp recoverable tooMany
  have ends := concluded_of_finish _ runs decides
  have isPart : resolvedLog (plan.frame reuses input notes date).desk history round.resolved =
      resolvedLog (plan.frame reuses input notes date).desk history resolved ++
        Resolved.log (plan.frame reuses input notes date).desk (history ++ resolved)
          ⟨request, .called (.error error)⟩ := by
    rw [isResolved, resolvedLog_append, resolvedLog, resolvedLog, List.append_nil]
  rw [Round.log, Round.work, isPart, none]
  simpa [Resolved.log, Plan.frame] using ends

/-- A complete round is one round more. -/
theorem roundsIn_round {round : Round} {earlier : Transcript} (frame : Frame η) :
    roundsIn (round.log frame number earlier history) = 1 := by
  have quiet : ∀ (history resolved : List Resolved),
      roundsIn (resolvedLog frame.desk history resolved) = 0 := by
    intro history resolved
    induction resolved generalizing history with
    | nil => rfl
    | cons first rest ih =>
        obtain ⟨request, means⟩ := first
        rw [resolvedLog, roundsIn_append, ih]
        cases means with
        | called outcome => rfl
        | reused content => rfl
  have isLog : round.log frame number earlier history =
      [⟨.isCancelled, false⟩, ⟨.complete (frame.request earlier []), .ok round.said⟩] ++
        (resolvedLog frame.desk history round.resolved ++
          [⟨.report (.toolRoundCompleted frame.desk.session number round.resolved.length
            (refusals (history ++ round.resolved)) (successes (history ++ round.resolved))), ()⟩]) :=
    rfl
  rw [isLog, roundsIn_append, roundsIn_append, quiet]
  rfl

/-- However many rounds there are, one of the answers decides. -/
theorem concluded_loop {progress : Progress}
    (reflects : Reflects (plan.frame reuses input notes date).desk history progress)
    (rounds : roundsIn before = number) (bound : number + left = plan.settings.maxRounds)
    (runs : Runs (loop (plan.frame reuses input notes date) number turns progress left).run log
      result) :
    Concluded plan (before ++ log) result := by
  -- `before` holds as many complete rounds as the loop has counted, so that the last round is known
  -- when it comes
  induction left generalizing number turns history progress before log with
  | zero =>
      have ends : Ends (plan.frame reuses input notes date) 0 number turns history log result :=
        runs_loop_last runs
      exact concluded_of_ends rounds bound ends
  | succ left ih =>
      rcases runs_loop_step reflects runs with ends | ⟨round, rest, complete, lawful, rfl, goesOn⟩
      · exact concluded_of_ends rounds bound ends
      · have counted : roundsIn (before ++
            round.log (plan.frame reuses input notes date) (number + 1) turns history) =
              number + 1 := by
          rw [roundsIn_append, rounds, roundsIn_round]
        have stillBound : number + 1 + left = plan.settings.maxRounds := by omega
        rcases goesOn with closes | ⟨after, reflected, hopeful, runsOn⟩
        · cases closes with
          | givenUp _ hopeless finishes => exact concluded_of_givenUp rfl complete hopeless finishes
          | ends _ ends =>
              rw [← List.append_assoc]
              exact concluded_of_ends counted stillBound ends
        · rw [← List.append_assoc]
          exact ih reflected counted stillBound runsOn

end Rounds

/-! ### The opening and the whole exchange -/

section Whole

variable {plan : Plan η} {log : Log}

/-- A fault in an opening: the exchange has been cancelled, or the last call failed and the opening is
strict. -/
theorem concluded_of_runCalls {opening : OpeningPlan} (isPlanned : plan.opening = some opening)
    {session : String} {earlier : List Json} {requests : List ToolRequest} {fault : Fault}
    (runs : Runs (Opening.runCalls opening session earlier requests).run log (.error fault))
    (before : Log) : Concluded plan (before ++ log) (.error fault) := by
  induction requests generalizing earlier log before with
  | nil =>
      obtain ⟨-, same⟩ := runs_run_pure runs
      contradiction
  | cons request requests ih =>
      rcases runs_checkCancelled_bind runs with ⟨rfl, same⟩ | ⟨rest, rfl, goesOn⟩
      · cases same
        exact .cancelled before
      · obtain ⟨outcome, later, rfl, called⟩ := runs_lift_bind goesOn
        cases outcome with
        | ok value =>
            dsimp only at called
            rcases runs_run_bind called with ⟨other, same, failed⟩ | ⟨_, _, _, -, -, ends⟩
            · cases same
              have concluded := ih failed (before ++ [⟨.isCancelled, false⟩,
                ⟨.call (Opening.callFor session earlier request), .ok value⟩])
              simpa using concluded
            · obtain ⟨-, same⟩ := runs_run_pure ends
              contradiction
        | error error =>
            dsimp only at called
            split at called
            · next strict =>
                obtain ⟨rfl, same⟩ := runs_run_throw called
                cases same
                have failed := Concluded.alone (.opening (before ++ [⟨.isCancelled, false⟩])
                  (Opening.callFor session earlier request) error isPlanned strict)
                simpa [Opening.callFor] using failed
            · rcases runs_run_bind called with ⟨other, same, failed⟩ | ⟨_, _, _, -, -, ends⟩
              · cases same
                have concluded := ih failed (before ++ [⟨.isCancelled, false⟩,
                  ⟨.call (Opening.callFor session earlier request), .error error⟩])
                simpa using concluded
              · obtain ⟨-, same⟩ := runs_run_pure ends
                contradiction

/-- A fault of an opening comes from its calls. -/
theorem concluded_of_opening {opening : OpeningPlan} (isPlanned : plan.opening = some opening)
    {tools : Toolset η} {session : String} {fault : Fault}
    (runs : Runs (Opening.run opening tools session).run log (.error fault)) (before : Log) :
    Concluded plan (before ++ log) (.error fault) := by
  rw [Opening.run] at runs
  dsimp only at runs
  split at runs
  · obtain ⟨-, same⟩ := runs_run_pure runs
    contradiction
  · rcases runs_run_bind runs with ⟨other, same, calls⟩ | ⟨_, made, _, -, -, reports⟩
    · cases same
      exact concluded_of_runCalls isPlanned calls before
    · obtain ⟨_, _, -, ends⟩ := runs_lift_bind reports
      obtain ⟨-, same⟩ := runs_run_pure ends
      contradiction

/-- A fault while a session is opened comes from the opening, or from the store. -/
theorem concluded_of_unopened {tools : Toolset η} {session : String} {stored : Transcript}
    {fault : Fault} (unopened : Unopened plan tools session stored log fault) (before : Log) :
    Concluded plan (before ++ log) (.error fault) := by
  cases unopened with
  | failed isPlanned runs => exact concluded_of_opening isPlanned runs before
  | unsaved =>
      rw [← List.append_assoc]
      exact .unstored _ rfl

/-- No round is completed while a session is opened. -/
theorem Opened.roundsIn_eq {tools : Toolset η} {session : String} {stored added : Transcript}
    (opened : Opened plan tools session stored added log) : roundsIn log = 0 := by
  cases opened with
  | without => rfl
  | @saved opening added part _ _ runs _ =>
      have none : roundsIn part = 0 := by
        apply List.countP_eq_zero.2
        rintro ⟨question, answer⟩ member
        have introduces := (runs_opening runs).1 _ member
        cases question with
        | report event =>
            cases event with
            | openingCompleted => exact Bool.false_ne_true
            | _ => exact introduces.elim
        | isCancelled => exact Bool.false_ne_true
        | call => exact Bool.false_ne_true
        | _ => exact introduces.elim
      rw [roundsIn_append, none]
      rfl

/-- However an exchange is answered, one of its answers decides how it ends. -/
theorem concluded_runWith {reuses : Bool} {input : Input} {result : Except Fault Reply}
    (runs : Runs (runWith reuses plan input).run log result) : Concluded plan log result := by
  rcases runs_run_bind runs with ⟨fault, rfl, failed⟩ | ⟨gate, _, afterGate, rfl, passes, rest⟩
  · rw [runs_query_iff.1 failed]
    have rejected : Concluded plan _ _ :=
      .alone (.rejected input.user input.session input.message fault)
    exact rejected
  rcases runs_run_bind rest with ⟨fault, rfl, failed⟩ | ⟨store, stored, afterStore, rfl, loads, rest⟩
  · rw [runs_query_iff.1 failed]
    exact .unstored gate rfl
  rcases runs_run_bind rest with ⟨fault, rfl, failed⟩ | ⟨opened, turns, afterOpened, rfl, opens, rest⟩
  · rcases runs_openSession failed with ⟨other, same, unopened⟩ | ⟨added, same, -⟩
    · cases same
      rw [← List.append_assoc]
      exact concluded_of_unopened unopened _
    · contradiction
  rcases runs_run_bind rest with ⟨fault, rfl, failed⟩ | ⟨noting, notes, afterNotes, rfl, noted, rest⟩
  · rw [runs_query_iff.1 failed, ← List.append_assoc, ← List.append_assoc]
    exact .unstored _ rfl
  obtain ⟨date, afterDate, rfl, loops⟩ := runs_lift_bind rest
  rcases runs_openSession opens with ⟨other, same, -⟩ | ⟨added, same, isOpened⟩
  · contradiction
  have loops : Runs (loop (plan.frame reuses input notes date) 0
      (turns ++ [Turn.plain .user input.message]) .start plan.settings.maxRounds).run
      afterDate result := loops
  rw [runs_query_iff.1 passes, runs_query_iff.1 loads, runs_query_iff.1 noted]
  have none : roundsIn ([⟨.secure input.user input.session input.message, .ok ()⟩,
      ⟨.load input.session, .ok stored⟩] ++ opened ++
        [⟨.loadNotes input.session, .ok notes⟩, ⟨.today, date⟩]) = 0 := by
    rw [roundsIn_append, roundsIn_append, isOpened.roundsIn_eq]
    rfl
  have concluded := concluded_loop (reflects_start _) none (Nat.zero_add _) loops
  simpa using concluded

end Whole

end Parley.Exchange
