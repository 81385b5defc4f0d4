/-
Module: Parley.Proofs.Exchange.Rounds
Layer: Proofs
Purpose: What an exchange asks from its first round on, question by question, whatever the answers
  are.  A round is told by what the model said and by how each of its requests was resolved, and what
  is known to the exchange after some rounds is told by the requests resolved so far.  So a run of the
  loop is some rounds, each resolved to its end, and what comes after them.
Main exports: Exchange.Log, Exchange.Resolved, Exchange.Reflects, Exchange.Lawful, Exchange.Stops,
  Exchange.Round, Exchange.roundsLog, Exchange.Ends, Exchange.Closes, Exchange.Course,
  Exchange.runs_loop_step, Exchange.runs_loop
-/
import Parley.Exchange.Loop
import Parley.Proofs.Program.Runs

namespace Parley.Exchange

open Program (Asked Runs runs_run_bind runs_run_pure runs_run_throw runs_lift_bind runs_query_iff)

variable {η : Type}

/-- The questions of an exchange with their answers, where a whole call is one question. -/
abbrev Log : Type := List (Asked (exchangeInterface wholeCalls))

/-! ### Requests -/

/-- How a request of a tool round was resolved. -/
inductive Means where
  | called (outcome : Outcome)
  | reused (content : String)

/-- A request of a tool round, and how it was resolved. -/
structure Resolved where
  request : ToolRequest
  means : Means

namespace Resolved

/-- The result of a call that was made for the request and succeeded. -/
def value? (resolved : Resolved) : Option Json :=
  match resolved.means with
  | .called (.ok value) => some value
  | _ => none

/-- The fault with which the call ended the exchange, if it did. -/
def fault? (resolved : Resolved) : Option Fault :=
  match resolved.means with
  | .called (.error error) => if error.isRecoverable then none else some error.toFault
  | _ => none

/-- Whether the request was answered by an error. -/
def isInvalid (resolved : Resolved) : Bool :=
  match resolved.means with
  | .called (.error _) => true
  | _ => false

/-- The text that answers the request, where the tools have some names. -/
def content (names : List String) (resolved : Resolved) : String :=
  match resolved.means with
  | .called (.ok value) => value.render
  | .called (.error error) => (error.payload resolved.request.tool names).render
  | .reused content => content

/-- The turn that answers the request. -/
def turn (names : List String) (resolved : Resolved) : Turn :=
  Turn.response resolved.request (resolved.content names)

/-- Whether two requests are for the same tool, with the same text of arguments. -/
def isLike (resolved : Resolved) (request : ToolRequest) : Bool :=
  resolved.request.tool = request.tool && resolved.request.arguments = request.arguments

end Resolved

/-- The results of the calls that were made and succeeded. -/
def values (history : List Resolved) : List Json := history.filterMap Resolved.value?

/-- The number of requests that were answered by an error. -/
def refusals (history : List Resolved) : Nat := history.countP Resolved.isInvalid

/-- The number of requests that were answered by a result, new or reused. -/
def successes (history : List Resolved) : Nat := history.countP fun resolved => !resolved.isInvalid

theorem refusals_append (first second : List Resolved) :
    refusals (first ++ second) = refusals first + refusals second := List.countP_append

theorem successes_append (first second : List Resolved) :
    successes (first ++ second) = successes first + successes second := List.countP_append

/-- The result of the last call like a request that succeeded. -/
def result? (history : List Resolved) (request : ToolRequest) : Option Json :=
  history.reverse.findSome? fun resolved =>
    if resolved.isLike request then resolved.value? else none

theorem result?_concat (history : List Resolved) (resolved : Resolved) (request : ToolRequest) :
    result? (history ++ [resolved]) request =
      ((if resolved.isLike request then resolved.value? else none).or (result? history request)) := by
  simp only [result?, List.reverse_append, List.reverse_singleton, List.singleton_append,
    List.findSome?_cons]
  cases (if resolved.isLike request then resolved.value? else none) with
  | none => rfl
  | some value => rfl

/-- Where an earlier result may be reused, it is; where there is none, the call is made. -/
def Fits (desk : Desk η) (history : List Resolved) (resolved : Resolved) : Prop :=
  match if desk.reuses then result? history resolved.request else none with
  | some value => resolved.means = .reused value.render
  | none => ∃ outcome, resolved.means = .called outcome

/-- Each request fits all that have been resolved before it. -/
def Lawful (desk : Desk η) : List Resolved → List Resolved → Prop
  | _, [] => True
  | history, resolved :: rest =>
      Fits desk history resolved ∧ Lawful desk (history ++ [resolved]) rest

theorem lawful_append {desk : Desk η} {history first second : List Resolved} :
    Lawful desk history (first ++ second) ↔
      Lawful desk history first ∧ Lawful desk (history ++ first) second := by
  induction first generalizing history with
  | nil => simp [Lawful]
  | cons resolved first ih => simp [Lawful, ih, and_assoc]

/-- What is asked for a request: whether the exchange has been cancelled; then its call, unless an
earlier result is reused. -/
def Resolved.log (desk : Desk η) (history : List Resolved) (resolved : Resolved) : Log :=
  [⟨.isCancelled, false⟩,
    match resolved.means with
    | .called outcome =>
        ⟨.call { session := desk.session, message := desk.message, tool := resolved.request.tool
                 arguments := resolved.request.arguments, earlier := values history }, outcome⟩
    | .reused _ =>
        ⟨.report (.toolCacheHit desk.session resolved.request.tool resolved.request.id), ()⟩]

/-- What is asked for some requests, one after another. -/
def resolvedLog (desk : Desk η) : List Resolved → List Resolved → Log
  | _, [] => []
  | history, resolved :: rest =>
      resolved.log desk history ++ resolvedLog desk (history ++ [resolved]) rest

theorem resolvedLog_append (desk : Desk η) (history first second : List Resolved) :
    resolvedLog desk history (first ++ second) =
      resolvedLog desk history first ++ resolvedLog desk (history ++ first) second := by
  induction first generalizing history with
  | nil => simp [resolvedLog]
  | cons resolved first ih => simp [resolvedLog, ih]

/-! ### What an exchange knows -/

/-- The progress of an exchange tells what has been resolved in it. -/
structure Reflects (desk : Desk η) (history : List Resolved) (progress : Progress) : Prop where
  results : progress.results = values history
  invalid : progress.invalid = refusals history
  succeeded : progress.succeeded = successes history
  cache : ∀ request, progress.cache.find? (cacheKey desk request) =
    (result? history request).map Json.render

theorem reflects_start (desk : Desk η) : Reflects desk [] .start where
  results := rfl
  invalid := rfl
  succeeded := rfl
  cache _ := rfl

section Steps

variable {desk : Desk η} {history : List Resolved} {progress : Progress} {request : ToolRequest}

/-- Requests share a key exactly if they are for the same tool, with the same text of arguments. -/
theorem cacheKey_eq_iff {other : ToolRequest} :
    cacheKey desk request = cacheKey desk other ↔
      request.tool = other.tool ∧ request.arguments = other.arguments := by
  simp only [cacheKey, CacheKey.ofRequest, CacheKey.mk.injEq]
  constructor
  · rintro ⟨tool, arguments, -⟩
    exact ⟨tool, arguments⟩
  · rintro ⟨tool, arguments⟩
    exact ⟨tool, arguments, by rw [tool]⟩

theorem Reflects.stored?_eq (reflects : Reflects desk history progress) :
    stored? desk progress request =
      (if desk.reuses then result? history request else none).map Json.render := by
  rw [stored?]
  split
  · exact reflects.cache request
  · rfl

theorem Reflects.reused (reflects : Reflects desk history progress) (content : String) :
    Reflects desk (history ++ [⟨request, .reused content⟩])
      { progress with succeeded := progress.succeeded + 1 } where
  results := by simp [values, Resolved.value?, reflects.results]
  invalid := by simp [refusals, Resolved.isInvalid, reflects.invalid]
  succeeded := by simp [successes, Resolved.isInvalid, reflects.succeeded]
  cache other := by simp [result?_concat, Resolved.value?, reflects.cache]

theorem Reflects.refused (reflects : Reflects desk history progress) (error : CallError) :
    Reflects desk (history ++ [⟨request, .called (.error error)⟩])
      { progress with invalid := progress.invalid + 1 } where
  results := by simp [values, Resolved.value?, reflects.results]
  invalid := by simp [refusals, Resolved.isInvalid, reflects.invalid]
  succeeded := by simp [successes, Resolved.isInvalid, reflects.succeeded]
  cache other := by simp [result?_concat, Resolved.value?, reflects.cache]

theorem Reflects.returned (reflects : Reflects desk history progress) (value : Json) :
    Reflects desk (history ++ [⟨request, .called (.ok value)⟩])
      { cache := progress.cache.insert (cacheKey desk request) value.render
        results := progress.results ++ [value]
        invalid := progress.invalid
        succeeded := progress.succeeded + 1 } where
  results := by simp [values, Resolved.value?, reflects.results]
  invalid := by simp [refusals, Resolved.isInvalid, reflects.invalid]
  succeeded := by simp [successes, Resolved.isInvalid, reflects.succeeded]
  cache other := by
    rw [result?_concat]
    by_cases like : cacheKey desk request = cacheKey desk other
    · rw [← like, ResultCache.find?_insert_self]
      simp [Resolved.isLike, Resolved.value?, cacheKey_eq_iff.1 like]
    · rw [ResultCache.find?_insert_of_ne _ _ like, reflects.cache]
      rw [cacheKey_eq_iff] at like
      simp [Resolved.isLike, like]

/-! ### Single requests -/

/-- A program goes on if the exchange has not been cancelled, and ends if it has. -/
theorem runs_checkCancelled_bind {α : Type} {next : Unit → ExchangeProgram wholeCalls α} {log : Log}
    {result : Except Fault α} (runs : Runs (checkCancelled >>= next).run log result) :
    log = [⟨.isCancelled, true⟩] ∧ result = .error .cancelled ∨
      ∃ rest, log = ⟨.isCancelled, false⟩ :: rest ∧ Runs (next ()).run rest result := by
  rw [checkCancelled, bind_assoc] at runs
  obtain ⟨isCancelled, rest, rfl, goesOn⟩ := runs_lift_bind runs
  cases isCancelled with
  | true =>
      obtain ⟨rfl, rfl⟩ := runs_run_throw goesOn
      exact .inl ⟨rfl, rfl⟩
  | false => exact .inr ⟨rest, rfl, goesOn⟩

/-- A request is resolved, with what the exchange then knows, or its call ends the exchange. -/
def Settles (desk : Desk η) (history : List Resolved) (resolved : Resolved)
    (result : Except Fault (Turn × Progress)) : Prop :=
  match resolved.fault? with
  | some fault => result = .error fault
  | none =>
      ∃ after, result = .ok (resolved.turn desk.tools.names, after) ∧
        Reflects desk (history ++ [resolved]) after

theorem runs_resolveNew (reflects : Reflects desk history progress) {log : Log}
    {result : Except Fault (Turn × Progress)}
    (runs : Runs (resolveNew desk progress request).run log result) :
    ∃ outcome,
      log = [⟨.call { session := desk.session, message := desk.message, tool := request.tool
                      arguments := request.arguments, earlier := values history }, outcome⟩] ∧
      Settles desk history ⟨request, .called outcome⟩ result := by
  obtain ⟨outcome, rest, rfl, ends⟩ := runs_lift_bind runs
  rw [callFor, reflects.results]
  cases outcome with
  | ok value =>
      obtain ⟨rfl, rfl⟩ := runs_run_pure ends
      exact ⟨_, rfl, _, rfl, reflects.returned value⟩
  | error error =>
      dsimp only at ends
      split at ends
      · next recoverable =>
          obtain ⟨rfl, rfl⟩ := runs_run_pure ends
          refine ⟨_, rfl, ?_⟩
          simp only [Settles, Resolved.fault?, recoverable]
          exact ⟨_, rfl, reflects.refused error⟩
      · next fatal =>
          obtain ⟨rfl, rfl⟩ := runs_run_throw ends
          refine ⟨_, rfl, ?_⟩
          simp only [Settles, Resolved.fault?, fatal]
          rfl

/-- The requests of a round have been resolved up to one at which the exchange ends: it has been
cancelled, or the call of the last request ends it. -/
inductive Stops (desk : Desk η) (history : List Resolved) :
    List Resolved → Log → Fault → Prop where
  | cancelled {resolved : List Resolved} :
      (∀ one ∈ resolved, one.fault? = none) →
      Stops desk history resolved
        (resolvedLog desk history resolved ++ [⟨.isCancelled, true⟩]) .cancelled
  | failed {resolved : List Resolved} {last : Resolved} {fault : Fault} :
      (∀ one ∈ resolved, one.fault? = none) → last.fault? = some fault →
      Stops desk history (resolved ++ [last]) (resolvedLog desk history (resolved ++ [last])) fault

/-- A request is resolved, or the exchange ends at it. -/
theorem runs_resolve (reflects : Reflects desk history progress) {log : Log}
    {result : Except Fault (Turn × Progress)}
    (runs : Runs (resolve desk progress request).run log result) :
    (∃ part fault, part.map (·.request) <+: [request] ∧ Lawful desk history part ∧
        Stops desk history part log fault ∧ result = .error fault) ∨
      ∃ resolved after, resolved.request = request ∧ Fits desk history resolved ∧
        resolved.fault? = none ∧ log = resolved.log desk history ∧
        result = .ok (resolved.turn desk.tools.names, after) ∧
        Reflects desk (history ++ [resolved]) after := by
  rcases runs_checkCancelled_bind runs with ⟨rfl, rfl⟩ | ⟨rest, rfl, goesOn⟩
  · exact .inl ⟨[], _, List.nil_prefix, trivial, .cancelled (by simp), rfl⟩
  · rw [reflects.stored?_eq] at goesOn
    cases found : if desk.reuses then result? history request else none with
    | some value =>
        rw [found] at goesOn
        obtain ⟨_, _, rfl, ends⟩ := runs_lift_bind goesOn
        obtain ⟨rfl, rfl⟩ := runs_run_pure ends
        refine .inr ⟨⟨request, .reused value.render⟩, _, rfl, ?_, rfl, rfl, rfl,
          reflects.reused _⟩
        simp only [Fits, found]
    | none =>
        rw [found] at goesOn
        obtain ⟨outcome, rfl, settles⟩ := runs_resolveNew reflects goesOn
        have fits : Fits desk history ⟨request, .called outcome⟩ := by
          simp only [Fits, found]
          exact ⟨outcome, rfl⟩
        cases fails : Resolved.fault? ⟨request, .called outcome⟩ with
        | some fault =>
            rw [Settles, fails] at settles
            have stops : Stops desk history ([] ++ [⟨request, .called outcome⟩])
                (resolvedLog desk history ([] ++ [⟨request, .called outcome⟩])) fault :=
              .failed (by simp) fails
            exact .inl ⟨[⟨request, .called outcome⟩], fault, List.prefix_rfl, ⟨fits, trivial⟩,
              stops, settles⟩
        | none =>
            rw [Settles, fails] at settles
            obtain ⟨after, same, reflectsAfter⟩ := settles
            exact .inr ⟨_, after, rfl, fits, fails, rfl, same, reflectsAfter⟩

end Steps

/-! ### Rounds -/

section Rounds

variable {desk : Desk η} {history : List Resolved} {progress : Progress}

theorem Stops.cons {first : Resolved} {rest : List Resolved} {log : Log} {fault : Fault}
    (settled : first.fault? = none) (stops : Stops desk (history ++ [first]) rest log fault) :
    Stops desk history (first :: rest) (first.log desk history ++ log) fault := by
  have noFault : ∀ {others : List Resolved}, (∀ one ∈ others, one.fault? = none) →
      ∀ one ∈ first :: others, one.fault? = none := by
    intro others none one member
    rcases List.mem_cons.1 member with here | there
    · exact here ▸ settled
    · exact none one there
  cases stops with
  | cancelled none =>
      rw [← List.append_assoc]
      exact .cancelled (noFault none)
  | failed none failed => exact .failed (noFault none) failed

/-- All requests of a round are resolved, or the exchange ends at one of them. -/
theorem runs_resolveAll {requests : List ToolRequest} (reflects : Reflects desk history progress)
    {log : Log} {result : Except Fault (Transcript × Progress)}
    (runs : Runs (resolveAll desk progress requests).run log result) :
    (∃ part fault, part.map (·.request) <+: requests ∧ Lawful desk history part ∧
        Stops desk history part log fault ∧ result = .error fault) ∨
      ∃ resolved after, resolved.map (·.request) = requests ∧ Lawful desk history resolved ∧
        (∀ one ∈ resolved, one.fault? = none) ∧ log = resolvedLog desk history resolved ∧
        result = .ok (resolved.map (·.turn desk.tools.names), after) ∧
        Reflects desk (history ++ resolved) after := by
  -- The history grows with each request; `Reflects` is what carries over to the next.
  induction requests generalizing history progress log result with
  | nil =>
      obtain ⟨rfl, rfl⟩ := runs_run_pure runs
      refine .inr ⟨[], progress, rfl, trivial, by simp, rfl, rfl, ?_⟩
      rwa [List.append_nil]
  | cons request requests ih =>
      rcases runs_run_bind runs with ⟨fault, rfl, failed⟩ | ⟨before, made, after, rfl, first, rest⟩
      · rcases runs_resolve reflects failed with
          ⟨part, other, isPart, lawful, stops, same⟩ | ⟨resolved, after, -, -, -, -, same, -⟩
        · cases same
          have isPartOfAll := isPart.trans (List.prefix_append [request] requests)
          exact .inl ⟨part, fault, isPartOfAll, lawful, stops, rfl⟩
        · contradiction
      · rcases runs_resolve reflects first with
          ⟨part, other, -, -, -, same⟩ | ⟨resolved, known, rfl, fits, settled, rfl, same, reflected⟩
        · contradiction
        · cases same
          rcases runs_run_bind rest with
            ⟨fault, rfl, failed⟩ | ⟨middle, others, last, rfl, resolves, ends⟩
          · rcases ih reflected failed with
              ⟨part, other, isPart, lawful, stops, same⟩ | ⟨others, after, -, -, -, -, same, -⟩
            · cases same
              refine .inl ⟨resolved :: part, fault, ?_, ⟨fits, lawful⟩, stops.cons settled, rfl⟩
              exact List.cons_prefix_cons.2 ⟨rfl, isPart⟩
            · contradiction
          · obtain ⟨rfl, rfl⟩ := runs_run_pure ends
            rcases ih reflected resolves with
              ⟨part, other, -, -, -, same⟩ | ⟨others, ended, rfl, lawful, none, rfl, same, reflectedAll⟩
            · contradiction
            · cases same
              refine .inr ⟨resolved :: others, ended, rfl, ⟨fits, lawful⟩, ?_, ?_, rfl, ?_⟩
              · intro one member
                rcases List.mem_cons.1 member with here | there
                · exact here ▸ settled
                · exact none one there
              · rw [List.append_nil]
                rfl
              · rwa [List.append_assoc, List.singleton_append] at reflectedAll

/-- The responses of a round, one to each request in order, are left as they are. -/
theorem inOrder_turns (available names : List String) (resolved : List Resolved) :
    Responses.inOrder available (resolved.map (·.request)) (resolved.map (·.turn names)) =
      resolved.map (·.turn names) := by
  induction resolved with
  | nil => rfl
  | cons first rest ih =>
      have answers : (first.turn names).answers = some first.request.id := rfl
      simp only [List.map_cons, Responses.inOrder, Responses.take?, if_pos answers, ih]

end Rounds

/-! ### The loop -/

/-- What the model said, as a new turn of the assistant. -/
def adopted (said : Turn) : Turn := { said with role := .assistant, id := 0 }

/-- A round: what the model said, and how its requests were resolved. -/
structure Round where
  said : Turn
  resolved : List Resolved

/-- What a round adds to the transcript. -/
def Round.turns (names : List String) (round : Round) : Transcript :=
  { adopted round.said with requests := round.resolved.map (·.request) } ::
    round.resolved.map (·.turn names)

/-- The model asked for tools in the round with a number, and all its requests were resolved. -/
structure Round.Complete (number : Nat) (round : Round) : Prop where
  asks : (adopted round.said).asksForTools = true
  requests : round.resolved.map (·.request) = RequestIds.distinct number round.said.requests
  settled : ∀ one ∈ round.resolved, one.fault? = none

/-- What is asked in the round with a number after the model has spoken. -/
def Round.work (desk : Desk η) (number : Nat) (history : List Resolved) (round : Round) : Log :=
  resolvedLog desk history round.resolved ++
    [⟨.report (.toolRoundCompleted desk.session number round.resolved.length
      (refusals (history ++ round.resolved)) (successes (history ++ round.resolved))), ()⟩]

/-- What is asked in the round with a number. -/
def Round.log (frame : Frame η) (number : Nat) (turns : Transcript) (history : List Resolved)
    (round : Round) : Log :=
  ⟨.isCancelled, false⟩ :: ⟨.complete (frame.request turns []), .ok round.said⟩ ::
    round.work frame.desk number history

/-- All requests of some rounds. -/
def resolvedIn (rounds : List Round) : List Resolved := rounds.flatMap (·.resolved)

/-- All that some rounds add to the transcript. -/
def turnsOf (names : List String) (rounds : List Round) : Transcript :=
  rounds.flatMap (·.turns names)

@[simp] theorem resolvedIn_nil : resolvedIn [] = [] := rfl

@[simp] theorem resolvedIn_cons (round : Round) (rounds : List Round) :
    resolvedIn (round :: rounds) = round.resolved ++ resolvedIn rounds := List.flatMap_cons

@[simp] theorem resolvedIn_append (first second : List Round) :
    resolvedIn (first ++ second) = resolvedIn first ++ resolvedIn second := List.flatMap_append

@[simp] theorem turnsOf_nil (names : List String) : turnsOf names [] = [] := rfl

@[simp] theorem turnsOf_cons (names : List String) (round : Round) (rounds : List Round) :
    turnsOf names (round :: rounds) = round.turns names ++ turnsOf names rounds :=
  List.flatMap_cons

/-- So many requests have been answered by an error, and none by a result, that the exchange is given
up. -/
def Hopeless (threshold : Nat) (history : List Resolved) : Prop :=
  threshold ≤ refusals history ∧ successes history = 0

/-- How an exchange ends after `number` rounds, where it has not been given up: it is cancelled; or the
model fails, asks for tools once too often, asks for tools of which one ends the exchange, or
answers. -/
inductive Ends (frame : Frame η) (left number : Nat) (turns : Transcript)
    (history : List Resolved) : Log → Except Fault Reply → Prop where
  | cancelled : Ends frame left number turns history [⟨.isCancelled, true⟩] (.error .cancelled)
  | failed (fault : Fault) :
      Ends frame left number turns history
        [⟨.isCancelled, false⟩, ⟨.complete (frame.request turns []), .error fault⟩] (.error fault)
  | exhausted (said : Turn) :
      left = 0 → (adopted said).asksForTools = true →
      Ends frame left number turns history
        [⟨.isCancelled, false⟩, ⟨.complete (frame.request turns []), .ok said⟩,
          ⟨.report (.loopExhausted frame.desk.session number), ()⟩]
        (.error (.loopExhausted number))
  | stopped (part : Round) {log : Log} {fault : Fault} :
      0 < left → (adopted part.said).asksForTools = true →
      part.resolved.map (·.request) <+: RequestIds.distinct (number + 1) part.said.requests →
      Lawful frame.desk history part.resolved →
      Stops frame.desk history part.resolved log fault →
      Ends frame left number turns history
        (⟨.isCancelled, false⟩ :: ⟨.complete (frame.request turns []), .ok part.said⟩ :: log)
        (.error fault)
  | answered {said : Turn} {log : Log} {result : Except Fault Reply} :
      (adopted said).asksForTools = false →
      Runs (answer frame number turns (adopted said)).run log result →
      Ends frame left number turns history
        (⟨.isCancelled, false⟩ :: ⟨.complete (frame.request turns []), .ok said⟩ :: log) result

/-- How an exchange goes on after `number` rounds: it is given up, or it is not and ends. -/
inductive Closes (frame : Frame η) (left number : Nat) (turns : Transcript)
    (history : List Resolved) : Log → Except Fault Reply → Prop where
  | givenUp {log : Log} {result : Except Fault Reply} :
      0 < number → Hopeless frame.settings.invalidThreshold history →
      Runs (finish frame (turns ++ [Turn.plain .assistant frame.settings.fallback])
        frame.settings.fallback number true).run log result →
      Closes frame left number turns history
        (⟨.report (.safetyFallback frame.desk.session (refusals history)), ()⟩ :: log) result
  | ends {log : Log} {result : Except Fault Reply} :
      (0 < number → ¬Hopeless frame.settings.invalidThreshold history) →
      Ends frame left number turns history log result →
      Closes frame left number turns history log result

/-- What is asked in some rounds, one after another. -/
def roundsLog (frame : Frame η) :
    (number : Nat) → Transcript → List Resolved → List Round → Log
  | _, _, _, [] => []
  | number, turns, history, round :: rounds =>
      round.log frame (number + 1) turns history ++
        roundsLog frame (number + 1) (turns ++ round.turns frame.desk.tools.names)
          (history ++ round.resolved) rounds

/-- The course of an exchange after `number` rounds, while at most `left` more are allowed: the rounds
that are run to their ends, up to where it is given up, and what is asked after them. -/
structure Course (frame : Frame η) (number left : Nat) (turns : Transcript)
    (history : List Resolved) (rounds : List Round) (ending : Log) (result : Except Fault Reply) :
    Prop where
  bound : rounds.length ≤ left
  complete : ∀ index (round : Round), rounds[index]? = some round →
    round.Complete (number + index + 1)
  lawful : Lawful frame.desk history (resolvedIn rounds)
  hopeful : ∀ index, index < rounds.length → 0 < number + index →
    ¬Hopeless frame.settings.invalidThreshold (history ++ resolvedIn (rounds.take index))
  closes : Closes frame (left - rounds.length) (number + rounds.length)
    (turns ++ turnsOf frame.desk.tools.names rounds) (history ++ resolvedIn rounds) ending result

section Course

variable {frame : Frame η} {number left : Nat} {turns : Transcript} {history : List Resolved}
  {ending : Log} {result : Except Fault Reply}

theorem course_nil (closes : Closes frame left number turns history ending result) :
    Course frame number left turns history [] ending result where
  bound := Nat.zero_le left
  complete := by simp
  lawful := trivial
  hopeful := by simp
  closes := by simpa using closes

/-- One more round before the others. -/
theorem Course.cons {round : Round} {rounds : List Round} (complete : round.Complete (number + 1))
    (lawful : Lawful frame.desk history round.resolved)
    (hopeful : 0 < number → ¬Hopeless frame.settings.invalidThreshold history)
    (course : Course frame (number + 1) left (turns ++ round.turns frame.desk.tools.names)
      (history ++ round.resolved) rounds ending result) :
    Course frame number (left + 1) turns history (round :: rounds) ending result where
  bound := Nat.succ_le_succ course.bound
  complete index other isRound := by
    cases index with
    | zero =>
        cases isRound
        exact complete
    | succ index =>
        have later := course.complete index other isRound
        rwa [Nat.add_right_comm number 1 index] at later
  lawful := lawful_append.2 ⟨lawful, course.lawful⟩
  hopeful index isRound someRound := by
    cases index with
    | zero => simpa using hopeful someRound
    | succ index =>
        have later := course.hopeful index (Nat.lt_of_succ_lt_succ isRound) (by omega)
        simpa using later
  closes := by
    have closes := course.closes
    rw [Nat.add_assoc, Nat.add_comm 1] at closes
    simpa using closes

end Course

section Loop

variable {frame : Frame η} {number left : Nat} {turns : Transcript} {history : List Resolved}
  {progress : Progress} {log : Log}

theorem runs_complete {request : ModelRequest} {result : Except Fault Turn}
    (runs : Runs (complete request : ExchangeProgram wholeCalls Turn).run log result) :
    ∃ answer : Except Fault Turn, log = [⟨.complete request, answer⟩] ∧
      result = answer.map adopted := by
  rcases runs_run_bind runs with ⟨fault, rfl, failed⟩ | ⟨before, said, after, rfl, asks, ends⟩
  · exact ⟨_, runs_query_iff.1 failed, rfl⟩
  · obtain ⟨rfl, rfl⟩ := runs_run_pure ends
    exact ⟨.ok said, by rw [runs_query_iff.1 asks, List.append_nil], rfl⟩

theorem Reflects.givesUp_iff (reflects : Reflects frame.desk history progress) :
    givesUp frame.settings progress = true ↔ Hopeless frame.settings.invalidThreshold history := by
  simp [givesUp, Hopeless, reflects.invalid, reflects.succeeded]

/-- A round is run to its end, or the exchange ends in it. -/
theorem runs_runRound {reply : Turn} (reflects : Reflects frame.desk history progress)
    {result : Except Fault (Transcript × Progress)}
    (runs : Runs (runRound frame number progress reply).run log result) :
    (∃ part fault, part.map (·.request) <+: RequestIds.distinct number reply.requests ∧
        Lawful frame.desk history part ∧ Stops frame.desk history part log fault ∧
        result = .error fault) ∨
      ∃ resolved after, resolved.map (·.request) = RequestIds.distinct number reply.requests ∧
        Lawful frame.desk history resolved ∧ (∀ one ∈ resolved, one.fault? = none) ∧
        log = resolvedLog frame.desk history resolved ++
          [⟨.report (.toolRoundCompleted frame.desk.session number resolved.length
            (refusals (history ++ resolved)) (successes (history ++ resolved))), ()⟩] ∧
        result = .ok ({ reply with requests := resolved.map (·.request) } ::
          resolved.map (·.turn frame.desk.tools.names), after) ∧
        Reflects frame.desk (history ++ resolved) after := by
  rcases runs_run_bind runs with ⟨fault, rfl, failed⟩ | ⟨before, made, after, rfl, resolves, rest⟩
  · rcases runs_resolveAll reflects failed with stopped | ⟨resolved, after, -, -, -, -, same, -⟩
    · obtain ⟨part, other, isPart, lawful, stops, same⟩ := stopped
      cases same
      exact .inl ⟨part, fault, isPart, lawful, stops, rfl⟩
    · contradiction
  · rcases runs_resolveAll reflects resolves with
      ⟨part, other, -, -, -, same⟩ | ⟨resolved, known, all, lawful, none, rfl, same, reflected⟩
    · contradiction
    · cases same
      dsimp only at rest
      rw [← all, inOrder_turns, List.length_map, reflected.invalid, reflected.succeeded] at rest
      obtain ⟨_, _, rfl, ends⟩ := runs_lift_bind rest
      obtain ⟨rfl, rfl⟩ := runs_run_pure ends
      exact .inr ⟨resolved, known, all, lawful, none, rfl, rfl, reflected⟩

/-- The model is asked once more, unless the exchange has been cancelled. -/
theorem runs_asking {α : Type} {request : ModelRequest}
    {next : Turn → ExchangeProgram wholeCalls α} {result : Except Fault α}
    (runs : Runs (checkCancelled >>= fun _ => complete request >>= next).run log result) :
    log = [⟨.isCancelled, true⟩] ∧ result = .error .cancelled ∨
      (∃ fault, log = [⟨.isCancelled, false⟩, ⟨.complete request, .error fault⟩] ∧
        result = .error fault) ∨
      ∃ said rest, log = ⟨.isCancelled, false⟩ :: ⟨.complete request, .ok said⟩ :: rest ∧
        Runs (next (adopted said)).run rest result := by
  rcases runs_checkCancelled_bind runs with ⟨rfl, rfl⟩ | ⟨rest, rfl, goesOn⟩
  · exact .inl ⟨rfl, rfl⟩
  · right
    rcases runs_run_bind goesOn with ⟨fault, rfl, failed⟩ | ⟨asked, reply, after, rfl, asks, goesOn⟩
    · obtain ⟨answer, rfl, same⟩ := runs_complete failed
      cases answer with
      | ok said => contradiction
      | error other =>
          cases same
          exact .inl ⟨fault, rfl, rfl⟩
    · obtain ⟨answer, rfl, same⟩ := runs_complete asks
      cases answer with
      | ok said =>
          cases same
          exact .inr ⟨said, after, rfl, goesOn⟩
      | error other => contradiction

/-- Where no round is left, the exchange ends. -/
theorem runs_loop_last {result : Except Fault Reply}
    (runs : Runs (loop frame number turns progress 0).run log result) :
    Ends frame 0 number turns history log result := by
  rcases runs_asking runs with ⟨rfl, rfl⟩ | ⟨fault, rfl, rfl⟩ | ⟨said, rest, rfl, goesOn⟩
  · exact .cancelled
  · exact .failed fault
  · split at goesOn
    · next asks =>
        obtain ⟨_, _, rfl, ends⟩ := runs_lift_bind goesOn
        obtain ⟨rfl, rfl⟩ := runs_run_throw ends
        exact .exhausted said rfl asks
    · next asks => exact .answered (by simpa using asks) goesOn

/-- Where a round is left, the exchange ends, or a round is run to its end.  After that it is given
up, or goes on with one round less. -/
theorem runs_loop_step (reflects : Reflects frame.desk history progress)
    {result : Except Fault Reply}
    (runs : Runs (loop frame number turns progress (left + 1)).run log result) :
    Ends frame (left + 1) number turns history log result ∨
      ∃ (round : Round) (rest : Log), round.Complete (number + 1) ∧
        Lawful frame.desk history round.resolved ∧
        log = round.log frame (number + 1) turns history ++ rest ∧
        (Closes frame left (number + 1) (turns ++ round.turns frame.desk.tools.names)
            (history ++ round.resolved) rest result ∨
          ∃ after, Reflects frame.desk (history ++ round.resolved) after ∧
            ¬Hopeless frame.settings.invalidThreshold (history ++ round.resolved) ∧
            Runs (loop frame (number + 1) (turns ++ round.turns frame.desk.tools.names) after
              left).run rest result) := by
  rcases runs_asking runs with ⟨rfl, rfl⟩ | ⟨fault, rfl, rfl⟩ | ⟨said, rest, rfl, goesOn⟩
  · exact .inl .cancelled
  · exact .inl (.failed fault)
  · split at goesOn
    · next asks =>
        rcases runs_run_bind goesOn with
          ⟨fault, rfl, failed⟩ | ⟨before, added, after, rfl, runsRound, rest⟩
        · rcases runs_runRound reflects failed with
            ⟨part, other, isPart, lawful, stops, same⟩ | ⟨_, _, -, -, -, -, same, -⟩
          · cases same
            exact .inl (.stopped ⟨said, part⟩ (Nat.succ_pos left) asks isPart lawful stops)
          · contradiction
        · rcases runs_runRound reflects runsRound with
            ⟨_, _, -, -, -, same⟩ | ⟨resolved, known, all, lawful, settled, rfl, same, reflected⟩
          · contradiction
          · cases same
            refine .inr ⟨⟨said, resolved⟩, after, ⟨asks, all, settled⟩, lawful, rfl, ?_⟩
            dsimp only at rest
            split at rest
            · next givesUp =>
                have hopeless := reflected.givesUp_iff.1 givesUp
                rw [reflected.invalid] at rest
                obtain ⟨_, _, rfl, ends⟩ := runs_lift_bind rest
                exact .inl (.givenUp (Nat.succ_pos number) hopeless ends)
            · next goesOn =>
                exact .inr ⟨known, reflected, mt reflected.givesUp_iff.2 goesOn, rest⟩
    · next asks => exact .inl (.answered (by simpa using asks) goesOn)

/-- Every run of the loop takes such a course. -/
theorem runs_loop (reflects : Reflects frame.desk history progress)
    (hopeful : 0 < number → ¬Hopeless frame.settings.invalidThreshold history)
    {result : Except Fault Reply}
    (runs : Runs (loop frame number turns progress left).run log result) :
    ∃ rounds ending, log = roundsLog frame number turns history rounds ++ ending ∧
      Course frame number left turns history rounds ending result := by
  induction left generalizing number turns history progress log result with
  | zero => exact ⟨[], log, rfl, course_nil (.ends hopeful (runs_loop_last runs))⟩
  | succ left ih =>
      rcases runs_loop_step reflects runs with ends | ⟨round, rest, complete, lawful, rfl, goesOn⟩
      · exact ⟨[], log, rfl, course_nil (.ends hopeful ends)⟩
      · have course : ∃ rounds ending,
            rest = roundsLog frame (number + 1) (turns ++ round.turns frame.desk.tools.names)
              (history ++ round.resolved) rounds ++ ending ∧
            Course frame (number + 1) left (turns ++ round.turns frame.desk.tools.names)
              (history ++ round.resolved) rounds ending result := by
          rcases goesOn with closes | ⟨after, reflected, hopefulAfter, goesOn⟩
          · exact ⟨[], rest, rfl, course_nil closes⟩
          · exact ih reflected (fun _ => hopefulAfter) goesOn
        obtain ⟨rounds, ending, rfl, course⟩ := course
        refine ⟨round :: rounds, ending, ?_, course.cons complete lawful hopeful⟩
        rw [roundsLog, List.append_assoc]

end Loop

end Parley.Exchange
