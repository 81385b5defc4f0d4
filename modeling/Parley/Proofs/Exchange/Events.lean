/-
Module: Parley.Proofs.Exchange.Events
Layer: Proofs
Purpose: What an exchange reports, together with what it saves, in order.  First its opening is
  reported and saved; then each completed round, after the results reused in it, with how many
  requests have been answered by an error and by a result up to then; then how the exchange ends.
  An exchange that ends in a fault leaves a beginning of this, and it ends with a saved transcript
  exactly if there is a reply.
Main exports: Exchange.Mark, Exchange.marksIn, Exchange.OpeningMarks, Exchange.roundMarks,
  Exchange.EndMarks, Exchange.Chronicle, Exchange.run_reported
-/
import Parley.Proofs.Exchange.Calls
import Parley.Proofs.Exchange.Callable
import Parley.Proofs.Opening.Policies

namespace Parley.Exchange

open Program (Asked Runs)

variable {η : Type} {C H : Interface}

/-! ### Marks -/

/-- What others can see of an exchange: a transcript that was saved, or an event that was reported. -/
inductive Mark where
  | saved (session : String) (turns : Transcript)
  | reported (event : Event)
deriving DecidableEq

/-- What a question leaves, given its answer.  A save that failed leaves nothing. -/
def mark? : Asked (exchangeInterface C) → Option Mark
  | ⟨.save session turns, answer⟩ =>
      if Except.isOk answer then some (.saved session turns) else none
  | ⟨.report event, _⟩ => some (.reported event)
  | _ => none

/-- What some questions leave, in order. -/
def marksIn (log : List (Asked (exchangeInterface C))) : List Mark := log.filterMap mark?

@[simp] theorem marksIn_append (first second : List (Asked (exchangeInterface C))) :
    marksIn (first ++ second) = marksIn first ++ marksIn second := List.filterMap_append

/-- A transcript is saved, its turns numbered, and then its length is reported. -/
def savedMarks (session : String) (turns : Transcript) : List Mark :=
  [.saved session turns.numbered, .reported (.transcriptSaved session turns.length)]

/-- The report of an opening: how many calls were made, and how many of them failed. -/
def openingMark (session : String) (calls : List (Call × Outcome)) : Mark :=
  .reported (.openingCompleted session calls.length (calls.countP fun made => !made.2.isOk))

/-- A session is not opened, or its opening is reported and then saved. -/
inductive OpeningMarks (session : String) (calls : List (Call × Outcome)) : List Mark → Prop where
  | without : OpeningMarks session calls []
  | opened (turns : Transcript) :
      OpeningMarks session calls (openingMark session calls :: savedMarks session turns)

/-- One report for each request that was answered by an earlier result, under its final id. -/
def reuseMarks (session : String) (resolved : List Resolved) : List Mark :=
  resolved.filterMap fun one =>
    match one.means with
    | .reused _ => some (.reported (.toolCacheHit session one.request.tool one.request.id))
    | .called _ => none

/-- What completed rounds leave after others: the reports of reused results, and one of the round. -/
def roundMarks (session : String) : (before rounds : List Round) → List Mark
  | _, [] => []
  | before, round :: rounds =>
      reuseMarks session round.resolved ++
        .reported (.toolRoundCompleted session (before.length + 1) round.said.requests.length
          (refusals (resolvedIn (before ++ [round]))) (successes (resolvedIn (before ++ [round])))) ::
        roundMarks session (before ++ [round]) rounds

/-- The remark before the end, if there is one: the model is asked once more, or the exchange is given
up and its reply is the configured one. -/
inductive Remark (session : String) (format : ReplyFormat) (refused : Nat) :
    (fallback : Bool) → List Mark → Prop where
  | nothing : Remark session format refused false []
  | reprompted :
      Remark session format refused false [.reported (.outputReprompted session format.name)]
  | fellBack : Remark session format refused true [.reported (.safetyFallback session refused)]

/-- What is left after the rounds.  With a reply the transcript is saved, and the reply tells its
length; without one nothing is saved. -/
inductive EndMarks (session : String) (format : ReplyFormat) (rounds refused : Nat) :
    Except Fault Reply → List Mark → Prop where
  | exhausted :
      EndMarks session format rounds refused (.error (.loopExhausted rounds))
        [.reported (.loopExhausted session rounds)]
  | failed {fallback : Bool} {marks : List Mark} (fault : Fault) :
      Remark session format refused fallback marks →
      EndMarks session format rounds refused (.error fault) marks
  | replied {fallback : Bool} {marks : List Mark} (turns : Transcript) (text : String) :
      Remark session format refused fallback marks →
      EndMarks session format rounds refused
        (.ok { text := text, rounds := rounds, fallback := fallback, length := turns.length })
        (marks ++ savedMarks session turns)

/-- All requests of some rounds were resolved, each by an error or a result; so after any of these
rounds the errors and the results are as many as the requests. -/
structure Counted (rounds : List Round) : Prop where
  complete : ∀ (index : Nat) (round : Round), rounds[index]? = some round →
    round.Complete (index + 1)
  total : ∀ count, refusals (resolvedIn (rounds.take count)) +
      successes (resolvedIn (rounds.take count)) =
    ((rounds.take count).map fun round => round.said.requests.length).sum

/-- What an exchange leaves that has begun some rounds, where its opening made some calls. -/
inductive Chronicle (plan : Plan η) (input : Input) (calls : List (Call × Outcome))
    (result : Except Fault Reply) : List Round → List Mark → Prop where
  /-- The opening was reported and could not be saved. -/
  | unsaved (fault : Fault) : result = .error fault →
      Chronicle plan input calls result [] [openingMark input.session calls]
  /-- The exchange ended after its rounds, if there were any. -/
  | whole {rounds : List Round} {opening ending : List Mark} :
      OpeningMarks input.session calls opening → Counted rounds →
      EndMarks input.session plan.settings.format rounds.length (refusals (resolvedIn rounds))
        result ending →
      Chronicle plan input calls result rounds
        (opening ++ (roundMarks input.session [] rounds ++ ending))
  /-- The exchange ended in a round, of which only reused results were reported. -/
  | cut {rounds : List Round} {part : Round} {opening : List Mark} (fault : Fault) :
      OpeningMarks input.session calls opening → Counted rounds → result = .error fault →
      Chronicle plan input calls result (rounds ++ [part])
        (opening ++ (roundMarks input.session [] rounds ++
          reuseMarks input.session part.resolved))

/-! ### The opening -/

section Opening

variable {plan : Plan η} {opening : OpeningPlan} {details : String → String} {tools : Toolset η}
  {session : String} {stored added : Transcript} {log : Log}

/-- A call that fails is one more refusal. -/
theorem refusalsIn_call_cons (isCancelled : Bool) (call : Call) (outcome : Outcome) (rest : Log) :
    refusalsIn (⟨.isCancelled, isCancelled⟩ :: ⟨.call call, outcome⟩ :: rest) =
      if outcome.isOk then refusalsIn rest else refusalsIn rest + 1 := by
  cases outcome with
  | ok value => rfl
  | error error => exact List.countP_cons_of_pos rfl

/-- The calls of an opening leave nothing; they are made for all requests, unless there is a fault,
and their failures are counted. -/
theorem marksIn_runCalls {earlier : List Json} {requests : List ToolRequest}
    {result : Except Fault (Transcript × Nat)}
    (runs : Runs (Opening.runCalls opening session earlier requests).run log result) :
    marksIn log = [] ∧ ∀ turns failed, result = .ok (turns, failed) →
      (callsIn log).length = requests.length ∧ refusalsIn log = failed := by
  induction requests generalizing earlier log result with
  | nil =>
      obtain ⟨rfl, rfl⟩ := Program.runs_run_pure runs
      refine ⟨rfl, ?_⟩
      rintro _ _ ⟨⟩
      exact ⟨rfl, rfl⟩
  | cons request requests ih =>
      rw [Opening.run_runCalls_cons] at runs
      obtain ⟨isCancelled, asked, rfl, called⟩ := Program.runs_ask_iff.1 runs
      cases isCancelled with
      | true =>
          obtain ⟨rfl, rfl⟩ := Program.runs_done_iff.1 called
          exact ⟨rfl, fun _ _ failed => nomatch failed⟩
      | false =>
          obtain ⟨outcome, rest, rfl, goes⟩ := Program.runs_ask_iff.1 called
          by_cases goesOn : opening.policy = .strict → outcome.isOk
          · rw [Opening.afterCall_of_goesOn goesOn] at goes
            obtain ⟨made, follow, rfl⟩ := Program.runs_bind_done_iff.1 goes
            obtain ⟨nothing, counts⟩ := ih follow
            refine ⟨nothing, fun turns failed same => ?_⟩
            cases made with
            | error fault => cases same
            | ok made =>
                obtain ⟨all, refused⟩ := counts made.1 made.2 rfl
                cases same
                have refusedToo := refusalsIn_call_cons false
                  (Opening.callFor session earlier request) outcome rest
                rw [refused] at refusedToo
                exact ⟨congrArg (· + 1) all, refusedToo⟩
          · obtain ⟨strict, failed⟩ := Classical.not_imp.1 goesOn
            cases outcome with
            | ok value => exact absurd rfl failed
            | error error =>
                rw [Opening.afterCall_of_strict strict] at goes
                obtain ⟨rfl, rfl⟩ := Program.runs_done_iff.1 goes
                exact ⟨rfl, fun _ _ failed => nomatch failed⟩

/-- An opening that ends in a fault leaves nothing, and one with turns its report. -/
theorem marksIn_opening {part : Log} {result : Except Fault Transcript}
    (runs : Runs (Opening.run opening tools session).run part result) :
    (∀ fault, result = .error fault → marksIn part = []) ∧
      (∀ turns, result = .ok turns → turns ≠ [] →
        marksIn part = [openingMark session (callsIn part)]) := by
  rw [Opening.run_run] at runs
  split at runs
  · obtain ⟨rfl, rfl⟩ := Program.runs_done_iff.1 runs
    refine ⟨fun _ failed => (nomatch failed), ?_⟩
    rintro _ ⟨⟩ full
    exact absurd rfl full
  · obtain ⟨before, made, after, rfl, calls, ends⟩ := Program.runs_bind_iff.1 runs
    obtain ⟨nothing, counts⟩ := marksIn_runCalls calls
    cases made with
    | error fault =>
        obtain ⟨rfl, rfl⟩ := Program.runs_done_iff.1 ends
        rw [List.append_nil]
        exact ⟨fun _ _ => nothing, fun _ same => nomatch same⟩
    | ok made =>
        obtain ⟨turns, failed⟩ := made
        obtain ⟨all, refused⟩ := counts turns failed rfl
        obtain ⟨answer, rest, rfl, ended⟩ := Program.runs_ask_iff.1 ends
        obtain ⟨rfl, rfl⟩ := Program.runs_done_iff.1 ended
        refine ⟨fun _ failed => (nomatch failed), fun _ _ _ => ?_⟩
        rw [marksIn_append, nothing, callsIn_append, List.nil_append, openingMark]
        rw [refusalsIn] at refused
        have none : callsIn [(⟨.report (.openingCompleted session
          (Opening.requests opening tools).length failed), answer⟩ :
            Asked (exchangeInterface wholeCalls))] = [] := rfl
        rw [none, List.append_nil, all, refused]
        rfl

theorem Opened.marks (opened : Opened plan tools session stored added log) :
    OpeningMarks session (callsIn log) (marksIn log) := by
  cases opened with
  | without => exact .without
  | @saved _ _ part _ _ runs full =>
      have report := (marksIn_opening runs).2 added rfl full
      have silent : callsIn (savedLog session (stored ++ added)) = [] := rfl
      rw [marksIn_append, report, callsIn_append, silent, List.append_nil]
      exact .opened (stored ++ added)

theorem Unopened.marks {fault : Fault} (unopened : Unopened plan tools session stored log fault) :
    marksIn log = [] ∨ marksIn log = [openingMark session (callsIn log)] := by
  cases unopened with
  | failed _ runs => exact .inl ((marksIn_opening runs).1 fault rfl)
  | @unsaved _ added part _ runs full =>
      have report := (marksIn_opening runs).2 added rfl full
      have silent : callsIn [(⟨.save session (stored ++ added).numbered, .error fault⟩ :
        Asked (exchangeInterface wholeCalls))] = [] := rfl
      rw [marksIn_append, report, callsIn_append, silent, List.append_nil]
      exact .inr rfl

end Opening

/-! ### The rounds -/

section Rounds

variable {frame : Frame η} {desk : Desk η} {history resolved : List Resolved}

theorem marksIn_resolvedLog :
    marksIn (resolvedLog desk history resolved) = reuseMarks desk.session resolved := by
  induction resolved generalizing history with
  | nil => rfl
  | cons one rest ih =>
      obtain ⟨request, means⟩ := one
      rw [resolvedLog, marksIn_append, ih]
      cases means with
      | called outcome => rfl
      | reused content => rfl

/-- The requests of a completed round are those of the model, under other ids. -/
theorem Round.Complete.length_eq {number : Nat} {round : Round} (complete : round.Complete number) :
    round.resolved.length = round.said.requests.length := by
  have sameLength := congrArg List.length (congrArg (List.map wanted) complete.requests)
  rw [wanted_distinct] at sameLength
  simpa using sameLength

theorem marksIn_roundsLog {rounds : List Round}
    (complete : ∀ round ∈ rounds, ∃ number, round.Complete number) (before : List Round)
    (turns : Transcript) :
    marksIn (roundsLog frame before.length turns (resolvedIn before) rounds) =
      roundMarks frame.desk.session before rounds := by
  induction rounds generalizing before turns with
  | nil => rfl
  | cons round rounds ih =>
      obtain ⟨⟨number, isComplete⟩, others⟩ := List.forall_mem_cons.1 complete
      have history : resolvedIn before ++ round.resolved = resolvedIn (before ++ [round]) := by simp
      have rest := ih others (before ++ [round])
        (turns ++ round.turns frame.desk.tools.names)
      rw [List.length_append, List.length_singleton] at rest
      rw [roundsLog, marksIn_append, history, rest, roundMarks, ← isComplete.length_eq, ← history]
      have work : marksIn (round.log frame (before.length + 1) turns (resolvedIn before)) =
          marksIn (round.work frame.desk (before.length + 1) (resolvedIn before)) := rfl
      rw [work, Round.work, marksIn_append, marksIn_resolvedLog, List.append_assoc]
      rfl

theorem Stops.marks {part : Log} {fault : Fault} (stops : Stops desk history resolved part fault) :
    marksIn part = reuseMarks desk.session resolved := by
  cases stops with
  | cancelled =>
      rw [marksIn_append, marksIn_resolvedLog]
      exact List.append_nil _
  | failed => exact marksIn_resolvedLog

/-- Each request is answered by an error or a result, so both together count the requests. -/
theorem refusals_add_successes (history : List Resolved) :
    refusals history + successes history = history.length := by
  rw [refusals, successes, List.length_eq_countP_add_countP Resolved.isInvalid]
  simp

theorem counted_of_complete {rounds : List Round}
    (complete : ∀ (index : Nat) (round : Round), rounds[index]? = some round →
      round.Complete (index + 1)) : Counted rounds where
  complete := complete
  total count := by
    rw [refusals_add_successes, resolvedIn, List.length_flatMap]
    refine congrArg List.sum (List.map_congr_left fun round member => ?_)
    obtain ⟨index, isRound⟩ := List.mem_iff_getElem?.1 (List.mem_of_mem_take member)
    exact (complete index round isRound).length_eq

end Rounds

/-! ### The end -/

section Ending

variable {frame : Frame η} {turns : Transcript} {log : Log} {result : Except Fault Reply}

theorem marksIn_finish {text : String} {rounds : Nat} {fallback : Bool}
    (runs : Runs (finish frame turns text rounds fallback).run log result) :
    (∃ fault, result = .error fault ∧ marksIn log = []) ∨
      result = .ok { text := text, rounds := rounds, fallback := fallback
                     length := turns.length } ∧
        marksIn log = savedMarks frame.desk.session turns := by
  rcases runs_finish runs with ⟨fault, rfl, failed⟩ | ⟨rfl, replied⟩
  · exact .inl ⟨fault, failed, rfl⟩
  · exact .inr ⟨replied, rfl⟩

/-- A last remark and then the end, of which the result tells whether the transcript was saved. -/
theorem EndMarks.of_finish {format : ReplyFormat} {text : String} {rounds refused : Nat}
    {fallback : Bool} {marks : List Mark}
    (remark : Remark frame.desk.session format refused fallback marks)
    (runs : Runs (finish frame turns text rounds fallback).run log result) :
    EndMarks frame.desk.session format rounds refused result (marks ++ marksIn log) := by
  rcases marksIn_finish runs with ⟨fault, rfl, nothing⟩ | ⟨rfl, saved⟩
  · rw [nothing, List.append_nil]
    exact .failed fault remark
  · rw [saved]
    exact .replied turns text remark

theorem Formatted.remark {reply : Turn} {formatted : Except Fault Turn} (refused : Nat)
    (isFormatted : Formatted frame turns reply log formatted) :
    Remark frame.desk.session frame.settings.format refused false (marksIn log) := by
  cases isFormatted with
  | accepted => exact .nothing
  | cancelled => exact .reprompted
  | failed => exact .reprompted
  | retried => exact .reprompted

/-- An exchange ends after its rounds, or in one more. -/
theorem Closes.marks {left number : Nat} {history : List Resolved} {ending : Log}
    (closes : Closes frame left number turns history ending result) :
    EndMarks frame.desk.session frame.settings.format number (refusals history) result
        (marksIn ending) ∨
      ∃ part, Cut frame number turns history part ending result := by
  cases closes with
  | givenUp _ _ runs => exact .inl (.of_finish .fellBack runs)
  | ends _ ends =>
      cases ends with
      | cancelled => exact .inl (.failed _ .nothing)
      | failed fault => exact .inl (.failed fault .nothing)
      | exhausted said none asks => exact .inl .exhausted
      | stopped part some asks isPart lawful stops =>
          exact .inr ⟨part, asks, isPart, lawful, _, _, stops, rfl, rfl⟩
      | @answered said log _ isFinal runs =>
          left
          rcases runs_answer runs with
            ⟨fault, formatted, rfl⟩ | ⟨final, before, after, rfl, formatted, ends⟩
          · exact .failed fault (formatted.remark _)
          · have marks := EndMarks.of_finish (formatted.remark (refusals history)) ends
            rwa [← marksIn_append] at marks

theorem Cut.marks {number : Nat} {history : List Resolved} {part : Round} {ending : Log}
    (cut : Cut frame number turns history part ending result) :
    (∃ fault, result = .error fault) ∧
      marksIn ending = reuseMarks frame.desk.session part.resolved := by
  obtain ⟨log, fault, stops, failed, rfl⟩ := cut.stops
  exact ⟨⟨fault, failed⟩, stops.marks⟩

end Ending

/-! ### A whole exchange -/

section Whole

variable {plan : Plan η} {input : Input} {log : Log} {result : Except Fault Reply}

/-- An exchange that ends in a fault before its rounds leaves the marks of its opening. -/
theorem chronicle_of_opening {calls : List (Call × Outcome)} {opening : List Mark} (fault : Fault)
    (marks : OpeningMarks input.session calls opening) :
    Chronicle plan input calls (.error fault) [] opening := by
  have whole : Chronicle plan input calls (.error fault) []
      (opening ++ (roundMarks input.session [] [] ++ [])) :=
    .whole marks (counted_of_complete (by simp)) (.failed fault .nothing)
  rwa [roundMarks, List.nil_append, List.append_nil] at whole

theorem Thwarted.chronicle {fault : Fault} (thwarted : Thwarted plan input log fault) :
    Chronicle plan input (callsIn log) (.error fault) [] (marksIn log) := by
  cases thwarted with
  | refused => exact chronicle_of_opening fault .without
  | unread => exact chronicle_of_opening fault .without
  | @unopened stored part _ unopened =>
      rw [marksIn_append, callsIn_append]
      rcases unopened.marks with nothing | report
      · rw [nothing]
        exact chronicle_of_opening fault .without
      · rw [report]
        exact .unsaved fault rfl
  | @unnoted _ _ opened _ isOpened =>
      rw [marksIn_append, marksIn_append, callsIn_append, callsIn_append]
      change Chronicle plan input (callsIn opened ++ []) _ _ (marksIn opened ++ [])
      rw [List.append_nil, List.append_nil]
      exact chronicle_of_opening fault isOpened.marks

/-- Before the rounds nothing but the opening leaves anything or makes calls. -/
theorem marks_preparation (input : Input) (stored : Transcript) (opened : Log)
    (notes : List String) (date : CivilDate) :
    marksIn (preparation input stored opened notes date) = marksIn opened ∧
      callsIn (preparation input stored opened notes date) = callsIn opened := by
  rw [preparation, marksIn_append, marksIn_append, callsIn_append, callsIn_append]
  exact ⟨List.append_nil _, List.append_nil _⟩

/-- The course of an exchange is accounted for, and told by what it leaves. -/
theorem Course.chronicle {stored added : Transcript} {opened ending : Log} {notes : List String}
    {date : CivilDate} {rounds : List Round} {first : Transcript}
    (isOpened : Opened plan (plan.catalog.toolset input.subset) input.session stored added opened)
    (course : Course (plan.frame true input notes date) 0 plan.settings.maxRounds first [] rounds
      ending result)
    (isLog : log = preparation input stored opened notes date ++
      (roundsLog (plan.frame true input notes date) 0 first [] rounds ++ ending)) :
    ∃ begun, Account plan input log result first begun ∧
      Chronicle plan input (callsIn (divide log).1) result begun (marksIn log) := by
  have quiet := isOpened.quiet_preparation notes date
  obtain ⟨left, called⟩ := marks_preparation input stored opened notes date
  obtain ⟨told, -, -, idle⟩ :=
    told_roundsLog (plan.frame true input notes date) 0 first [] rounds course.closes.idle
  have calls : callsIn (divide log).1 = callsIn opened := by
    rw [isLog, divide_append_of_quiet _ quiet, callsIn_append, called, idle.callsIn,
      List.append_nil]
  have complete : ∀ round ∈ rounds, ∃ number, round.Complete number := by
    intro round member
    obtain ⟨index, isRound⟩ := List.mem_iff_getElem?.1 member
    exact ⟨_, course.complete_first isRound⟩
  have worked : marksIn (roundsLog (plan.frame true input notes date) 0 first [] rounds) =
      roundMarks input.session [] rounds := marksIn_roundsLog complete [] first
  have marks : marksIn log =
      marksIn opened ++ (roundMarks input.session [] rounds ++ marksIn ending) := by
    rw [isLog, marksIn_append, marksIn_append, left, worked]
  have counted : Counted rounds := counted_of_complete fun _ _ => course.complete_first
  rw [calls, marks]
  by_cases isCut : ∃ part, Cut (plan.frame true input notes date) rounds.length
      (first ++ turnsOf (plan.catalog.toolset input.subset).names rounds) (resolvedIn rounds) part
      ending result
  · obtain ⟨part, cut⟩ := isCut
    obtain ⟨⟨fault, failed⟩, reused⟩ := cut.marks
    refine ⟨rounds ++ [part], isLog ▸ course.account_of_cut quiet cut, ?_⟩
    rw [reused]
    exact .cut fault isOpened.marks counted failed
  · have aftermath := course.closes_first.aftermath.resolve_right isCut
    have ends := course.closes_first.marks.resolve_right isCut
    exact ⟨rounds, isLog ▸ course.account_of_aftermath quiet aftermath,
      .whole isOpened.marks counted ends⟩

/-- However an exchange is answered, what it leaves tells of its rounds. -/
theorem run_chronicled (runs : Runs (run plan input).run log result) :
    ∃ first rounds, Account plan input log result first rounds ∧
      Chronicle plan input (callsIn (divide log).1) result rounds (marksIn log) := by
  rcases thwarted_or_course runs with ⟨fault, rfl, thwarted⟩ |
    ⟨stored, added, opened, notes, date, rounds, ending, isLog, isOpened, course⟩
  · refine ⟨[], [], account_of_prevented thwarted.prevented rfl, ?_⟩
    rw [divide_of_quiet thwarted.prevented.quiet]
    exact thwarted.chronicle
  · exact ⟨_, course.chronicle isOpened isLog⟩

end Whole

/-! ### With the questions of the calls -/

section Unfolded

variable {details : String → String} {tools : Toolset η} {chain : Chain η H}

/-- The questions of a call leave nothing, and so does the call. -/
theorem marksIn_unfoldQuestion {asked : Asked (exchangeInterface wholeCalls)}
    {part : List (Asked (unfolded η H))}
    (runs : Runs (unfoldQuestion details tools chain asked.question) part asked.answer) :
    marksIn part = marksIn [asked] := by
  obtain ⟨question, answer⟩ := asked
  cases question with
  | call call =>
      obtain ⟨log, -, rfl⟩ := runs_embedCall runs
      rw [marksIn, List.filterMap_map]
      exact List.filterMap_eq_nil_iff.2 fun _ _ => rfl
  | _ =>
      cases Program.runs_query_iff.1 runs
      rfl

theorem marksIn_flatMap
    {parts : List (Asked (exchangeInterface wholeCalls) × List (Asked (unfolded η H)))}
    (each : ∀ part ∈ parts, Runs (unfoldQuestion details tools chain part.1.question) part.2 part.1.answer) :
    marksIn (parts.flatMap (·.2)) = marksIn (parts.map (·.1)) := by
  induction parts with
  | nil => rfl
  | cons part parts ih =>
      obtain ⟨here, others⟩ := List.forall_mem_cons.1 each
      rw [List.flatMap_cons, marksIn_append, ih others, marksIn_unfoldQuestion here, List.map_cons,
        ← marksIn_append, List.singleton_append]

/-- However an exchange is answered and whatever its layers do, what it saves and reports is the
chronicle of its rounds. -/
theorem run_reported {plan : Plan η} {input : Input} {log : List (Asked (unfolded η H))}
    {result : Except Fault Reply}
    (runs : Runs (unfold plan.syntaxDetails (toolsOf plan input) chain (run plan input)).run log result) :
    ∃ parts : List (Asked (exchangeInterface wholeCalls) × List (Asked (unfolded η H))),
      log = parts.flatMap (·.2) ∧
      (∀ part ∈ parts,
        Runs (unfoldQuestion plan.syntaxDetails (toolsOf plan input) chain part.1.question)
          part.2 part.1.answer) ∧
      ∃ first rounds, Account plan input (parts.map (·.1)) result first rounds ∧
        Chronicle plan input (callsIn (divide (parts.map (·.1))).1) result rounds (marksIn log) := by
  obtain ⟨parts, rfl, runsWhole, each⟩ := runs_unfold runs
  obtain ⟨first, rounds, account, chronicle⟩ := run_chronicled runsWhole
  rw [← marksIn_flatMap each] at chronicle
  exact ⟨parts, rfl, each, first, rounds, account, chronicle⟩

end Unfolded

/-! ### A lantern, lit before anybody asks -/

/-- Sessions are opened by the lantern, and answers are to be Markdown. -/
def lanternFirst : Plan Unit :=
  { catalog := Catalog.ofIntents [lantern]
    settings := { ExchangeSettings.standard with format := .markdown }
    opening := some
      { OpeningPlan.standard with calls := [{ intent := "lantern", arguments := .obj [] }] }
    syntaxDetails := id }

/-- The model asks twice for the lantern, and for something unknown; then it answers in plain text and,
asked once more, in Markdown. -/
def signalling : (question : ExchangeQuestion (callInterface Unit noHost)) →
    StateM Nat question.Answer
  | .secure _ _ _ => pure (.ok ())
  | .load _ => pure (.ok [])
  | .save _ _ => pure (.ok ())
  | .loadNotes _ => pure (.ok [])
  | .report _ => pure ()
  | .isCancelled => pure false
  | .today => pure (CivilDate.ofEpochSeconds 0)
  | .complete _ => fun spoken =>
      let request (tool : String) : ToolRequest :=
        { id := "", tool := tool, arguments := "\x7b\x7d" }
      let said := match spoken with
        | 0 => Turn.asking "" [request "lantern", request "lantern", request "ghost"]
        | 1 => Turn.plain .assistant "done"
        | _ => Turn.plain .assistant "**done**"
      (.ok said, spoken + 1)
  | .call (.handle _ _) => pure (.ok (.str "on"))
  | .call (.grant _ _) => pure true
  | .call .clock => pure (0 : Int)
  | .call (.host question) => nomatch question

/-- The exchange, with all that is asked in it. -/
def signalled : Except Fault Reply × Nat × List (Asked (unfolded Unit noHost)) :=
  Program.run (I := unfolded Unit noHost) (Program.recording signalling)
    (unfold lanternFirst.syntaxDetails (toolsOf lanternFirst asking) []
      (run lanternFirst asking)).run (0, [])

/-- The event that is reported. -/
def Mark.event? : Mark → Option Event
  | .reported event => some event
  | .saved _ _ => none

theorem run_reported_signalled :
    (marksIn signalled.2.2).filterMap Mark.event? =
        [.openingCompleted "hall" 1 0, .transcriptSaved "hall" 2,
          .toolCacheHit "hall" "lantern" "call_1_1", .toolRoundCompleted "hall" 1 3 1 2,
          .outputReprompted "hall" "markdown", .transcriptSaved "hall" 8] ∧
      ∃ parts : List (Asked (exchangeInterface wholeCalls) × List (Asked (unfolded Unit noHost))),
        signalled.2.2 = parts.flatMap (·.2) ∧
        ∃ first rounds, Account lanternFirst asking (parts.map (·.1)) signalled.1 first rounds ∧
          Chronicle lanternFirst asking (callsIn (divide (parts.map (·.1))).1) signalled.1 rounds
            (marksIn signalled.2.2) := by
  obtain ⟨log, isLog, runs⟩ := Program.runs_recording signalling
    (unfold lanternFirst.syntaxDetails (toolsOf lanternFirst asking) []
      (run lanternFirst asking)).run 0 []
  rw [List.nil_append] at isLog
  subst isLog
  obtain ⟨parts, isParts, -, told⟩ := run_reported runs
  exact ⟨by decide +kernel, parts, isParts, told⟩

end Parley.Exchange
