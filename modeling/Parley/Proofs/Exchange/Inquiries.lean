/-
Module: Parley.Proofs.Exchange.Inquiries
Layer: Proofs
Purpose: The log of an exchange, divided where the model is asked.  What is asked from one such
  question up to the next belongs to the round that the answer begins, so the calls of a round and
  the requests that were refused in it can be read off the log.  Rounds told by their requests agree
  with what is read there.
Main exports: Exchange.Inquiry, Exchange.inquiries, Exchange.callsIn, Exchange.refusalsIn,
  Exchange.successesIn, Exchange.callsFor, Exchange.Told, Exchange.told_roundsLog
-/
import Parley.Proofs.Exchange.Endings

namespace Parley.Exchange

open Program (Asked Runs)

variable {η : Type}

/-- A question to the model with its answer, and all that is asked from then on up to the next such
question. -/
structure Inquiry where
  request : ModelRequest
  answer : Except Fault Turn
  since : Log

/-- What is asked before the model is asked at all, and the inquiries. -/
def divide : Log → Log × List Inquiry
  | [] => ([], [])
  | ⟨.complete request, answer⟩ :: log =>
      ([], { request := request, answer := answer, since := (divide log).1 } :: (divide log).2)
  | asked :: log => (asked :: (divide log).1, (divide log).2)

/-- The inquiries of a log, in order. -/
def inquiries (log : Log) : List Inquiry := (divide log).2

/-- A question is to the model, or belongs to what came before. -/
theorem divide_cons (asked : Asked (exchangeInterface wholeCalls)) (log : Log) :
    (∃ request answer, asked = ⟨.complete request, answer⟩) ∨
      divide (asked :: log) = (asked :: (divide log).1, (divide log).2) := by
  obtain ⟨question, answer⟩ := asked
  cases question with
  | complete request => exact .inl ⟨request, answer, rfl⟩
  | _ => exact .inr rfl

theorem divide_cons_of_quiet {asked : Asked (exchangeInterface wholeCalls)} (log : Log)
    (quiet : Quiet asked.question) :
    divide (asked :: log) = (asked :: (divide log).1, (divide log).2) := by
  rcases divide_cons asked log with ⟨request, answer, rfl⟩ | divided
  · exact quiet.elim
  · exact divided

/-- What is asked while the model is not belongs to what came before. -/
theorem divide_append_of_quiet {part : Log} (log : Log)
    (quiet : ∀ asked ∈ part, Quiet asked.question) :
    divide (part ++ log) = (part ++ (divide log).1, (divide log).2) := by
  induction part with
  | nil => rfl
  | cons asked part ih =>
      have rest := ih fun other member => quiet other (List.mem_cons_of_mem asked member)
      rw [List.cons_append, divide_cons_of_quiet _ (quiet asked (List.mem_cons_self ..)), rest]
      rfl

theorem divide_of_quiet {log : Log} (quiet : ∀ asked ∈ log, Quiet asked.question) :
    divide log = (log, []) := by
  have divided := divide_append_of_quiet [] quiet
  simpa [divide] using divided

theorem inquiries_append_of_quiet {part : Log} (log : Log)
    (quiet : ∀ asked ∈ part, Quiet asked.question) :
    inquiries (part ++ log) = inquiries log := by
  rw [inquiries, divide_append_of_quiet log quiet, inquiries]

theorem inquiries_of_quiet {log : Log} (quiet : ∀ asked ∈ log, Quiet asked.question) :
    inquiries log = [] := by
  rw [inquiries, divide_of_quiet quiet]

/-! ### Calls in a log -/

/-- The call that is made by a question, and its outcome. -/
def called? : Asked (exchangeInterface wholeCalls) → Option (Call × Outcome)
  | ⟨.call call, outcome⟩ => some (call, outcome)
  | _ => none

/-- Whether it is reported that an earlier result was reused. -/
def isReuse (asked : Asked (exchangeInterface wholeCalls)) : Bool :=
  match asked.question with
  | .report (.toolCacheHit _ _ _) => true
  | _ => false

/-- The calls that are made, each with its outcome. -/
def callsIn (log : Log) : List (Call × Outcome) := log.filterMap called?

/-- The number of requests that are answered by an error. -/
def refusalsIn (log : Log) : Nat := (callsIn log).countP fun made => !made.2.isOk

/-- The number of requests that are answered by a result, new or reused. -/
def successesIn (log : Log) : Nat :=
  (callsIn log).countP (fun made => made.2.isOk) + log.countP isReuse

/-- No request is answered. -/
def Idle (log : Log) : Prop := ∀ asked ∈ log, called? asked = none ∧ isReuse asked = false

section Counts

variable {first second log : Log}

@[simp] theorem callsIn_append : callsIn (first ++ second) = callsIn first ++ callsIn second :=
  List.filterMap_append

@[simp] theorem refusalsIn_append :
    refusalsIn (first ++ second) = refusalsIn first + refusalsIn second := by
  simp [refusalsIn]

@[simp] theorem successesIn_append :
    successesIn (first ++ second) = successesIn first + successesIn second := by
  simp only [successesIn, callsIn_append, List.countP_append]
  omega

theorem Idle.callsIn (idle : Idle log) : callsIn log = [] :=
  List.filterMap_eq_nil_iff.2 fun asked member => (idle asked member).1

theorem Idle.counts (idle : Idle log) : refusalsIn log = 0 ∧ successesIn log = 0 := by
  have none : log.countP isReuse = 0 :=
    List.countP_eq_zero.2 fun asked member => by simp [(idle asked member).2]
  constructor
  · simp [refusalsIn, idle.callsIn]
  · simp [successesIn, idle.callsIn, none]

end Counts

/-! ### Calls for requests -/

/-- The calls that were made for some requests, given the requests before them. -/
def callsFor (session message : String) :
    List Resolved → List Resolved → List (Call × Outcome)
  | _, [] => []
  | history, resolved :: rest =>
      (match resolved.means with
        | .called outcome =>
            [({ session := session, message := message, tool := resolved.request.tool
                arguments := resolved.request.arguments, earlier := values history }, outcome)]
        | .reused _ => []) ++
      callsFor session message (history ++ [resolved]) rest

theorem callsFor_append {session message : String} (history first second : List Resolved) :
    callsFor session message history (first ++ second) =
      callsFor session message history first ++
        callsFor session message (history ++ first) second := by
  induction first generalizing history with
  | nil => simp [callsFor]
  | cons resolved first ih => simp [callsFor, ih]

section Resolved

variable (desk : Desk η) (history : List Resolved) {resolved : List Resolved}

theorem quiet_resolvedLog :
    ∀ asked ∈ resolvedLog desk history resolved, Quiet asked.question := by
  induction resolved generalizing history with
  | nil => simp [resolvedLog]
  | cons one rest ih =>
      intro asked member
      rcases List.mem_append.1 member with here | there
      · obtain ⟨request, means⟩ := one
        cases means with
        | called outcome =>
            simp only [Resolved.log, List.mem_cons, List.not_mem_nil, or_false] at here
            rcases here with rfl | rfl
            · trivial
            · trivial
        | reused content =>
            simp only [Resolved.log, List.mem_cons, List.not_mem_nil, or_false] at here
            rcases here with rfl | rfl
            · trivial
            · trivial
      · exact ih _ asked there

theorem callsIn_resolvedLog :
    callsIn (resolvedLog desk history resolved) =
      callsFor desk.session desk.message history resolved := by
  induction resolved generalizing history with
  | nil => rfl
  | cons one rest ih =>
      obtain ⟨request, means⟩ := one
      rw [resolvedLog, callsIn_append, ih]
      cases means with
      | called outcome => rfl
      | reused content => rfl

/-- A request is refused or succeeds, and so its part of the log says. -/
theorem counts_log (one : Resolved) :
    refusalsIn (one.log desk history) = refusals [one] ∧
      successesIn (one.log desk history) = successes [one] := by
  obtain ⟨request, means⟩ := one
  cases means with
  | called outcome =>
      cases outcome with
      | ok value => exact ⟨rfl, rfl⟩
      | error error => exact ⟨rfl, rfl⟩
  | reused content => exact ⟨rfl, rfl⟩

theorem counts_resolvedLog :
    refusalsIn (resolvedLog desk history resolved) = refusals resolved ∧
      successesIn (resolvedLog desk history resolved) = successes resolved := by
  induction resolved generalizing history with
  | nil => exact ⟨rfl, rfl⟩
  | cons one rest ih =>
      obtain ⟨refused, succeeded⟩ := counts_log desk history one
      obtain ⟨refusedAfter, succeededAfter⟩ := ih (history ++ [one])
      rw [resolvedLog, refusalsIn_append, successesIn_append, refused, succeeded, refusedAfter,
        succeededAfter, ← refusals_append, ← successes_append, List.singleton_append]
      exact ⟨rfl, rfl⟩

end Resolved

/-! ### Rounds and their inquiries -/

/-- An inquiry begins a round: the model says what begins it, and from then on the requests of the
round are resolved, and no others. -/
structure Inquiry.Begins (frame : Frame η) (turns : Transcript) (history : List Resolved)
    (round : Round) (inquiry : Inquiry) : Prop where
  request : inquiry.request = frame.request turns []
  answer : inquiry.answer = .ok round.said
  since : ∃ pause, inquiry.since = resolvedLog frame.desk history round.resolved ++ pause ∧ Idle pause

/-- Inquiries tell rounds, one by one, after which the transcript and the requests so far are those
before with what the round adds. -/
inductive Told (frame : Frame η) : Transcript → List Resolved → List Round → List Inquiry → Prop where
  | nil (turns : Transcript) (history : List Resolved) : Told frame turns history [] []
  | cons {turns : Transcript} {history : List Resolved} {round : Round} {rounds : List Round}
      {inquiry : Inquiry} {told : List Inquiry} :
      inquiry.Begins frame turns history round →
      Told frame (turns ++ round.turns frame.desk.tools.names) (history ++ round.resolved) rounds
        told →
      Told frame turns history (round :: rounds) (inquiry :: told)

section Told

variable {frame : Frame η} {turns : Transcript} {history : List Resolved} {rounds : List Round}
  {told : List Inquiry}

theorem Told.length_eq (isTold : Told frame turns history rounds told) :
    told.length = rounds.length := by
  induction isTold with
  | nil => rfl
  | cons _ _ ih => simp [ih]

/-- The first inquiries tell the first rounds. -/
theorem Told.take (isTold : Told frame turns history rounds told) (count : Nat) :
    Told frame turns history (rounds.take count) (told.take count) := by
  induction isTold generalizing count with
  | nil => simpa using Told.nil _ _
  | cons begins _ ih =>
      cases count with
      | zero => exact .nil _ _
      | succ count => exact .cons begins (ih count)

theorem Told.concat {round : Round} {inquiry : Inquiry}
    (isTold : Told frame turns history rounds told)
    (begins : inquiry.Begins frame (turns ++ turnsOf frame.desk.tools.names rounds)
      (history ++ resolvedIn rounds) round) :
    Told frame turns history (rounds ++ [round]) (told ++ [inquiry]) := by
  induction isTold with
  | nil => exact .cons (by simpa using begins) (.nil _ _)
  | cons first _ ih =>
      apply Told.cons first
      apply ih
      simpa using begins

/-- Each round is told by the inquiry at its place. -/
theorem Told.begins (isTold : Told frame turns history rounds told) {index : Nat} {round : Round}
    (isRound : rounds[index]? = some round) :
    ∃ inquiry, told[index]? = some inquiry ∧
      inquiry.Begins frame (turns ++ turnsOf frame.desk.tools.names (rounds.take index))
        (history ++ resolvedIn (rounds.take index)) round := by
  induction isTold generalizing index with
  | nil => simp at isRound
  | cons first _ ih =>
      cases index with
      | zero =>
          cases isRound
          exact ⟨_, rfl, by simpa using first⟩
      | succ index =>
          obtain ⟨inquiry, found, begins⟩ := ih isRound
          exact ⟨inquiry, found, by simpa using begins⟩

/-- The calls since the inquiries are those for the requests of the rounds. -/
theorem Told.calls (isTold : Told frame turns history rounds told) :
    callsIn (told.flatMap (·.since)) =
      callsFor frame.desk.session frame.desk.message history (resolvedIn rounds) := by
  induction isTold with
  | nil => rfl
  | cons begins _ ih =>
      obtain ⟨pause, since, idle⟩ := begins.since
      rw [List.flatMap_cons, callsIn_append, ih, since, callsIn_append, idle.callsIn,
        List.append_nil, callsIn_resolvedLog, resolvedIn_cons, callsFor_append]

/-- As many requests of the rounds are refused, and as many succeed, as the log says. -/
theorem Told.counts (isTold : Told frame turns history rounds told) :
    refusalsIn (told.flatMap (·.since)) = refusals (resolvedIn rounds) ∧
      successesIn (told.flatMap (·.since)) = successes (resolvedIn rounds) := by
  induction isTold with
  | nil => exact ⟨rfl, rfl⟩
  | @cons _ history round _ _ _ begins _ ih =>
      obtain ⟨pause, since, idle⟩ := begins.since
      obtain ⟨refused, succeeded⟩ :=
        @counts_resolvedLog _ frame.desk history round.resolved
      obtain ⟨notRefused, notSucceeded⟩ := idle.counts
      simp only [List.flatMap_cons, refusalsIn_append, successesIn_append, ih, since, refused,
        succeeded, notRefused, notSucceeded, Nat.add_zero, resolvedIn_cons, refusals_append,
        successes_append, and_self]

end Told

theorem quiet_work (desk : Desk η) (number : Nat) (history : List Resolved) (round : Round) :
    ∀ asked ∈ round.work desk number history, Quiet asked.question := by
  intro asked member
  rcases List.mem_append.1 member with here | there
  · exact quiet_resolvedLog desk history asked here
  · cases List.mem_singleton.1 there
    trivial

section Divided

variable (frame : Frame η) (number : Nat) (turns : Transcript) (history : List Resolved)

/-- A round is one inquiry. -/
theorem divide_round (round : Round) {rest : Log} (idle : Idle (divide rest).1) :
    ∃ inquiry, inquiry.Begins frame turns history round ∧
      divide (round.log frame number turns history ++ rest) =
        ([⟨.isCancelled, false⟩], inquiry :: (divide rest).2) := by
  have divided := divide_append_of_quiet rest (quiet_work frame.desk number history round)
  simp only [Round.log, List.cons_append, divide, divided]
  refine ⟨_, ⟨rfl, rfl, _, List.append_assoc .., ?_⟩, rfl⟩
  intro asked member
  rcases List.mem_cons.1 member with rfl | later
  · exact ⟨rfl, rfl⟩
  · exact idle asked later

/-- The log of some rounds is divided into inquiries that tell them, and those of what follows. -/
theorem told_roundsLog (rounds : List Round) {ending : Log} (idle : Idle (divide ending).1) :
    ∃ told, Told frame turns history rounds told ∧
      inquiries (roundsLog frame number turns history rounds ++ ending) =
        told ++ inquiries ending ∧
      Idle (divide (roundsLog frame number turns history rounds ++ ending)).1 := by
  induction rounds generalizing number turns history with
  | nil => exact ⟨[], .nil _ _, rfl, idle⟩
  | cons round rounds ih =>
      obtain ⟨told, isTold, divided, pause⟩ := ih (number + 1)
        (turns ++ round.turns frame.desk.tools.names) (history ++ round.resolved)
      obtain ⟨inquiry, begins, whole⟩ := divide_round frame (number + 1) turns history round pause
      rw [roundsLog, List.append_assoc, inquiries, whole]
      refine ⟨inquiry :: told, .cons begins isTold, congrArg (inquiry :: ·) divided, ?_⟩
      intro asked member
      cases List.mem_singleton.1 member
      exact ⟨rfl, rfl⟩

end Divided

/-! ### After the rounds -/

/-- Whether it is reported that an answer does not have the required format. -/
def isReprompt (asked : Asked (exchangeInterface wholeCalls)) : Bool :=
  match asked.question with
  | .report (.outputReprompted _ _) => true
  | _ => false

/-- How often an answer was asked for once more. -/
def reprompts (log : Log) : Nat := log.countP isReprompt

@[simp] theorem reprompts_append {first second : Log} :
    reprompts (first ++ second) = reprompts first + reprompts second := List.countP_append

theorem reprompts_of_quiet {log : Log} (quiet : ∀ asked ∈ log, Quiet asked.question) :
    reprompts log = 0 := by
  apply List.countP_eq_zero.2
  rintro ⟨question, answer⟩ member
  have isQuiet := quiet _ member
  cases question with
  | report event =>
      cases event with
      | outputReprompted => exact isQuiet.elim
      | _ => exact Bool.false_ne_true
  | _ => exact Bool.false_ne_true

theorem reprompts_roundsLog (frame : Frame η) (number : Nat) (turns : Transcript)
    (history : List Resolved) (rounds : List Round) :
    reprompts (roundsLog frame number turns history rounds) = 0 := by
  induction rounds generalizing number turns history with
  | nil => rfl
  | cons round rounds ih =>
      have work := reprompts_of_quiet (quiet_work frame.desk (number + 1) history round)
      rw [roundsLog, reprompts_append, ih, Nat.add_zero, Round.log]
      exact work

section Answers

variable {frame : Frame η} {turns : Transcript} {log : Log} {result : Except Fault Reply}

/-- Where a transcript is saved at the end, neither is the model asked nor a request answered. -/
theorem quiet_finish {text : String} {rounds : Nat} {fallback : Bool}
    (runs : Runs (finish frame turns text rounds fallback).run log result) :
    (∀ asked ∈ log, Quiet asked.question) ∧ Idle log := by
  rcases runs_finish runs with ⟨fault, rfl, -⟩ | ⟨rfl, -⟩
  · constructor
    · simp [Quiet]
    · simp [Idle, called?, isReuse]
  · constructor
    · exact quiet_savedLog
    · simp [savedLog, Idle, called?, isReuse]

/-- What is asked after the model has answered without tools: it is asked once more at most, where
that is reported, and no request is answered. -/
structure Closing (log : Log) : Prop where
  idle : Idle (divide log).1
  since : ∀ inquiry ∈ inquiries log, Idle inquiry.since
  retried : (inquiries log).length ≤ reprompts log
  once : reprompts log ≤ 1

theorem closing_of_quiet (quiet : ∀ asked ∈ log, Quiet asked.question) (idle : Idle log) :
    Closing log := by
  have divided := divide_of_quiet quiet
  constructor
  · rwa [divided]
  · simp [inquiries, divided]
  · simp [inquiries, divided]
  · simp [reprompts_of_quiet quiet]

theorem closing_retry {answer : Except Fault Turn} {reply : Turn} {rest : Log}
    (quiet : ∀ asked ∈ rest, Quiet asked.question) (idle : Idle rest) :
    Closing (repromptLog frame false ++ [⟨.complete (retryRequest frame turns reply), answer⟩] ++
      rest) := by
  have divided := divide_of_quiet quiet
  have once : reprompts (repromptLog frame false ++
      [⟨.complete (retryRequest frame turns reply), answer⟩] ++ rest) = 1 := by
    rw [reprompts_append, reprompts_of_quiet quiet]
    rfl
  constructor
  · simp [repromptLog, divide, Idle, called?, isReuse]
  · simpa [repromptLog, divide, inquiries, divided] using idle
  · rw [once]
    simp [repromptLog, divide, inquiries, divided]
  · exact Nat.le_of_eq once

theorem closing_answer {rounds : Nat} {reply : Turn}
    (runs : Runs (answer frame rounds turns reply).run log result) : Closing log := by
  rcases runs_answer runs with ⟨fault, formatted, -⟩ | ⟨final, before, after, rfl, formatted, ends⟩
  · cases formatted with
    | cancelled =>
        constructor
        · simp [repromptLog, divide, Idle, called?, isReuse]
        · simp [repromptLog, divide, inquiries]
        · simp [repromptLog, divide, inquiries]
        · exact Nat.le_refl 1
    | failed =>
        have closing := @closing_retry _ frame turns (.error fault) reply [] (by simp) (by simp [Idle])
        rwa [List.append_nil] at closing
  · obtain ⟨quiet, idle⟩ := quiet_finish ends
    cases formatted with
    | accepted => exact closing_of_quiet quiet idle
    | retried => exact closing_retry quiet idle

/-- What is asked in a round in which the exchange ends. -/
theorem Stops.log_eq {desk : Desk η} {history resolved : List Resolved} {part : Log}
    {fault : Fault} (stops : Stops desk history resolved part fault) :
    (∀ asked ∈ part, Quiet asked.question) ∧
      ∃ pause, part = resolvedLog desk history resolved ++ pause ∧ Idle pause := by
  cases stops with
  | cancelled =>
      constructor
      · exact List.forall_mem_append.2 ⟨quiet_resolvedLog _ _, by simp [Quiet]⟩
      · exact ⟨_, rfl, by simp [Idle, called?, isReuse]⟩
  | failed =>
      constructor
      · exact quiet_resolvedLog _ _
      · exact ⟨[], (List.append_nil _).symm, by simp [Idle]⟩

/-- Between the last round and the next answer of the model no request is resolved. -/
theorem Closes.idle {left number : Nat} {history : List Resolved} {ending : Log}
    (closes : Closes frame left number turns history ending result) : Idle (divide ending).1 := by
  cases closes with
  | givenUp _ _ runs =>
      obtain ⟨quiet, idle⟩ := quiet_finish runs
      simpa [divide, divide_of_quiet quiet, Idle, called?, isReuse] using idle
  | ends _ ends =>
      cases ends with
      | cancelled => simp [divide, Idle, called?, isReuse]
      | failed => simp [divide, Idle, called?, isReuse]
      | exhausted => simp [divide, Idle, called?, isReuse]
      | stopped => simp [divide, Idle, called?, isReuse]
      | answered => simp [divide, Idle, called?, isReuse]

end Answers

end Parley.Exchange
