/-
Module: Parley.Proofs.Exchange.Endings
Layer: Proofs
Purpose: What an exchange asks before its first round and after its last one.  Before the rounds it
  passes the gate, loads what is stored and is opened; after them it saves a transcript, for which an
  answer may have been asked once more.  With the course of its rounds in between this is all that an
  exchange asks, and wherever it ends in a fault, some answer was fatal to it.
Main exports: Exchange.isFatal, Exchange.savedLog, Exchange.runs_finish, Exchange.Formatted,
  Exchange.runs_answer, Exchange.runs_opening, Exchange.Quiet, Exchange.Prevented, Exchange.Opened,
  Exchange.Unopened, Exchange.runs_openSession, Exchange.preparation, Exchange.Thwarted,
  Exchange.thwarted_or_course, Exchange.runs_runWith
-/
import Parley.Proofs.Exchange.Questions
import Parley.Proofs.Exchange.Rounds

namespace Parley

open Program (Asked Runs keeps_run_bind runs_run_bind runs_run_pure runs_run_throw runs_lift_bind
  runs_query_iff)

variable {C : Interface} {η : Type}

namespace Exchange

/-- Whether an exchange cannot go on after an answer, where a call may fail with some errors. -/
def isFatal (mayFail : CallError → Bool) : Asked (exchangeInterface wholeCalls) → Bool
  | ⟨.secure _ _ _, answer⟩ => !Except.isOk answer
  | ⟨.load _, answer⟩ => !Except.isOk answer
  | ⟨.save _ _, answer⟩ => !Except.isOk answer
  | ⟨.loadNotes _, answer⟩ => !Except.isOk answer
  | ⟨.report _, _⟩ => false
  | ⟨.isCancelled, answer⟩ => answer
  | ⟨.today, _⟩ => false
  | ⟨.complete _, answer⟩ => !Except.isOk answer
  | ⟨.call _, outcome⟩ =>
      match (outcome : Outcome) with
      | .ok _ => false
      | .error error => !mayFail error

/-! ### Saving -/

section Saving

variable {frame : Frame η} {turns : Transcript} {log : Log}

/-- What is asked where a transcript is saved. -/
def savedLog (session : String) (turns : Transcript) : Log :=
  [⟨.save session turns.numbered, .ok ()⟩, ⟨.report (.transcriptSaved session turns.length), ()⟩]

/-- A program goes on if the transcript is saved, and ends if its save fails. -/
theorem runs_saveTurns_bind {α : Type} {session : String}
    {next : Unit → ExchangeProgram wholeCalls α} {result : Except Fault α}
    (runs : Runs (saveTurns session turns >>= next).run log result) :
    (∃ fault, log = [⟨.save session turns.numbered, .error fault⟩] ∧ result = .error fault) ∨
      ∃ rest, log = savedLog session turns ++ rest ∧ Runs (next ()).run rest result := by
  rw [saveTurns, bind_assoc] at runs
  rcases runs_run_bind runs with ⟨fault, rfl, failed⟩ | ⟨before, _, after, rfl, saves, reports⟩
  · exact .inl ⟨fault, runs_query_iff.1 failed, rfl⟩
  · obtain ⟨_, rest, rfl, goesOn⟩ := runs_lift_bind reports
    rw [runs_query_iff.1 saves]
    exact .inr ⟨rest, rfl, goesOn⟩

/-- The last transcript is saved and tells the reply, or its save fails. -/
theorem runs_finish {text : String} {rounds : Nat} {fallback : Bool} {result : Except Fault Reply}
    (runs : Runs (finish frame turns text rounds fallback).run log result) :
    (∃ fault, log = [⟨.save frame.desk.session turns.numbered, .error fault⟩] ∧
        result = .error fault) ∨
      log = savedLog frame.desk.session turns ∧
        result = .ok { text := text, rounds := rounds, fallback := fallback
                       length := turns.length } := by
  rcases runs_saveTurns_bind runs with failed | ⟨rest, rfl, ends⟩
  · exact .inl failed
  · obtain ⟨rfl, rfl⟩ := runs_run_pure ends
    exact .inr ⟨List.append_nil _, rfl⟩

/-! ### The last answer -/

/-- What is asked where an answer does not have the required format, before the model is. -/
def repromptLog (frame : Frame η) (isCancelled : Bool) : Log :=
  [⟨.report (.outputReprompted frame.desk.session frame.settings.format.name), ()⟩,
    ⟨.isCancelled, isCancelled⟩]

/-- The request with which the model is asked once more. -/
def retryRequest (frame : Frame η) (turns : Transcript) (reply : Turn) : ModelRequest :=
  frame.request (turns ++ [reply]) [frame.settings.format.retryLine]

/-- An answer has the required format; or the model is asked once more, where the exchange may be
cancelled or the model fail. -/
inductive Formatted (frame : Frame η) (turns : Transcript) (reply : Turn) :
    Log → Except Fault Turn → Prop where
  | accepted :
      frame.settings.format.accepts reply.content = true →
      Formatted frame turns reply [] (.ok reply)
  | cancelled :
      Formatted frame turns reply (repromptLog frame true) (.error .cancelled)
  | failed (fault : Fault) :
      Formatted frame turns reply
        (repromptLog frame false ++ [⟨.complete (retryRequest frame turns reply), .error fault⟩])
        (.error fault)
  | retried (said : Turn) :
      Formatted frame turns reply
        (repromptLog frame false ++ [⟨.complete (retryRequest frame turns reply), .ok said⟩])
        (.ok (if (adopted said).asksForTools then reply else adopted said))

theorem runs_inFormat {reply : Turn} {result : Except Fault Turn}
    (runs : Runs (inFormat frame turns reply).run log result) :
    Formatted frame turns reply log result := by
  rw [inFormat] at runs
  split at runs
  · next accepts =>
      obtain ⟨rfl, rfl⟩ := runs_run_pure runs
      exact .accepted accepts
  · obtain ⟨_, _, rfl, rest⟩ := runs_lift_bind runs
    rcases runs_asking rest with ⟨rfl, rfl⟩ | ⟨fault, rfl, rfl⟩ | ⟨said, last, rfl, ends⟩
    · exact .cancelled
    · exact .failed fault
    · obtain ⟨rfl, rfl⟩ := runs_run_pure ends
      exact .retried said

/-- What is asked after the model has answered without tools: the answer is put into the required
format, and then the transcript is saved. -/
theorem runs_answer {rounds : Nat} {reply : Turn} {result : Except Fault Reply}
    (runs : Runs (answer frame rounds turns reply).run log result) :
    (∃ fault, Formatted frame turns reply log (.error fault) ∧ result = .error fault) ∨
      ∃ final before after, log = before ++ after ∧ Formatted frame turns reply before (.ok final) ∧
        Runs (finish frame (turns ++ [final]) final.content rounds false).run after result := by
  rcases runs_run_bind runs with ⟨fault, rfl, failed⟩ | ⟨before, final, after, rfl, formats, ends⟩
  · exact .inl ⟨fault, runs_inFormat failed, rfl⟩
  · exact .inr ⟨final, before, after, rfl, runs_inFormat formats, ends⟩

end Saving

/-! ### The opening -/

section Openings

variable {opening : OpeningPlan} {tools : Toolset η} {session : String} {log : Log}

/-- Whether an opening goes on after an error of a call. -/
def bearsErrors (opening : OpeningPlan) : Bool :=
  match opening.policy with
  | .strict => false
  | .bestEffort => true

/-- An opening asks whether the exchange has been cancelled, makes calls and reports its end. -/
def Introduces : ExchangeQuestion wholeCalls → Prop
  | .isCancelled => True
  | .call _ => True
  | .report (.openingCompleted _ _ _) => True
  | _ => False

/-- If there is a fault, some answer of an opening was fatal. -/
def Excused {α : Type} (opening : OpeningPlan) (result : Except Fault α) (log : Log) : Prop :=
  ∀ fault, result = .error fault →
    ∃ asked ∈ log, isFatal (fun _ => bearsErrors opening) asked = true

theorem keeps_runCalls (requests : List ToolRequest) (earlier : List Json) (before : Log) :
    (Opening.runCalls opening session earlier requests).run.Keeps (Program.logging Introduces)
      (Excused opening) before := by
  induction requests generalizing earlier before with
  | nil => exact fun _ failed => nomatch failed
  | cons request requests ih =>
      rw [Opening.runCalls, keeps_run_bind]
      apply keeps_checkCancelled.2
      refine ⟨trivial, ?_⟩
      rintro isCancelled checked rfl
      cases isCancelled with
      | true => exact fun _ _ => ⟨⟨.isCancelled, true⟩, by simp, rfl⟩
      | false =>
          rw [if_neg Bool.false_ne_true]
          dsimp only
          rw [keeps_run_bind]
          apply keeps_runCall.2
          refine ⟨trivial, ?_⟩
          rintro outcome called rfl
          cases outcome with
          | ok value =>
              dsimp only
              rw [keeps_run_bind]
              apply (ih _ _).mono
              intro result after excused
              cases result with
              | ok _ => exact fun _ failed => nomatch failed
              | error fault => exact excused
          | error error =>
              dsimp only
              split
              · next isStrict =>
                  have strict : bearsErrors opening = false := by rw [bearsErrors, isStrict]
                  intro fault _
                  refine ⟨_, List.mem_append_right _ (List.mem_singleton_self _), ?_⟩
                  simp [isFatal, strict]
              · rw [keeps_run_bind]
                apply (ih _ _).mono
                intro result after excused
                cases result with
                | ok _ => exact fun _ failed => nomatch failed
                | error fault => exact excused

/-- An opening asks the model and the store nothing, and it fails only where an answer is fatal. -/
theorem runs_opening {result : Except Fault Transcript}
    (runs : Runs (Opening.run opening tools session).run log result) :
    (∀ asked ∈ log, Introduces asked.question) ∧ Excused opening result log := by
  have keeps : (Opening.run opening tools session).run.Keeps (Program.logging Introduces)
      (Excused opening) [] := by
    rw [Opening.run]
    dsimp only
    split
    · exact fun _ failed => nomatch failed
    · rw [keeps_run_bind]
      apply (keeps_runCalls _ _ _).mono
      intro made after excused
      cases made with
      | error fault => exact fun _ _ => excused fault rfl
      | ok made =>
          dsimp only
          rw [keeps_run_bind]
          apply keeps_report.2
          refine ⟨trivial, ?_⟩
          rintro answer reported rfl
          exact fun _ failed => nomatch failed
  exact keeps.runs runs

/-- An opening without turns is one without calls that may be made. -/
theorem runs_opening_nil (runs : Runs (Opening.run opening tools session).run log (.ok [])) :
    log = [] ∧ Opening.requests opening tools = [] := by
  rw [Opening.run] at runs
  dsimp only at runs
  split at runs
  · next isEmpty =>
      obtain ⟨rfl, -⟩ := runs_run_pure runs
      exact ⟨rfl, List.isEmpty_iff.1 isEmpty⟩
  · rcases runs_run_bind runs with ⟨fault, same, -⟩ | ⟨before, made, after, -, -, rest⟩
    · contradiction
    · rcases runs_run_bind rest with ⟨fault, same, -⟩ | ⟨middle, _, last, -, -, ends⟩
      · contradiction
      · obtain ⟨-, same⟩ := runs_run_pure ends
        contradiction

end Openings

/-! ### Before the rounds -/

/-- Neither is the model asked, nor is it told that it is to be asked once more. -/
def Quiet : ExchangeQuestion wholeCalls → Prop
  | .complete _ => False
  | .report (.outputReprompted _ _) => False
  | _ => True

/-- An exchange ended before its rounds, at an answer that was fatal to it. -/
structure Prevented (plan : Plan η) (log : Log) : Prop where
  quiet : ∀ asked ∈ log, Quiet asked.question
  fatal : ∃ asked ∈ log, isFatal (fun _ => plan.opening.any bearsErrors) asked = true

/-- How a session is opened: not at all, as no call is to be made, or by the turns of an opening,
which are saved at once. -/
inductive Opened (plan : Plan η) (tools : Toolset η) (session : String) (stored : Transcript) :
    Transcript → Log → Prop where
  | without :
      (∀ opening, plan.opening = some opening → opening.applies stored session = true →
        Opening.requests opening tools = []) →
      Opened plan tools session stored [] []
  | saved {opening : OpeningPlan} {added : Transcript} {part : Log} :
      plan.opening = some opening → opening.applies stored session = true →
      Runs (Opening.run opening tools session).run part (.ok added) → added ≠ [] →
      Opened plan tools session stored added (part ++ savedLog session (stored ++ added))

/-- How the opening of a session ends the exchange: in a fault of its own, or as its turns cannot be
saved. -/
inductive Unopened (plan : Plan η) (tools : Toolset η) (session : String) (stored : Transcript) :
    Log → Fault → Prop where
  | failed {opening : OpeningPlan} {part : Log} {fault : Fault} :
      plan.opening = some opening →
      Runs (Opening.run opening tools session).run part (.error fault) →
      Unopened plan tools session stored part fault
  | unsaved {opening : OpeningPlan} {added : Transcript} {part : Log} (fault : Fault) :
      Runs (Opening.run opening tools session).run part (.ok added) → added ≠ [] →
      Unopened plan tools session stored
        (part ++ [⟨.save session (stored ++ added).numbered, .error fault⟩]) fault

section Openings

variable {plan : Plan η} {tools : Toolset η} {session : String} {stored added : Transcript}
  {log : Log}

theorem Prevented.after {before : Log} (quiet : ∀ asked ∈ before, Quiet asked.question)
    (prevented : Prevented plan log) : Prevented plan (before ++ log) where
  quiet asked member := (List.mem_append.1 member).elim (quiet asked)
    (prevented.quiet asked)
  fatal := by
    obtain ⟨asked, member, fatal⟩ := prevented.fatal
    exact ⟨asked, List.mem_append_right before member, fatal⟩

/-- The last answer is fatal. -/
theorem prevented_concat (before : Log) {question : ExchangeQuestion wholeCalls}
    {answer : question.Answer} (quiet : ∀ asked ∈ before, Quiet asked.question)
    (last : Quiet question)
    (fatal : isFatal (fun _ => plan.opening.any bearsErrors) ⟨question, answer⟩ = true) :
    Prevented plan (before ++ [⟨question, answer⟩]) where
  quiet asked member := by
    rcases List.mem_append.1 member with here | there
    · exact quiet asked here
    · cases List.mem_singleton.1 there
      exact last
  fatal := ⟨_, List.mem_append_right _ (List.mem_singleton_self _), fatal⟩

theorem quiet_of_introduces {question : ExchangeQuestion wholeCalls}
    (introduces : Introduces question) : Quiet question := by
  cases question with
  | report event =>
      cases event with
      | openingCompleted => trivial
      | _ => exact introduces.elim
  | isCancelled => trivial
  | call => trivial
  | _ => exact introduces.elim

theorem quiet_savedLog {turns : Transcript} :
    ∀ asked ∈ savedLog session turns, Quiet asked.question := by
  simp [savedLog, Quiet]

theorem Opened.quiet (opened : Opened plan tools session stored added log) :
    ∀ asked ∈ log, Quiet asked.question := by
  intro asked member
  cases opened with
  | without => exact (List.not_mem_nil member).elim
  | saved _ _ runs _ =>
      rcases List.mem_append.1 member with here | there
      · exact quiet_of_introduces ((runs_opening runs).1 asked here)
      · exact quiet_savedLog asked there

theorem Unopened.prevented {fault : Fault} (unopened : Unopened plan tools session stored log fault) :
    Prevented plan log := by
  cases unopened with
  | failed isPlanned runs =>
      obtain ⟨introduces, excused⟩ := runs_opening runs
      refine ⟨fun asked member => quiet_of_introduces (introduces asked member), ?_⟩
      simp only [isPlanned, Option.any_some]
      exact excused fault rfl
  | unsaved fault runs full =>
      have introduces := (runs_opening runs).1
      exact prevented_concat _ (fun asked member => quiet_of_introduces (introduces asked member))
        trivial rfl

/-- The calls of an opening are made, and its turns are saved, if it has any. -/
theorem runs_openSession_planned {opening : OpeningPlan} {result : Except Fault Transcript}
    (isPlanned : plan.opening = some opening) (applies : opening.applies stored session = true)
    (runs : Runs (openSession plan tools session stored).run log result) :
    (∃ fault, result = .error fault ∧ Unopened plan tools session stored log fault) ∨
      ∃ added, result = .ok (stored ++ added) ∧ Opened plan tools session stored added log := by
  simp only [openSession, isPlanned, applies, if_true] at runs
  rcases runs_run_bind runs with ⟨fault, rfl, failed⟩ | ⟨part, added, after, rfl, opens, rest⟩
  · exact .inl ⟨fault, rfl, .failed isPlanned failed⟩
  · split at rest
    · next isEmpty =>
        cases List.isEmpty_iff.1 isEmpty
        obtain ⟨rfl, none⟩ := runs_opening_nil opens
        obtain ⟨rfl, rfl⟩ := runs_run_pure rest
        refine .inr ⟨[], by rw [List.append_nil], .without ?_⟩
        intro other isOther _
        cases isPlanned.symm.trans isOther
        exact none
    · next isFull =>
        have full : added ≠ [] := by simpa using isFull
        rcases runs_saveTurns_bind rest with ⟨fault, rfl, rfl⟩ | ⟨last, rfl, ends⟩
        · exact .inl ⟨fault, rfl, .unsaved fault opens full⟩
        · obtain ⟨rfl, rfl⟩ := runs_run_pure ends
          rw [List.append_nil]
          exact .inr ⟨added, rfl, .saved isPlanned applies opens full⟩

theorem runs_openSession {result : Except Fault Transcript}
    (runs : Runs (openSession plan tools session stored).run log result) :
    (∃ fault, result = .error fault ∧ Unopened plan tools session stored log fault) ∨
      ∃ added, result = .ok (stored ++ added) ∧ Opened plan tools session stored added log := by
  by_cases planned : ∃ opening, plan.opening = some opening ∧ opening.applies stored session = true
  · obtain ⟨opening, isPlanned, applies⟩ := planned
    exact runs_openSession_planned isPlanned applies runs
  · have unopened : openSession plan tools session stored = pure stored := by
      rw [openSession]
      split
      · rfl
      · next opening isPlanned =>
          exact if_neg fun applies => planned ⟨opening, isPlanned, applies⟩
    rw [unopened] at runs
    obtain ⟨rfl, rfl⟩ := runs_run_pure runs
    refine .inr ⟨[], by rw [List.append_nil], .without ?_⟩
    intro opening isPlanned applies
    exact absurd ⟨opening, isPlanned, applies⟩ planned

end Openings

/-! ### A whole exchange -/

section Whole

variable {reuses : Bool} {plan : Plan η} {input : Input} {log : Log} {result : Except Fault Reply}

/-- What the requests of an exchange to the model have in common. -/
def Plan.frame (plan : Plan η) (reuses : Bool) (input : Input) (notes : List String)
    (date : CivilDate) : Frame η :=
  let tools := plan.catalog.toolset input.subset
  { desk :=
      { session := input.session, message := input.message, tools := tools, reuses := reuses }
    settings := plan.settings
    systemLines := systemLines plan.settings.instructions notes tools.names date }

/-- What is asked before the rounds, where the session is opened in between. -/
def preparation (input : Input) (stored : Transcript) (opened : Log) (notes : List String)
    (date : CivilDate) : Log :=
  [⟨.secure input.user input.session input.message, .ok ()⟩, ⟨.load input.session, .ok stored⟩] ++
    opened ++ [⟨.loadNotes input.session, .ok notes⟩, ⟨.today, date⟩]

/-- How an exchange ends before its rounds: the message may not be answered, the transcript is not
loaded, the session is not opened, or its system messages are not loaded. -/
inductive Thwarted (plan : Plan η) (input : Input) : Log → Fault → Prop where
  | refused (fault : Fault) :
      Thwarted plan input [⟨.secure input.user input.session input.message, .error fault⟩] fault
  | unread (fault : Fault) :
      Thwarted plan input
        [⟨.secure input.user input.session input.message, .ok ()⟩,
          ⟨.load input.session, .error fault⟩] fault
  | unopened {stored : Transcript} {part : Log} {fault : Fault} :
      Unopened plan (plan.catalog.toolset input.subset) input.session stored part fault →
      Thwarted plan input
        ([⟨.secure input.user input.session input.message, .ok ()⟩,
          ⟨.load input.session, .ok stored⟩] ++ part) fault
  | unnoted {stored added : Transcript} {opened : Log} (fault : Fault) :
      Opened plan (plan.catalog.toolset input.subset) input.session stored added opened →
      Thwarted plan input
        ([⟨.secure input.user input.session input.message, .ok ()⟩,
          ⟨.load input.session, .ok stored⟩] ++ opened ++ [⟨.loadNotes input.session, .error fault⟩])
        fault

/-- An exchange is admitted as the gate lets it pass and its transcript is loaded. -/
theorem quiet_admitted (input : Input) (stored : Transcript) :
    ∀ asked ∈ ([⟨.secure input.user input.session input.message, .ok ()⟩,
      ⟨.load input.session, .ok stored⟩] : Log), Quiet asked.question := by
  simp [Quiet]

theorem Opened.quiet_preparation {tools : Toolset η} {stored added : Transcript} {opened : Log}
    (isOpened : Opened plan tools input.session stored added opened) (notes : List String)
    (date : CivilDate) :
    ∀ asked ∈ preparation input stored opened notes date, Quiet asked.question := by
  rw [preparation]
  simp only [List.forall_mem_append]
  exact ⟨⟨quiet_admitted input stored, isOpened.quiet⟩, by simp [Quiet]⟩

theorem Thwarted.prevented {fault : Fault} (thwarted : Thwarted plan input log fault) :
    Prevented plan log := by
  cases thwarted with
  | refused => exact prevented_concat [] (by simp) trivial rfl
  | unread => exact prevented_concat [_] (by simp [Quiet]) trivial rfl
  | unopened unopened => exact unopened.prevented.after (quiet_admitted input _)
  | unnoted _ opened =>
      exact prevented_concat _ (List.forall_mem_append.2 ⟨quiet_admitted input _, opened.quiet⟩)
        trivial rfl

/-- An exchange is thwarted, or takes its course on what is stored, the turns of its opening and the
message of the user. -/
theorem thwarted_or_course (runs : Runs (runWith reuses plan input).run log result) :
    (∃ fault, result = .error fault ∧ Thwarted plan input log fault) ∨
      ∃ stored added opened notes date rounds ending,
        let frame := plan.frame reuses input notes date
        let turns := stored ++ added ++ [Turn.plain .user input.message]
        log = preparation input stored opened notes date ++
          (roundsLog frame 0 turns [] rounds ++ ending) ∧
        Opened plan (plan.catalog.toolset input.subset) input.session stored added opened ∧
        Course frame 0 plan.settings.maxRounds turns [] rounds ending result := by
  rcases runs_run_bind runs with ⟨fault, rfl, failed⟩ | ⟨gate, _, afterGate, rfl, passes, rest⟩
  · rw [runs_query_iff.1 failed]
    exact .inl ⟨fault, rfl, .refused fault⟩
  rw [runs_query_iff.1 passes]
  rcases runs_run_bind rest with ⟨fault, rfl, failed⟩ | ⟨store, stored, afterStore, rfl, loads, rest⟩
  · rw [runs_query_iff.1 failed]
    exact .inl ⟨fault, rfl, .unread fault⟩
  rw [runs_query_iff.1 loads]
  rcases runs_run_bind rest with ⟨fault, rfl, failed⟩ | ⟨opened, turns, afterOpened, rfl, opens, rest⟩
  · rcases runs_openSession failed with ⟨other, same, unopened⟩ | ⟨added, same, -⟩
    · cases same
      exact .inl ⟨fault, rfl, .unopened unopened⟩
    · contradiction
  rcases runs_openSession opens with ⟨other, same, -⟩ | ⟨added, same, isOpened⟩
  · contradiction
  cases same
  rcases runs_run_bind rest with ⟨fault, rfl, failed⟩ | ⟨noting, notes, afterNotes, rfl, noted, rest⟩
  · rw [runs_query_iff.1 failed, ← List.append_assoc, ← List.append_assoc]
    exact .inl ⟨fault, rfl, .unnoted fault isOpened⟩
  rw [runs_query_iff.1 noted]
  obtain ⟨date, afterDate, rfl, loops⟩ := runs_lift_bind rest
  have loops : Runs (loop (plan.frame reuses input notes date) 0
      (stored ++ added ++ [Turn.plain .user input.message]) .start plan.settings.maxRounds).run
      afterDate result := loops
  obtain ⟨rounds, ending, rfl, course⟩ :=
    runs_loop (reflects_start _) (fun none => absurd none (Nat.lt_irrefl 0)) loops
  refine .inr ⟨stored, added, opened, notes, date, rounds, ending, ?_, isOpened, course⟩
  simp [preparation]

/-- Whatever thwarts an exchange was fatal to it. -/
theorem runs_runWith (runs : Runs (runWith reuses plan input).run log result) :
    (∃ fault, result = .error fault ∧ Prevented plan log) ∨
      ∃ stored added opened notes date rounds ending,
        let frame := plan.frame reuses input notes date
        let turns := stored ++ added ++ [Turn.plain .user input.message]
        log = preparation input stored opened notes date ++
          (roundsLog frame 0 turns [] rounds ++ ending) ∧
        Opened plan (plan.catalog.toolset input.subset) input.session stored added opened ∧
        Course frame 0 plan.settings.maxRounds turns [] rounds ending result := by
  rcases thwarted_or_course runs with ⟨fault, failed, thwarted⟩ | course
  · exact .inl ⟨fault, failed, thwarted.prevented⟩
  · exact .inr course

end Whole

end Exchange

end Parley
