/-
Module: Parley.Proofs.Program.Runs
Layer: Proofs
Purpose: The laws of runs.  A run of a sequence that a fault may end splits at its first part; a run
  of a program whose questions are replaced is a run of the program, with a run of what stands for
  each question in the place of the question.  What a program keeps while its log is written down
  holds of its runs; what leads to its end is one of its runs, and so is running it on a state.
Main exports: Program.runs_query_iff, Program.runs_bind_done_iff, Program.runs_run_bind,
  Program.runs_lift_bind, Program.Expands, Program.Expands.parts, Program.runs_embed_iff,
  Program.logging, Program.Keeps.runs, Program.remembering, Program.Keeps.remembered, Program.Asks,
  Program.Changes, Program.Leads.runs, Program.recording, Program.runs_recording
-/
import Parley.Proofs.Program.Contract

namespace Parley.Program

variable {I J : Interface} {α β ε σ : Type} {log : List (Asked I)}

theorem runs_done_iff {result other : α} :
    Runs (.done result : Program I α) log other ↔ log = [] ∧ other = result := by
  constructor
  · intro runs
    cases runs
    exact ⟨rfl, rfl⟩
  · rintro ⟨rfl, rfl⟩
    exact .done _

theorem runs_ask_iff {question : I.Question} {next : I.Answer question → Program I α} {result : α} :
    Runs (.ask question next) log result ↔
      ∃ answer rest, log = ⟨question, answer⟩ :: rest ∧ Runs (next answer) rest result := by
  constructor
  · intro runs
    cases runs with
    | ask more => exact ⟨_, _, rfl, more⟩
  · rintro ⟨answer, rest, rfl, more⟩
    exact .ask more

theorem runs_query_iff {question : I.Question} {answer : I.Answer question} :
    Runs (query question) log answer ↔ log = [⟨question, answer⟩] := by
  rw [query, runs_ask_iff]
  constructor
  · rintro ⟨given, rest, rfl, ended⟩
    obtain ⟨rfl, rfl⟩ := runs_done_iff.1 ended
    rfl
  · rintro rfl
    exact ⟨_, _, rfl, .done _⟩

/-- Nothing is asked in a last step that only works out the result. -/
theorem runs_bind_done_iff {program : Program I α} {work : α → β} {result : β} :
    Runs (program >>= fun value => .done (work value)) log result ↔
      ∃ value, Runs program log value ∧ result = work value := by
  rw [runs_bind_iff]
  constructor
  · rintro ⟨before, value, after, rfl, runs, ends⟩
    obtain ⟨rfl, rfl⟩ := runs_done_iff.1 ends
    rw [List.append_nil]
    exact ⟨value, runs, rfl⟩
  · rintro ⟨value, runs, rfl⟩
    exact ⟨log, value, [], (List.append_nil log).symm, runs, .done _⟩

/-! ### Sequences that a fault may end -/

/-- Either the first part of a sequence ends in a fault, and so does the sequence, or the rest goes on
with its result. -/
theorem runs_run_bind {program : ExceptT ε (Program I) α} {next : α → ExceptT ε (Program I) β}
    {result : Except ε β} (runs : Runs (program >>= next).run log result) :
    (∃ fault, result = .error fault ∧ Runs program.run log (.error fault)) ∨
      ∃ before value after, log = before ++ after ∧ Runs program.run before (.ok value) ∧
        Runs (next value).run after result := by
  rw [ExceptT.run_bind, runs_bind_iff] at runs
  obtain ⟨before, between, after, rfl, first, rest⟩ := runs
  cases between with
  | ok value => exact .inr ⟨before, value, after, rfl, first, rest⟩
  | error fault =>
      obtain ⟨rfl, rfl⟩ := runs_done_iff.1 rest
      rw [List.append_nil]
      exact .inl ⟨fault, rfl, first⟩

theorem runs_run_pure {value : α} {result : Except ε α}
    (runs : Runs (pure value : ExceptT ε (Program I) α).run log result) :
    log = [] ∧ result = .ok value := runs_done_iff.1 runs

theorem runs_run_throw {fault : ε} {result : Except ε α}
    (runs : Runs (throw fault : ExceptT ε (Program I) α).run log result) :
    log = [] ∧ result = .error fault := runs_done_iff.1 runs

/-- What follows a question that is answered without faults goes on with the answer. -/
theorem runs_lift_bind {question : I.Question}
    {next : I.Answer question → ExceptT ε (Program I) α} {result : Except ε α}
    (runs : Runs (ExceptT.lift (query question) >>= next).run log result) :
    ∃ answer rest, log = ⟨question, answer⟩ :: rest ∧ Runs (next answer).run rest result :=
  runs_ask_iff.1 runs

/-! ### Replaced questions -/

/-- A log in which each question is replaced by the questions that stand for it. -/
inductive Expands (meaning : (question : I.Question) → Program J (I.Answer question)) :
    List (Asked I) → List (Asked J) → Prop where
  | nil : Expands meaning [] []
  | cons {question : I.Question} {answer : I.Answer question} {part : List (Asked J)}
      {log : List (Asked I)} {rest : List (Asked J)} :
      Runs (meaning question) part answer → Expands meaning log rest →
      Expands meaning (⟨question, answer⟩ :: log) (part ++ rest)

section Expands

variable {meaning : (question : I.Question) → Program J (I.Answer question)}

theorem Expands.split {first second : List (Asked I)} {whole : List (Asked J)}
    (expands : Expands meaning (first ++ second) whole) :
    ∃ before after, whole = before ++ after ∧ Expands meaning first before ∧
      Expands meaning second after := by
  induction first generalizing whole with
  | nil => exact ⟨[], whole, rfl, .nil, expands⟩
  | cons asked first ih =>
      cases expands with
      | cons runs expands =>
          obtain ⟨before, after, rfl, left, right⟩ := ih expands
          exact ⟨_, after, (List.append_assoc ..).symm, .cons runs left, right⟩

/-- Such a log is divided into parts, one for each question. -/
theorem Expands.parts {log : List (Asked I)} {whole : List (Asked J)}
    (expands : Expands meaning log whole) :
    ∃ parts : List (Asked I × List (Asked J)), log = parts.map (·.1) ∧
      whole = parts.flatMap (·.2) ∧
      ∀ part ∈ parts, Runs (meaning part.1.question) part.2 part.1.answer := by
  induction expands with
  | nil => exact ⟨[], rfl, rfl, by simp⟩
  | @cons question answer part log rest runs _ ih =>
      obtain ⟨parts, rfl, rfl, each⟩ := ih
      refine ⟨(⟨question, answer⟩, part) :: parts, rfl, rfl, ?_⟩
      intro other member
      rcases List.mem_cons.1 member with here | there
      · rw [here]
        exact runs
      · exact each other there

/-- The runs of a program whose questions are replaced. -/
theorem runs_embed_iff {program : Program I α} {whole : List (Asked J)} {result : α} :
    Runs (program.embed meaning) whole result ↔
      ∃ log, Runs program log result ∧ Expands meaning log whole := by
  constructor
  · intro runs
    induction program generalizing whole with
    | done value =>
        obtain ⟨rfl, rfl⟩ := runs_done_iff.1 runs
        exact ⟨[], .done _, .nil⟩
    | ask question next ih =>
        obtain ⟨part, answer, rest, rfl, asks, runsOn⟩ := runs_bind_iff.1 runs
        obtain ⟨log, runsNext, expands⟩ := ih answer runsOn
        exact ⟨_, .ask runsNext, .cons asks expands⟩
  · rintro ⟨log, runs, expands⟩
    induction runs generalizing whole with
    | done value =>
        cases expands
        exact .done value
    | ask _ ih =>
        cases expands with
        | cons asks expands => exact runs_bind_iff.2 ⟨_, _, _, rfl, asks, ih expands⟩

end Expands

/-! ### Runs on a state -/

/-- Some questions may be asked, whatever the answers, and the log is written down. -/
def logging (asks : I.Question → Prop) : Contract I (List (Asked I)) where
  asks _ question := asks question
  answers question before answer after := after = before ++ [⟨question, answer⟩]

/-- What is kept while the log is written down holds of every run. -/
theorem Keeps.runs {asks : I.Question → Prop} {post : α → List (Asked I) → Prop}
    {program : Program I α} {before : List (Asked I)} {result : α}
    (keeps : program.Keeps (logging asks) post before) (runs : Runs program log result) :
    (∀ asked ∈ log, asks asked.question) ∧ post result (before ++ log) := by
  induction runs generalizing before with
  | done result =>
      rw [List.append_nil]
      exact ⟨by simp, keeps⟩
  | @ask question rest answer log result _ ih =>
      obtain ⟨allowed, held⟩ := ih (keeps.2 answer _ rfl)
      rw [List.append_assoc] at held
      refine ⟨?_, held⟩
      intro asked member
      rcases List.mem_cons.1 member with rfl | later
      · exact keeps.1
      · exact allowed asked later

/-- What may be asked depends on all that has been asked so far, with its answers. -/
def remembering (asks : List (Asked I) → I.Question → Prop) : Contract I (List (Asked I)) where
  asks := asks
  answers question before answer after := after = before ++ [⟨question, answer⟩]

/-- What is kept while the log is written down, and depends on it, holds of every run. -/
theorem Keeps.remembered {asks : List (Asked I) → I.Question → Prop}
    {post : α → List (Asked I) → Prop} {program : Program I α} {before : List (Asked I)} {result : α}
    (keeps : program.Keeps (remembering asks) post before) (runs : Runs program log result) :
    (∀ early asked late, log = early ++ asked :: late → asks (before ++ early) asked.question) ∧
      post result (before ++ log) := by
  induction runs generalizing before with
  | done result =>
      rw [List.append_nil]
      exact ⟨by simp, keeps⟩
  | @ask question rest answer log result _ ih =>
      obtain ⟨allowed, held⟩ := ih (keeps.2 answer _ rfl)
      rw [List.append_assoc] at held
      refine ⟨?_, held⟩
      intro early asked late split
      cases early with
      | nil =>
          cases split
          rw [List.append_nil]
          exact keeps.1
      | cons first early =>
          cases split
          have later := allowed early asked late rfl
          rwa [List.append_assoc] at later

/-! ### Programs that ask only some questions -/

/-- However a program is answered, it asks only some questions, and its results have a property. -/
def Asks (allowed : I.Question → Prop) (post : α → Prop) (program : Program I α) : Prop :=
  ∀ before, program.Keeps (logging allowed) (fun result _ => post result) before

section Asks

variable {allowed : I.Question → Prop} {post : α → Prop} {program : Program I α}

theorem Asks.done {result : α} (isSo : post result) :
    (Program.done result : Program I α).Asks allowed post :=
  fun _ => isSo

theorem Asks.query {question : I.Question} (isAllowed : allowed question) :
    (Program.query question).Asks allowed fun _ => True :=
  fun _ => ⟨isAllowed, fun _ _ _ => trivial⟩

theorem Asks.bind {next : α → Program I β} {last : β → Prop} (first : program.Asks allowed post)
    (rest : ∀ result, post result → (next result).Asks allowed last) :
    (program >>= next).Asks allowed last := by
  intro before
  rw [keeps_bind]
  apply (first before).mono
  intro result after isSo
  exact rest result isSo after

/-- All that is asked in a run is allowed. -/
theorem Asks.runs {result : α} (asks : program.Asks allowed post) (runs : Runs program log result) :
    (∀ asked ∈ log, allowed asked.question) ∧ post result :=
  (asks []).runs runs

end Asks

/-! ### Changes of a state -/

/-- The answers of a log, one after another, change a state into another. -/
inductive Changes (answers : (question : I.Question) → σ → I.Answer question → σ → Prop) :
    σ → List (Asked I) → σ → Prop where
  | nil (state : σ) : Changes answers state [] state
  | cons {question : I.Question} {answer : I.Answer question} {log : List (Asked I)}
      {before between after : σ} :
      answers question before answer between → Changes answers between log after →
      Changes answers before (⟨question, answer⟩ :: log) after

section Changes

variable {answers : (question : I.Question) → σ → I.Answer question → σ → Prop}

theorem Changes.split {first second : List (Asked I)} {before after : σ}
    (changes : Changes answers before (first ++ second) after) :
    ∃ between, Changes answers before first between ∧ Changes answers between second after := by
  induction first generalizing before with
  | nil => exact ⟨before, .nil before, changes⟩
  | cons asked first ih =>
      cases changes with
      | cons answered rest =>
          obtain ⟨between, left, right⟩ := ih rest
          exact ⟨between, .cons answered left, right⟩

/-- What leads to the end of a program is one of its runs. -/
theorem Leads.runs {program : Program I α} {result : α} {before after : σ}
    (leads : Leads answers program before (.done result) after) :
    ∃ log, Runs program log result ∧ Changes answers before log after := by
  generalize ended : Program.done result = left at leads
  induction leads with
  | refl program state =>
      cases ended
      exact ⟨[], .done result, .nil state⟩
  | ask answered _ ih =>
      obtain ⟨log, runs, changes⟩ := ih ended
      exact ⟨_, .ask runs, .cons answered changes⟩

end Changes

/-- Answer as before, and write down every question with its answer. -/
def recording (answer : (question : I.Question) → StateM σ (I.Answer question))
    (question : I.Question) : StateM (σ × List (Asked I)) (I.Answer question) :=
  fun (state, log) =>
    let (given, after) := answer question state
    (given, after, log ++ [⟨question, given⟩])

/-- What is written down while a program runs is the log of one of its runs. -/
theorem runs_recording (answer : (question : I.Question) → StateM σ (I.Answer question))
    (program : Program I α) (state : σ) (log : List (Asked I)) :
    ∃ part, (program.run (recording answer) (state, log)).2.2 = log ++ part ∧
      Runs program part (program.run (recording answer) (state, log)).1 := by
  induction program generalizing state log with
  | done result => exact ⟨[], (List.append_nil log).symm, .done result⟩
  | ask question next ih =>
      obtain ⟨part, logEq, runs⟩ := ih (answer question state).1 (answer question state).2
        (log ++ [⟨question, (answer question state).1⟩])
      refine ⟨⟨question, (answer question state).1⟩ :: part, ?_, .ask runs⟩
      exact logEq.trans (by rw [List.append_assoc, List.singleton_append])

end Parley.Program
