/-
Module: Parley.Proofs.Exchange.Cautious
Layer: Proofs
Purpose: What an exchange begins.  It asks the model and makes calls only when it has just been told
  that it is not cancelled.  So once it is told that it is, it begins nothing more, and asks only what
  is answered without those outside.
Main exports: ExchangeQuestion.asksOutside, Exchange.MayBegin, Exchange.Cautious,
  Exchange.beginsWell_runWith, Exchange.Restrained, Exchange.obedient, Exchange.Restrained.obedient
-/
import Parley.Proofs.Exchange.Questions
import Parley.Proofs.Exchange.Rounds
import Parley.Proofs.Program.Partial

namespace Parley

open Program (Asked remembering keeps_run_bind)

variable {η α β : Type}

/-- Whether a question is one to those outside: to the gate or to the model, or a whole call. -/
def ExchangeQuestion.asksOutside : ExchangeQuestion wholeCalls → Bool
  | .secure _ _ _ => true
  | .complete _ => true
  | .call _ => true
  | _ => false

namespace Exchange

/-! ### Questions before each step -/

/-- The last answer was that the exchange is not cancelled. -/
def Cleared (before : Log) : Prop := before.getLast? = some ⟨.isCancelled, false⟩

/-- What may be asked after some questions: the gate at first, and the model or a call only if the
exchange has just been told to go on. -/
def MayBegin (before : Log) : ExchangeQuestion wholeCalls → Prop
  | .secure _ _ _ => before = []
  | .complete _ => Cleared before
  | .call _ => Cleared before
  | _ => True

/-- However a program is answered from a log on, it begins only what may begin. -/
def BeginsWell (before : Log) (program : ExchangeProgram wholeCalls α) : Prop :=
  program.run.Keeps (remembering MayBegin) (fun _ after => after ≠ []) before

/-- A program that begins nothing without having asked whether it may, once the gate has been
asked. -/
def Cautious (program : ExchangeProgram wholeCalls α) : Prop :=
  ∀ before, before ≠ [] → BeginsWell before program

/-- A program that may begin something at once. -/
def Released (program : ExchangeProgram wholeCalls α) : Prop :=
  ∀ before, Cleared before → BeginsWell before program

section Laws

variable {program : ExchangeProgram wholeCalls α} {next : α → ExchangeProgram wholeCalls β}

theorem Cautious.pure (value : α) : Cautious (pure value) :=
  fun _ some => some

theorem Cautious.throw (fault : Fault) : Cautious (throw fault : ExchangeProgram wholeCalls α) :=
  fun _ some => some

theorem BeginsWell.bind {before : Log} (first : BeginsWell before program)
    (rest : ∀ value, Cautious (next value)) : BeginsWell before (program >>= next) := by
  rw [BeginsWell, keeps_run_bind]
  apply Program.Keeps.mono first
  intro result after some
  cases result with
  | ok value => exact rest value after some
  | error fault => exact some

theorem Cautious.bind (first : Cautious program) (rest : ∀ value, Cautious (next value)) :
    Cautious (program >>= next) :=
  fun before some => (first before some).bind rest

theorem Released.bind (first : Released program) (rest : ∀ value, Cautious (next value)) :
    Released (program >>= next) :=
  fun before cleared => (first before cleared).bind rest

theorem Cautious.released (cautious : Cautious program) : Released program := by
  intro before cleared
  apply cautious before
  rintro rfl
  contradiction

/-- Once it has been told to go on, a program may begin something. -/
theorem Released.checked {program : ExchangeProgram wholeCalls α} (released : Released program) :
    Cautious (checkCancelled >>= fun _ => program) := by
  intro before _
  rw [BeginsWell, keeps_run_bind]
  refine keeps_checkCancelled.2 ⟨trivial, ?_⟩
  rintro isCancelled after rfl
  cases isCancelled with
  | true => exact List.append_ne_nil_of_right_ne_nil _ (List.cons_ne_nil _ _)
  | false => exact released _ List.getLast?_concat

theorem released_runCall (call : Call) : Released (runCall call) := by
  intro before cleared
  refine keeps_runCall.2 ⟨cleared, ?_⟩
  rintro outcome after rfl
  exact List.append_ne_nil_of_right_ne_nil _ (List.cons_ne_nil _ _)

theorem released_complete (request : ModelRequest) : Released (complete request) := by
  intro before cleared
  refine keeps_complete.2 ⟨cleared, ?_⟩
  rintro answer after rfl
  exact List.append_ne_nil_of_right_ne_nil _ (List.cons_ne_nil _ _)

theorem cautious_report (event : Event) :
    Cautious (report event : ExchangeProgram wholeCalls Unit) := by
  intro before _
  refine keeps_report.2 ⟨trivial, ?_⟩
  rintro answer after rfl
  exact List.append_ne_nil_of_right_ne_nil _ (List.cons_ne_nil _ _)

theorem cautious_saveTurns (session : String) (turns : Transcript) :
    Cautious (saveTurns session turns : ExchangeProgram wholeCalls Unit) := by
  have saves : Cautious (save session turns.numbered : ExchangeProgram wholeCalls Unit) := by
    intro before _
    refine keeps_save.2 ⟨trivial, ?_⟩
    rintro answer after rfl
    exact List.append_ne_nil_of_right_ne_nil _ (List.cons_ne_nil _ _)
  exact saves.bind fun _ => cautious_report _

end Laws

/-! ### The parts of an exchange -/

section Parts

variable {frame : Frame η} {desk : Desk η}

theorem released_resolveNew (progress : Progress) (request : ToolRequest) :
    Released (resolveNew desk progress request) := by
  apply (released_runCall _).bind
  intro outcome
  cases outcome with
  | ok value => exact .pure _
  | error error =>
      dsimp only
      split
      · exact .pure _
      · exact .throw _

theorem cautious_resolve (progress : Progress) (request : ToolRequest) :
    Cautious (resolve desk progress request) := by
  apply Released.checked
  split
  · exact ((cautious_report _).bind fun _ => .pure _).released
  · exact released_resolveNew progress request

theorem cautious_resolveAll (progress : Progress) (requests : List ToolRequest) :
    Cautious (resolveAll desk progress requests) := by
  induction requests generalizing progress with
  | nil => exact .pure _
  | cons request requests ih =>
      apply (cautious_resolve progress request).bind
      rintro ⟨turn, after⟩
      exact (ih after).bind fun _ => .pure _

theorem cautious_finish (turns : Transcript) (text : String) (rounds : Nat) (fallback : Bool) :
    Cautious (finish frame turns text rounds fallback) :=
  (cautious_saveTurns _ _).bind fun _ => .pure _

theorem cautious_answer (rounds : Nat) (turns : Transcript) (reply : Turn) :
    Cautious (answer frame rounds turns reply) := by
  have inFormat : Cautious (inFormat frame turns reply) := by
    rw [Exchange.inFormat]
    split
    · exact .pure _
    · apply (cautious_report _).bind
      intro _
      exact Released.checked ((released_complete _).bind fun _ => .pure _)
  exact inFormat.bind fun _ => cautious_finish _ _ _ _

/-- However many rounds there are, each of them begins with the question whether the exchange has been
cancelled, and so does each call in it. -/
theorem cautious_loop (rounds : Nat) (turns : Transcript) (progress : Progress) (left : Nat) :
    Cautious (loop frame rounds turns progress left) := by
  induction left generalizing rounds turns progress with
  | zero =>
      apply Released.checked
      apply (released_complete _).bind
      intro reply
      split
      · exact (cautious_report _).bind fun _ => .throw _
      · exact cautious_answer _ _ _
  | succ left ih =>
      apply Released.checked
      apply (released_complete _).bind
      intro reply
      split
      · have runs : Cautious (runRound frame (rounds + 1) progress reply) := by
          apply (cautious_resolveAll _ _).bind
          rintro ⟨responses, after⟩
          exact (cautious_report _).bind fun _ => .pure _
        apply runs.bind
        rintro ⟨added, after⟩
        dsimp only
        split
        · exact (cautious_report _).bind fun _ => cautious_finish _ _ _ _
        · exact ih _ _ _
      · exact cautious_answer _ _ _

theorem cautious_runCalls {opening : OpeningPlan} (session : String) (earlier : List Json)
    (requests : List ToolRequest) :
    Cautious (Opening.runCalls opening session earlier requests) := by
  induction requests generalizing earlier with
  | nil => exact .pure _
  | cons request requests ih =>
      apply Released.checked
      apply (released_runCall _).bind
      intro outcome
      cases outcome with
      | ok value => exact (ih _).bind fun _ => .pure _
      | error error =>
          dsimp only
          split
          · exact .throw _
          · exact (ih _).bind fun _ => .pure _

theorem cautious_openSession (plan : Plan η) (tools : Toolset η) (session : String)
    (stored : Transcript) : Cautious (openSession plan tools session stored) := by
  rw [openSession]
  split
  · exact .pure _
  · next opening isPlanned =>
      split
      · have opens : Cautious (Opening.run opening tools session) := by
          rw [Opening.run]
          dsimp only
          split
          · exact .pure _
          · apply (cautious_runCalls _ _ _).bind
            rintro ⟨turns, failures⟩
            exact (cautious_report _).bind fun _ => .pure _
        apply opens.bind
        intro added
        split
        · exact .pure _
        · exact (cautious_saveTurns _ _).bind fun _ => .pure _
      · exact .pure _

/-- A whole exchange begins only what may begin. -/
theorem beginsWell_runWith (reuses : Bool) (plan : Plan η) (input : Input) :
    BeginsWell [] (runWith reuses plan input) := by
  have written : ∀ {before : Log} {asked : Asked (exchangeInterface wholeCalls)},
      before ++ [asked] ≠ [] :=
    List.append_ne_nil_of_right_ne_nil _ (List.cons_ne_nil _ _)
  have gate : BeginsWell [] (secure input.user input.session input.message) := by
    refine keeps_secure.2 ⟨rfl, ?_⟩
    rintro answer after rfl
    exact written
  have loads : Cautious (load input.session : ExchangeProgram wholeCalls Transcript) := by
    intro before _
    refine keeps_load.2 ⟨trivial, ?_⟩
    rintro answer after rfl
    exact written
  have notes : Cautious (loadNotes input.session : ExchangeProgram wholeCalls (List String)) := by
    intro before _
    refine keeps_loadNotes.2 ⟨trivial, ?_⟩
    rintro answer after rfl
    exact written
  have dates : Cautious (today : ExchangeProgram wholeCalls CivilDate) := by
    intro before _
    refine keeps_today.2 ⟨trivial, ?_⟩
    rintro answer after rfl
    exact written
  apply gate.bind
  intro _
  apply loads.bind
  intro stored
  apply (cautious_openSession _ _ _ _).bind
  intro turns
  apply notes.bind
  intro lines
  apply dates.bind
  intro date
  exact cautious_loop _ _ _ _

end Parts

/-! ### After the exchange has been told to stop -/

/-- An answer that does not tell an exchange to go on. -/
def Restrains : (question : ExchangeQuestion wholeCalls) → question.Answer → Prop
  | .isCancelled, isCancelled => isCancelled = true
  | _, _ => True

/-- Nobody outside is asked by an exchange that is not told to go on. -/
def obedient : Contract (exchangeInterface wholeCalls) Log where
  asks _ question := question.asksOutside = false
  answers question before answer after :=
    after = before ++ [⟨question, answer⟩] ∧ Restrains question answer

/-- The gate has been asked, and the exchange has not just been told to go on. -/
structure Restrained (log : Log) : Prop where
  started : log ≠ []
  uncleared : ¬Cleared log

theorem restrained_concat (before : Log) {question : ExchangeQuestion wholeCalls}
    {answer : question.Answer} (restrains : Restrains question answer) :
    Restrained (before ++ [⟨question, answer⟩]) where
  started := List.append_ne_nil_of_right_ne_nil _ (List.cons_ne_nil _ _)
  uncleared := by
    intro cleared
    rw [Cleared, List.getLast?_concat] at cleared
    cases cleared
    contradiction

theorem Restrained.asksOutside_eq {before : Log} {question : ExchangeQuestion wholeCalls}
    (restrained : Restrained before) (may : MayBegin before question) :
    question.asksOutside = false := by
  cases question with
  | secure => exact absurd may restrained.started
  | complete => exact absurd may restrained.uncleared
  | call => exact absurd may restrained.uncleared
  | _ => rfl

/-- What begins only what may begin asks nobody outside from then on. -/
theorem Restrained.obedient {before : Log} {post : α → Log → Prop}
    {program : Program (exchangeInterface wholeCalls) α} (restrained : Restrained before)
    (keeps : program.Keeps (remembering MayBegin) post before) :
    program.Keeps obedient post before := by
  induction program generalizing before with
  | done result => exact keeps
  | ask question next ih =>
      obtain ⟨may, goesOn⟩ := keeps
      refine ⟨restrained.asksOutside_eq may, ?_⟩
      rintro answer after ⟨rfl, restrains⟩
      exact ih answer (restrained_concat before restrains) (goesOn answer _ rfl)

end Exchange

end Parley
