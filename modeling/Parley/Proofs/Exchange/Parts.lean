/-
Module: Parley.Proofs.Exchange.Parts
Layer: Proofs
Purpose: The parts of an exchange, under any contract.  Only two things of an exchange save: the
  opening, once its turns are there, and the end.  So a property that every other question about the
  session leaves true is kept by every part that does not save; and if a save that fails leaves it
  true as well, it holds whenever the rounds of an exchange end in a fault.
Main exports: ExchangeQuestion.IsOf, Exchange.Bears, Exchange.Suffers, Exchange.Clean,
  Exchange.Final, Exchange.clean_opening, Exchange.final_loop, Exchange.final_runWith, Exchange.own,
  Exchange.own_runWith, Exchange.own_delete
-/
import Parley.Exchange.Deletion
import Parley.Proofs.Exchange.Questions

namespace Parley

open Program (keeps_run_bind)

variable {C : Interface} {η σ α β : Type}

namespace ExchangeQuestion

/-- Whether a question asks to save a transcript. -/
def asksToSave : ExchangeQuestion C → Bool
  | .save _ _ => true
  | _ => false

/-- Whether a question is one of those that tool rounds and openings ask. -/
def isMinor : ExchangeQuestion C → Bool
  | .report _ => true
  | .isCancelled => true
  | .call _ => true
  | _ => false

/-- A question to the store is about this session. -/
def IsOf (session : String) : ExchangeQuestion C → Prop
  | .load other => other = session
  | .save other _ => other = session
  | .loadNotes other => other = session
  | _ => True

end ExchangeQuestion

namespace Exchange

variable {contract : Contract (exchangeInterface wholeCalls) σ} {holds : σ → Prop}
  {session : String}

/-- While a property holds, every question about a session may be asked but to save, and the
property still holds after it. -/
def Bears (contract : Contract (exchangeInterface wholeCalls) σ) (session : String)
    (holds : σ → Prop) : Prop :=
  ∀ state question, holds state → question.IsOf session → question.asksToSave = false →
    contract.asks state question ∧
      ∀ answer after, contract.answers question state answer after → holds after

/-- While a property holds, all that tool rounds and openings ask may be asked, and the property
still holds after it. -/
def Suffers (contract : Contract (exchangeInterface wholeCalls) σ) (holds : σ → Prop) : Prop :=
  ∀ state question, holds state → question.isMinor = true →
    contract.asks state question ∧
      ∀ answer after, contract.answers question state answer after → holds after

theorem Bears.suffers (bears : Bears contract session holds) : Suffers contract holds := by
  intro state question held isMinor
  cases question with
  | report => exact bears state _ held trivial rfl
  | isCancelled => exact bears state _ held trivial rfl
  | call => exact bears state _ held trivial rfl
  | _ => contradiction

/-! ### Parts that save nothing -/

/-- A part of an exchange that keeps a property whatever comes of it. -/
def Clean (contract : Contract (exchangeInterface wholeCalls) σ) (holds : σ → Prop)
    (program : ExchangeProgram wholeCalls α) : Prop :=
  ∀ state, holds state → program.run.Keeps contract (fun _ after => holds after) state

/-- A part of an exchange after which a property holds if it fails. -/
def Final (contract : Contract (exchangeInterface wholeCalls) σ) (holds : σ → Prop)
    (program : ExchangeProgram wholeCalls α) : Prop :=
  ∀ state, holds state →
    program.run.Keeps contract
      (fun result after => ∀ fault, result = .error fault → holds after) state

theorem Clean.final {program : ExchangeProgram wholeCalls α}
    (clean : Clean contract holds program) :
    Final contract holds program := by
  intro state held
  apply (clean state held).mono
  intro result after heldAfter fault _
  exact heldAfter

theorem Clean.pure (value : α) :
    Clean contract holds (pure value : ExchangeProgram wholeCalls α) :=
  fun _ held => held

theorem Clean.throw (fault : Fault) :
    Clean contract holds (throw fault : ExchangeProgram wholeCalls α) :=
  fun _ held => held

theorem Clean.bind {program : ExchangeProgram wholeCalls α}
    {next : α → ExchangeProgram wholeCalls β} (clean : Clean contract holds program)
    (rest : ∀ value, Clean contract holds (next value)) :
    Clean contract holds (program >>= next) := by
  intro state held
  rw [keeps_run_bind]
  apply (clean state held).mono
  intro result after heldAfter
  cases result with
  | ok value => exact rest value after heldAfter
  | error fault => exact heldAfter

theorem Clean.bindFinal {program : ExchangeProgram wholeCalls α}
    {next : α → ExchangeProgram wholeCalls β} (clean : Clean contract holds program)
    (rest : ∀ value, Final contract holds (next value)) :
    Final contract holds (program >>= next) := by
  intro state held
  rw [keeps_run_bind]
  apply (clean state held).mono
  intro result after heldAfter
  cases result with
  | ok value => exact rest value after heldAfter
  | error fault => exact fun _ _ => heldAfter

section Minor

variable (suffers : Suffers contract holds)
include suffers

theorem clean_report (event : Event) : Clean contract holds (report event) := by
  intro state held
  exact keeps_report.2 (suffers state _ held rfl)

theorem clean_checkCancelled : Clean contract holds checkCancelled := by
  intro state held
  exact keeps_checkCancelled.2 (suffers state _ held rfl)

theorem clean_runCall (call : Call) : Clean contract holds (runCall call) := by
  intro state held
  exact keeps_runCall.2 (suffers state _ held rfl)

theorem clean_resolve (desk : Desk η) (progress : Progress) (request : ToolRequest) :
    Clean contract holds (resolve desk progress request) := by
  apply (clean_checkCancelled suffers).bind
  intro _
  split
  · apply (clean_report suffers _).bind
    exact fun _ => .pure _
  · apply (clean_runCall suffers _).bind
    intro outcome
    split
    · exact .pure _
    · split
      · exact .pure _
      · exact .throw _

theorem clean_resolveAll (desk : Desk η) (progress : Progress) (requests : List ToolRequest) :
    Clean contract holds (resolveAll desk progress requests) := by
  induction requests generalizing progress with
  | nil => exact .pure _
  | cons request requests ih =>
      apply (clean_resolve suffers desk progress request).bind
      intro first
      apply (ih first.2).bind
      exact fun _ => .pure _

theorem clean_runRound (frame : Frame η) (rounds : Nat) (progress : Progress) (reply : Turn) :
    Clean contract holds (runRound frame rounds progress reply) := by
  apply (clean_resolveAll suffers frame.desk progress _).bind
  intro resolved
  apply (clean_report suffers _).bind
  exact fun _ => .pure _

theorem clean_runCalls (plan : OpeningPlan) (opened : String) (earlier : List Json)
    (requests : List ToolRequest) :
    Clean contract holds (Opening.runCalls plan opened earlier requests) := by
  induction requests generalizing earlier with
  | nil => exact .pure _
  | cons request requests ih =>
      apply (clean_checkCancelled suffers).bind
      intro _
      apply (clean_runCall suffers _).bind
      intro outcome
      split
      · apply (ih _).bind
        exact fun _ => .pure _
      · split
        · exact .throw _
        · apply (ih _).bind
          exact fun _ => .pure _

theorem clean_opening (plan : OpeningPlan) (tools : Toolset η) (opened : String) :
    Clean contract holds (Opening.run plan tools opened) := by
  rw [Opening.run]
  dsimp only
  split
  · exact .pure _
  · apply (clean_runCalls suffers plan opened [] _).bind
    intro made
    apply (clean_report suffers _).bind
    exact fun _ => .pure _

end Minor

section Parts

variable (bears : Bears contract session holds)
include bears

theorem clean_secure (user : Option String) (asker message : String) :
    Clean contract holds (secure user asker message) := by
  intro state held
  exact keeps_secure.2 (bears state _ held trivial rfl)

theorem clean_load : Clean contract holds (load session) := by
  intro state held
  exact keeps_load.2 (bears state _ held rfl rfl)

theorem clean_loadNotes : Clean contract holds (loadNotes session) := by
  intro state held
  exact keeps_loadNotes.2 (bears state _ held rfl rfl)

theorem clean_today : Clean contract holds today := by
  intro state held
  exact keeps_today.2 (bears state _ held trivial rfl)

theorem clean_complete (request : ModelRequest) :
    Clean contract holds (complete request) := by
  intro state held
  exact keeps_complete.2 (bears state _ held trivial rfl)

theorem clean_inFormat (frame : Frame η) (turns : Transcript) (reply : Turn) :
    Clean contract holds (inFormat frame turns reply) := by
  rw [inFormat]
  split
  · exact .pure _
  · apply (clean_report bears.suffers _).bind
    intro _
    apply (clean_checkCancelled bears.suffers).bind
    intro _
    apply (clean_complete bears _).bind
    exact fun _ => .pure _

end Parts

section Rounds

variable (bears : Bears contract session holds)
  (saves : ∀ turns, Final contract holds (saveTurns session turns))
include saves

theorem final_finish {frame : Frame η} (isSession : frame.desk.session = session)
    (turns : Transcript) (text : String) (rounds : Nat) (fallback : Bool) :
    Final contract holds (finish frame turns text rounds fallback) := by
  subst isSession
  intro state held
  rw [finish, keeps_run_bind]
  apply (saves turns state held).mono
  intro result after ended
  cases result with
  | ok _ => exact fun _ failed => nomatch failed
  | error fault => exact fun _ _ => ended fault rfl

include bears

theorem final_answer {frame : Frame η} (isSession : frame.desk.session = session) (rounds : Nat)
    (turns : Transcript) (reply : Turn) :
    Final contract holds (answer frame rounds turns reply) := by
  apply (clean_inFormat bears frame turns reply).bindFinal
  exact fun _ => final_finish saves isSession _ _ _ _

/-- However many rounds an exchange has, its one save comes at the end. -/
theorem final_loop {frame : Frame η} (isSession : frame.desk.session = session) (rounds : Nat)
    (turns : Transcript) (progress : Progress) (left : Nat) :
    Final contract holds (loop frame rounds turns progress left) := by
  induction left generalizing rounds turns progress with
  | zero =>
      apply (clean_checkCancelled bears.suffers).bindFinal
      intro _
      apply (clean_complete bears _).bindFinal
      intro reply
      split
      · apply (clean_report bears.suffers _).bindFinal
        exact fun _ => (Clean.throw _).final
      · exact final_answer bears saves isSession rounds turns reply
  | succ left ih =>
      apply (clean_checkCancelled bears.suffers).bindFinal
      intro _
      apply (clean_complete bears _).bindFinal
      intro reply
      split
      · apply (clean_runRound bears.suffers frame (rounds + 1) progress reply).bindFinal
        intro added
        dsimp only
        split
        · apply (clean_report bears.suffers _).bindFinal
          exact fun _ => final_finish saves isSession _ _ _ _
        · exact ih _ _ _
      · exact final_answer bears saves isSession rounds turns reply

end Rounds

/-! ### A whole exchange -/

section Whole

variable (bears : Bears contract session holds)
include bears

theorem clean_openSession (saves : ∀ turns, Clean contract holds (saveTurns session turns))
    (plan : Plan η) (tools : Toolset η) (stored : Transcript) :
    Clean contract holds (openSession plan tools session stored) := by
  rw [openSession]
  split
  · exact .pure _
  · split
    · apply (clean_opening bears.suffers _ tools session).bind
      intro added
      split
      · exact .pure _
      · apply (saves _).bind
        exact fun _ => .pure _
    · exact .pure _

/-- What saving keeps as well, a whole exchange keeps. -/
theorem final_runWith (saves : ∀ turns, Clean contract holds (saveTurns session turns))
    (reuses : Bool) (plan : Plan η) {input : Input} (isSession : input.session = session) :
    Final contract holds (runWith reuses plan input) := by
  subst isSession
  apply (clean_secure bears _ _ _).bindFinal
  intro _
  apply (clean_load bears).bindFinal
  intro stored
  apply (clean_openSession bears saves plan _ stored).bindFinal
  intro turns
  apply (clean_loadNotes bears).bindFinal
  intro notes
  apply (clean_today bears).bindFinal
  intro date
  apply final_loop bears (fun turns => (saves turns).final)
  rfl

end Whole

/-! ### Its own session -/

section Own

/-- Nothing is asked of the store but about one session. -/
def own (C : Interface) (session : String) : Contract (exchangeInterface C) Unit where
  asks _ question := question.IsOf session
  answers _ _ _ _ := True

theorem own_saveTurns (turns : Transcript) :
    (saveTurns session turns : ExchangeProgram C Unit).run.Keeps (own C session)
      (fun _ _ => True) () := by
  rw [saveTurns, keeps_run_bind]
  apply keeps_save.2
  constructor
  · exact rfl
  · intro answer _ _
    cases answer with
    | ok _ => exact ⟨trivial, fun _ _ _ => trivial⟩
    | error fault => trivial

theorem own_runWith (reuses : Bool) (plan : Plan η) (input : Input) :
    (runWith reuses plan input).run.Keeps (own wholeCalls input.session) (fun _ _ => True) () := by
  have bears : Bears (own wholeCalls input.session) input.session (fun _ => True) :=
    fun _ _ _ isOf _ => ⟨isOf, fun _ _ _ => trivial⟩
  have saves : ∀ turns, Clean (own wholeCalls input.session) (fun _ => True)
      (saveTurns input.session turns) := fun turns _ _ => own_saveTurns turns
  apply (final_runWith bears saves reuses plan rfl () trivial).mono
  intro _ _ _
  trivial

/-- Calls do not ask the store. -/
theorem own_unfold {H : Interface} {details : String → String} {tools : Toolset η} {chain : Chain η H}
    {program : ExchangeProgram wholeCalls α}
    (keeps : program.run.Keeps (own wholeCalls session) (fun _ _ => True) ()) :
    (unfold details tools chain program).run.Keeps (own (callInterface η H) session)
      (fun _ _ => True) () := by
  apply keeps_unfold keeps
  intro question _ isOf
  cases question with
  | call call =>
      apply (keeps_embedCall _ (fun _ => trivial) (fun _ _ _ _ => rfl)).mono
      intro _ _ _
      trivial
  | secure => exact ⟨isOf, fun _ _ _ => trivial⟩
  | load => exact ⟨isOf, fun _ _ _ => trivial⟩
  | save => exact ⟨isOf, fun _ _ _ => trivial⟩
  | loadNotes => exact ⟨isOf, fun _ _ _ => trivial⟩
  | report => exact ⟨isOf, fun _ _ _ => trivial⟩
  | isCancelled => exact ⟨isOf, fun _ _ _ => trivial⟩
  | today => exact ⟨isOf, fun _ _ _ => trivial⟩
  | complete => exact ⟨isOf, fun _ _ _ => trivial⟩

theorem own_delete (position : Nat) :
    (delete session position : ExchangeProgram C Transcript).run.Keeps (own C session)
      (fun _ _ => True) () := by
  rw [delete, keeps_run_bind]
  apply keeps_load.2
  constructor
  · exact rfl
  · intro stored _ _
    cases stored with
    | error fault => trivial
    | ok stored =>
        dsimp only
        split
        · trivial
        · rw [keeps_run_bind]
          apply (own_saveTurns _).mono
          intro saved _ _
          cases saved with
          | error fault => trivial
          | ok _ => exact ⟨trivial, fun _ _ _ => ⟨rfl, fun _ _ _ => trivial⟩⟩

end Own

end Exchange

end Parley
