/-
Module: Parley.Proofs.Exchange.Protocol
Layer: Proofs
Purpose: Exchanges and deletions keep the order of transcripts.  Whatever the model, the tool calls
  and the store answer, as long as what is loaded passes the check, all that is saved passes it and
  is numbered, and so does all that the model is shown.  The invariant of the loop is that the turns
  so far are well formed: a round adds an assistant turn together with an answer to each of its
  requests, whatever the requests are called.
Main exports: ExchangeQuestion.Proper, ExchangeQuestion.Trusted, Exchange.ordered,
  Exchange.ordered_runWith, Exchange.ordered_delete
-/
import Parley.Exchange.Deletion
import Parley.Proofs.Exchange.Questions
import Parley.Proofs.Transcript.Protocol

namespace Parley

open Program (keeps_run_bind)
open Transcript (WellFormed Answered Numbered)

variable {C H : Interface} {η : Type}

/-- What is saved or shown to the model keeps the order of turns, and what is saved is numbered. -/
def ExchangeQuestion.Proper : ExchangeQuestion C → Prop
  | .save _ turns => turns.check = .ok () ∧ Numbered turns
  | .complete request => request.transcript.check = .ok ()
  | _ => True

/-- What is loaded keeps the order of turns; all other answers are arbitrary. -/
def ExchangeQuestion.Trusted : (question : ExchangeQuestion C) → question.Answer → Prop
  | .load _, answer => ∀ turns : Transcript, answer = .ok turns → turns.check = .ok ()
  | _, _ => True

namespace Exchange

/-- Only proper questions, if what is loaded can be trusted. -/
def ordered (C : Interface) : Contract (exchangeInterface C) Unit where
  asks := fun _ question => question.Proper
  answers := fun question _ answer _ => question.Trusted answer

/-- The program asks only proper questions, and its result, if there is one, satisfies `holds`. -/
def Ordered {α : Type} (program : ExchangeProgram C α) (holds : α → Prop) : Prop :=
  program.run.Keeps (ordered C) (fun result _ => ∀ value, result = .ok value → holds value) ()

section Laws

variable {α β : Type} {holds : α → Prop}

theorem Ordered.pure {value : α} (isSo : holds value) :
    Ordered (pure value : ExchangeProgram C α) holds := by
  intro other same
  cases same
  exact isSo

theorem Ordered.throw (fault : Fault) : Ordered (throw fault : ExchangeProgram C α) holds := by
  intro value equal
  contradiction

/-- A fault ends a sequence, and nothing more is asked. -/
theorem Ordered.bind {program : ExchangeProgram C α} {next : α → ExchangeProgram C β}
    {post : β → Prop} (first : Ordered program holds)
    (rest : ∀ value, holds value → Ordered (next value) post) : Ordered (program >>= next) post := by
  rw [Ordered, keeps_run_bind]
  apply Program.Keeps.mono first
  intro result after ended
  cases result with
  | ok value => exact rest value (ended value rfl)
  | error fault => intro value equal; contradiction

end Laws

/-! ### Questions -/

/-- Nothing is required of an answer. -/
def anything {α : Type} : α → Prop := fun _ => True

theorem ordered_report (event : Event) : Ordered (report event : ExchangeProgram C Unit) anything :=
  keeps_report.2 ⟨trivial, fun _ _ _ _ _ => trivial⟩

theorem ordered_today : Ordered (today : ExchangeProgram C CivilDate) anything :=
  keeps_today.2 ⟨trivial, fun _ _ _ _ _ => trivial⟩

theorem ordered_checkCancelled : Ordered (checkCancelled : ExchangeProgram C Unit) anything :=
  keeps_checkCancelled.2 ⟨trivial, fun _ _ _ _ _ => trivial⟩

theorem ordered_secure (user : Option String) (session message : String) :
    Ordered (secure user session message : ExchangeProgram C Unit) anything :=
  keeps_secure.2 ⟨trivial, fun _ _ _ _ _ => trivial⟩

theorem ordered_loadNotes (session : String) :
    Ordered (loadNotes session : ExchangeProgram C (List String)) anything :=
  keeps_loadNotes.2 ⟨trivial, fun _ _ _ _ _ => trivial⟩

theorem ordered_runCall (call : Call) : Ordered (runCall call) anything :=
  keeps_runCall.2 ⟨trivial, fun _ _ _ _ _ => trivial⟩

theorem ordered_load (session : String) :
    Ordered (load session : ExchangeProgram C Transcript) WellFormed := by
  refine keeps_load.2 ⟨trivial, ?_⟩
  intro answer after trusted turns loaded
  exact Transcript.check_eq_ok_iff.1 (trusted turns loaded)

theorem ordered_save (session : String) {turns : Transcript} (wellFormed : WellFormed turns) :
    Ordered (save session turns.numbered : ExchangeProgram C Unit) anything := by
  refine keeps_save.2 ⟨⟨?_, Transcript.numbered_numbered turns⟩, fun _ _ _ _ _ => trivial⟩
  rw [Transcript.check_numbered]
  exact Transcript.check_eq_ok_iff.2 wellFormed

theorem ordered_saveTurns (session : String) {turns : Transcript} (wellFormed : WellFormed turns) :
    Ordered (saveTurns session turns : ExchangeProgram C Unit) anything := by
  apply (ordered_save session wellFormed).bind
  intro _ _
  exact ordered_report _

/-- The model may be shown turns that are well formed, and its turn is one of the assistant. -/
theorem ordered_complete {request : ModelRequest} (wellFormed : WellFormed request.transcript) :
    Ordered (complete request : ExchangeProgram C Turn) fun reply => reply.role = .assistant := by
  refine keeps_complete.2 ⟨Transcript.check_eq_ok_iff.2 wellFormed, ?_⟩
  intro answer after _ reply replied
  cases answer with
  | ok turn =>
      cases replied
      rfl
  | error fault => contradiction

/-! ### Rounds -/

/-- A resolved request has become a tool turn. -/
theorem ordered_resolve (desk : Desk η) (progress : Progress) (request : ToolRequest) :
    Ordered (resolve desk progress request) fun resolved => resolved.1.role = .tool := by
  apply ordered_checkCancelled.bind
  intro _ _
  split
  · apply (ordered_report _).bind
    intro _ _
    exact .pure rfl
  · apply (ordered_runCall _).bind
    intro outcome _
    split
    · exact .pure rfl
    · split
      · exact .pure rfl
      · exact .throw _

theorem ordered_resolveAll (desk : Desk η) (progress : Progress) (requests : List ToolRequest) :
    Ordered (resolveAll desk progress requests) fun resolved =>
      ∀ turn ∈ resolved.1, turn.role = .tool := by
  induction requests generalizing progress with
  | nil => exact .pure (by simp)
  | cons request requests ih =>
      apply (ordered_resolve desk progress request).bind
      intro first isTool
      apply (ih first.2).bind
      intro others areTools
      refine .pure ?_
      intro turn member
      rcases List.mem_cons.1 member with here | there
      · exact here ▸ isTool
      · exact areTools turn there

/-- A round adds a block to the transcript. -/
theorem ordered_runRound (frame : Frame η) (rounds : Nat) (progress : Progress) {reply : Turn}
    (asks : reply.asksForTools = true) :
    Ordered (runRound frame rounds progress reply) fun added => Transcript.Block added.1 := by
  apply (ordered_resolveAll frame.desk progress _).bind
  intro resolved areTools
  apply (ordered_report _).bind
  intro _ _
  refine .pure (.round (RequestIds.asksForTools_distinct asks rounds) ?_)
  exact Responses.answered_inOrder _ areTools

/-! ### The loop -/

section Loop

variable {frame : Frame η} {turns : Transcript}

theorem ordered_finish (wellFormed : WellFormed turns) (text : String) (rounds : Nat)
    (fallback : Bool) : Ordered (finish frame turns text rounds fallback) anything := by
  apply (ordered_saveTurns _ wellFormed).bind
  intro _ _
  exact .pure trivial

theorem ordered_inFormat (wellFormed : WellFormed turns) {reply : Turn}
    (speaks : reply.role = .assistant) (asks : reply.asksForTools = false) :
    Ordered (inFormat frame turns reply) fun final =>
      final.role = .assistant ∧ final.asksForTools = false := by
  rw [inFormat]
  split
  · exact .pure ⟨speaks, asks⟩
  · apply (ordered_report _).bind
    intro _ _
    apply ordered_checkCancelled.bind
    intro _ _
    apply (ordered_complete (wellFormed.spoken speaks asks)).bind
    intro retry retrySpeaks
    refine .pure ?_
    cases retryAsks : retry.asksForTools with
    | true => exact ⟨speaks, asks⟩
    | false => exact ⟨retrySpeaks, retryAsks⟩

theorem ordered_answer (wellFormed : WellFormed turns) (rounds : Nat) {reply : Turn}
    (speaks : reply.role = .assistant) (asks : reply.asksForTools = false) :
    Ordered (answer frame rounds turns reply) anything := by
  apply (ordered_inFormat wellFormed speaks asks).bind
  intro final isFinal
  exact ordered_finish (wellFormed.spoken isFinal.1 isFinal.2) _ _ _

/-- However many rounds there are, the turns before and after each of them are well formed. -/
theorem ordered_loop (wellFormed : WellFormed turns) (rounds : Nat) (progress : Progress)
    (left : Nat) : Ordered (loop frame rounds turns progress left) anything := by
  induction left generalizing rounds turns progress with
  | zero =>
      apply ordered_checkCancelled.bind
      intro _ _
      apply (ordered_complete wellFormed).bind
      intro reply speaks
      split
      · apply (ordered_report _).bind
        intro _ _
        exact .throw _
      · next asks => exact ordered_answer wellFormed rounds speaks (by simpa using asks)
  | succ left ih =>
      apply ordered_checkCancelled.bind
      intro _ _
      apply (ordered_complete wellFormed).bind
      intro reply speaks
      split
      · next asks =>
          apply (ordered_runRound frame (rounds + 1) progress asks).bind
          intro added isBlock
          have grown : WellFormed (turns ++ added.1) := wellFormed.concat isBlock.wellFormed
          dsimp only
          split
          · apply (ordered_report _).bind
            intro _ _
            exact ordered_finish (grown.spoken rfl rfl) _ _ _
          · exact ih grown _ _
      · next asks => exact ordered_answer wellFormed rounds speaks (by simpa using asks)

end Loop

/-! ### Openings -/

theorem ordered_runCalls (plan : OpeningPlan) (session : String) (earlier : List Json)
    (requests : List ToolRequest) :
    Ordered (Opening.runCalls plan session earlier requests) fun made =>
      Answered requests made.1 := by
  induction requests generalizing earlier with
  | nil => exact .pure .nil
  | cons request requests ih =>
      apply ordered_checkCancelled.bind
      intro _ _
      apply (ordered_runCall _).bind
      intro outcome _
      split
      · apply (ih _).bind
        intro made answered
        exact .pure (.cons rfl rfl answered)
      · split
        · exact .throw _
        · apply (ih _).bind
          intro made answered
          exact .pure (.cons rfl rfl answered)

/-- An opening is one block or nothing. -/
theorem ordered_opening (plan : OpeningPlan) (tools : Toolset η) (session : String) :
    Ordered (Opening.run plan tools session) WellFormed := by
  rw [Opening.run]
  dsimp only
  split
  · exact .pure .nil
  · next nonempty =>
      apply (ordered_runCalls plan session [] _).bind
      intro made answered
      apply (ordered_report _).bind
      intro _ _
      have asks : (Turn.asking "" (Opening.requests plan tools)).asksForTools = true :=
        Turn.asksForTools_iff.2 ⟨rfl, fun isEmpty => nonempty (List.isEmpty_iff.2 isEmpty)⟩
      exact .pure (Transcript.Block.round asks answered).wellFormed

theorem ordered_openSession (plan : Plan η) (tools : Toolset η) (session : String)
    {stored : Transcript} (wellFormed : WellFormed stored) :
    Ordered (openSession plan tools session stored) WellFormed := by
  rw [openSession]
  split
  · exact .pure wellFormed
  · split
    · apply (ordered_opening _ tools session).bind
      intro added addedWellFormed
      split
      · exact .pure wellFormed
      · apply (ordered_saveTurns session (wellFormed.concat addedWellFormed)).bind
        intro _ _
        exact .pure (wellFormed.concat addedWellFormed)
    · exact .pure wellFormed

/-! ### Whole operations -/

theorem ordered_runWith (reuses : Bool) (plan : Plan η) (input : Input) :
    Ordered (runWith reuses plan input) anything := by
  apply (ordered_secure _ _ _).bind
  intro _ _
  apply (ordered_load input.session).bind
  intro stored storedWellFormed
  apply (ordered_openSession plan _ input.session storedWellFormed).bind
  intro turns wellFormed
  apply (ordered_loadNotes input.session).bind
  intro notes _
  apply ordered_today.bind
  intro date _
  exact ordered_loop (wellFormed.single (by simp [Turn.plain]) rfl) _ _ _

theorem ordered_delete (session : String) (position : Nat) :
    Ordered (delete session position : ExchangeProgram C Transcript) anything := by
  apply (ordered_load session).bind
  intro turns wellFormed
  split
  · exact .throw _
  · next kept removed cut =>
      apply (ordered_saveTurns session (wellFormed.cutAt cut)).bind
      intro _ _
      apply (ordered_report _).bind
      intro _ _
      exact (ordered_load session).mono fun _ _ _ _ _ => trivial

/-- What is kept while the calls of an exchange are answered as a whole is kept by the exchange that
makes them. -/
theorem Ordered.unfold {α : Type} {program : ExchangeProgram wholeCalls α} {holds : α → Prop}
    (keeps : Ordered program holds) (tools : Toolset η) (chain : Chain η H) :
    Ordered (Exchange.unfold details tools chain program) holds := by
  apply keeps_unfold keeps
  intro question _ proper
  cases question with
  | secure user session message => exact ⟨trivial, fun _ _ _ => trivial⟩
  | load session => exact ⟨trivial, fun _ _ trusted => trusted⟩
  | save session turns => exact ⟨proper, fun _ _ _ => trivial⟩
  | loadNotes session => exact ⟨trivial, fun _ _ _ => trivial⟩
  | report event => exact ⟨trivial, fun _ _ _ => trivial⟩
  | isCancelled => exact ⟨trivial, fun _ _ _ => trivial⟩
  | today => exact ⟨trivial, fun _ _ _ => trivial⟩
  | complete request => exact ⟨proper, fun _ _ _ => trivial⟩
  | call call =>
      refine (keeps_embedCall (Call.run details tools chain call) ?_ ?_).mono fun _ _ _ => trivial
      · intro question
        trivial
      · intro question answer after _
        rfl

end Exchange

end Parley
