/-
Module: Parley.Proofs.Office.Answered
Layer: Proofs
Purpose: What an exchange of an office stores that ends with a reply, whatever the model, the handlers
  and the layers do: the transcript that was stored, with all that the exchange added in its place at
  the end, and nothing else.
Main exports: Office.answered_exchange
-/
import Parley.Proofs.Exchange.Committed
import Parley.Proofs.Office.Failure

namespace Parley.Office

open Exchange (Track Commits answers commits_of_runs storeChanges_of_changes)
open Program (Leads Runs runs_bind_done_iff)

variable {η : Type} {H : Interface}

theorem runs_work {plan : Exchange.Plan η} {chain : Chain η H} {input : Input} {reply : Reply}
    {log : List (Program.Asked (Exchange.unfolded η H))}
    (runs : Runs (work plan chain (.exchange input)) log (.ok (.reply reply))) :
    Runs (exchange plan chain input).run log (.ok reply) := by
  obtain ⟨result, runsExchange, same⟩ := runs_bind_done_iff.1 runs
  cases result with
  | ok given =>
      cases same
      exact runsExchange
  | error fault => contradiction

/-- Let an exchange run on what is stored, where nothing expires, answered in any way and with any
steps on a directory failing, until it ends with a reply.  Then what is stored for its session is the
transcript from before, the turns of an opening if one was run, the message of the user, so many tool
rounds as the reply tells, and one answer with the text of the reply, numbered from one; and the
reply tells the number of turns. -/
theorem answered_exchange {ttl : Option Duration} {backend : Backend} {plan : Exchange.Plan η}
    {chain : Chain η H} {input : Input} {reply : Reply} {track : Track η H}
    (lasting : backend.WithoutExpiry ttl)
    (leads : Leads (answers ttl) (work plan chain (.exchange input)) ⟨backend, []⟩
      (.done (.ok (.reply reply))) track) :
    ∃ opening rounds final,
      Commits plan chain input (backend.stored input.session) reply track.log track.backend opening
        rounds final := by
  obtain ⟨log, runs, changes⟩ := leads.runs
  obtain ⟨isLog, storeChanges⟩ := storeChanges_of_changes changes
  rw [List.nil_append] at isLog
  rw [isLog]
  exact commits_of_runs lasting (runs_work runs) storeChanges

/-! ### An exchange with one round -/

/-- Every message may pass, and the lamp works.  The model asks for the lamp when the user has
spoken, and then answers. -/
def cheerful : Surroundings Unit noQuestions Unit where
  secure := fun _ _ _ _ => pure (some (.ok ()))
  complete := fun _ request =>
    match request.transcript.getLast? with
    | some turn =>
        if turn.role = .user then
          pure (some (.ok (Turn.asking "" [{ id := "", tool := "lamp", arguments := "\x7b\x7d" }])))
        else pure (some (.ok (Turn.plain .assistant "there is light")))
    | none => pure none
  handle := fun _ _ _ => pure (some (.ok (.str "on")))
  host := fun _ question => nomatch question

/-- What is left of the exchange there, and the office then. -/
def lightened : Work Unit noQuestions × Office Unit noQuestions × Unit :=
  leftOver cheerful { ticket := 0, operation := .exchange entering, stage := .waiting } (some 0)
    (work lampPlan [] (.exchange entering)) (.new lampPlan [] none (.memory .empty) 0) ()

/-- The reply with which some work has ended. -/
def reply? : Work η H → Option Reply
  | .done (.ok (.reply reply)) => some reply
  | _ => none

theorem eq_of_reply? {work : Work η H} {reply : Reply} (replied : reply? work = some reply) :
    work = .done (.ok (.reply reply)) := by
  cases work with
  | ask question next => contradiction
  | done result =>
      cases result with
      | error fault => contradiction
      | ok result =>
          cases result with
          | turns turns => contradiction
          | reply given =>
              cases replied
              rfl

theorem answered_exchange_lightened :
    ∃ reply, reply? lightened.1 = some reply ∧ reply.rounds = 1 ∧ reply.length = 6 ∧
      ∃ track : Track Unit noQuestions, track.backend = lightened.2.1.backend ∧
        ∃ opening rounds final,
          Commits lampPlan [] entering [] reply track.log track.backend opening rounds final := by
  have told : (reply? lightened.1).map (fun reply => (reply.rounds, reply.length)) = some (1, 6) := by
    decide +kernel
  obtain ⟨reply, replied, same⟩ := Option.map_eq_some_iff.1 told
  obtain ⟨one, six⟩ := Prod.mk.inj same
  refine ⟨reply, replied, one, six, ?_⟩
  have lasting : (Backend.memory .empty).WithoutExpiry none :=
    ⟨rfl, fun _ member => (List.not_mem_nil member).elim, fun _ member =>
      (List.not_mem_nil member).elim⟩
  obtain ⟨log, leads⟩ := leftOver_leads cheerful
    { ticket := 0, operation := .exchange entering, stage := .waiting } (some 0)
    (work lampPlan [] (.exchange entering)) (.new lampPlan [] none (.memory .empty) 0) () []
  have leads : Leads (answers none) (work lampPlan [] (.exchange entering))
      ⟨.memory .empty, []⟩ (.done (.ok (.reply reply))) ⟨lightened.2.1.backend, log⟩ :=
    eq_of_reply? replied ▸ leads
  exact ⟨_, rfl, answered_exchange lasting leads⟩

end Parley.Office
