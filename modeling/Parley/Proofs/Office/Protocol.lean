/-
Module: Parley.Proofs.Office.Protocol
Layer: Proofs
Purpose: Whatever is done in an office, in whatever order, all that is saved and all that the model is
  shown keeps the order of turns.  The invariant says that all stored transcripts pass the check and
  that every running task still keeps its part of the contract; each deed keeps both.
Main exports: Office.InOrder, Office.InOrder.move, Office.run_proper
-/
import Parley.Proofs.Exchange.Protocol
import Parley.Proofs.Office.Polls

namespace Parley.Office

open Exchange (ordered Ordered)
open Program (keeps_bind)

variable {η : Type} {H : Interface} {office before after : Office η H} {task : Task η H}

/-- The transcript passes the check. -/
def Checked (turns : Transcript) : Prop := turns.check = .ok ()

/-- Some work asks only proper questions, if what is loaded can be trusted. -/
def Careful (work : Work η H) : Prop :=
  work.Keeps (ordered (callInterface η H)) (fun _ _ => True) ()

/-- All stored transcripts are in order, and no running task will ask to save or show one that is
not. -/
structure InOrder (office : Office η H) : Prop where
  stored : office.backend.AllStored Checked
  working : ∀ task ∈ office.tasks, ∀ token work, task.stage = .running token work → Careful work

theorem careful_work (plan : Exchange.Plan η) (chain : Chain η H) (operation : Operation) :
    Careful (work plan chain operation) := by
  cases operation with
  | exchange input =>
      apply keeps_bind.2
      apply ((Exchange.ordered_runWith true plan input).unfold _ chain).mono
      intro _ _ _
      trivial
  | deletion session position =>
      apply keeps_bind.2
      apply (Exchange.ordered_delete session position).mono
      intro _ _ _
      trivial

/-! ### Deeds -/

/-- Answers can be trusted, and what is stored stays in order. -/
theorem Effect.inOrder {question : ExchangeQuestion (callInterface η H)} {answer : question.Answer}
    (effect : Effect before question answer after) (stored : before.backend.AllStored Checked)
    (proper : question.Proper) :
    after.backend.AllStored Checked ∧ question.Trusted answer := by
  cases effect with
  | load may => exact stored.mayLoad rfl may
  | save may => exact ⟨stored.maySave rfl proper.1 may, trivial⟩
  | loadNotes may => exact ⟨stored.mayLoadNotes may, trivial⟩
  | other reports windows notStore =>
      refine ⟨stored, ?_⟩
      cases question with
      | load => contradiction
      | _ => trivial

theorem InOrder.putTask (inOrder : InOrder office) {token : Option Nat} {work : Work η H}
    (careful : Careful work) : InOrder (office.putTask (task.at token work)) where
  stored := inOrder.stored
  working := by
    intro other member otherToken otherWork stage
    rcases mem_putTask _ _ member with here | there
    · subst here
      cases stage
      exact careful
    · exact inOrder.working other there otherToken otherWork stage

theorem InOrder.dropTask (inOrder : InOrder office) (ticket : Nat) :
    InOrder (office.dropTask ticket) where
  stored := inOrder.stored
  working := fun task member => inOrder.working task (mem_dropTask office member)

/-- Deeds that leave the store and the tasks alone. -/
theorem InOrder.congr (inOrder : InOrder before) (backendEq : after.backend = before.backend)
    (tasksEq : after.tasks = before.tasks) : InOrder after where
  stored := backendEq ▸ inOrder.stored
  working := tasksEq ▸ inOrder.working

theorem InOrder.callIn (inOrder : InOrder office) (ticket : Nat) :
    InOrder (office.callIn ticket) := by
  rcases callIn_eq office ticket with same | ⟨task, -, -, looked | ⟨-, begun⟩⟩
  · rwa [same]
  · rw [looked]
    exact inOrder.congr rfl rfl
  · rw [begun]
    have kept : InOrder { office with
        locks := (office.locks.poll ticket).2
        cancels := (tokenFor office.cancels task.operation).2 } := inOrder.congr rfl rfl
    exact kept.putTask (careful_work office.plan office.chain task.operation)

theorem InOrder.finish (inOrder : InOrder office) (ticket : Nat) (session : String)
    (token : Option Nat) : InOrder (office.finish ticket session token) :=
  inOrder.congr rfl rfl

theorem InOrder.abandon (inOrder : InOrder office) (ticket : Nat) :
    InOrder (office.abandon ticket).2 := by
  rw [Office.abandon]
  split
  · exact inOrder
  · simp only
    split
    · exact (inOrder.dropTask ticket).congr rfl rfl
    · exact (inOrder.dropTask ticket).finish _ _ _

/-- Every deed keeps all in order. -/
theorem InOrder.move {deed : Deed η H} (inOrder : InOrder before)
    (move : Move MayAnswer before deed after) : InOrder after := by
  cases move with
  | start operation =>
      refine ⟨inOrder.stored, ?_⟩
      intro task member token work stage
      rcases mem_putTask _ _ member with here | there
      · subst here
        contradiction
      · exact inOrder.working task there token work stage
  | callIn ticket => exact inOrder.callIn ticket
  | @answer answered ticket task token question next answer found stage given =>
      have effect := effect_of_mayAnswer given
      obtain ⟨member, -⟩ := mem_of_task? _ _ found
      obtain ⟨proper, goesOn⟩ := inOrder.working task member token _ stage
      obtain ⟨stored, trusted⟩ := effect.inOrder inOrder.stored proper
      have kept : InOrder answered := ⟨stored, effect.frame.tasks ▸ inOrder.working⟩
      exact kept.putTask (goesOn answer () trusted)
  | @rest ticket task found =>
      obtain ⟨member, -⟩ := mem_of_task? _ _ found
      refine ⟨inOrder.stored, ?_⟩
      intro other otherMember
      rcases mem_putTask _ _ otherMember with here | there
      · exact here ▸ inOrder.working task member
      · exact inOrder.working other there
  | conclude found stage => exact (inOrder.finish _ _ _).dropTask _
  | abandon ticket => exact inOrder.abandon ticket
  | cancel session => exact inOrder.congr rfl rfl
  | read session =>
      have may : Backend.MayLoad session before.now _ _ _ := Backend.mayLoad_load before.backend
      exact ⟨(inOrder.stored.mayLoad rfl may).1, inOrder.working⟩
  | setNotes session messages result backend may =>
      exact ⟨inOrder.stored.maySaveNotes may, inOrder.working⟩
  | clock now => exact inOrder.congr rfl rfl

theorem InOrder.run {deeds : List (Deed η H)} (inOrder : InOrder before)
    (run : Run MayAnswer before deeds after) : InOrder after :=
  run.induct inOrder fun _ _ _ move inOrder => inOrder.move move

/-- Start from stored transcripts that pass the check, and do in an office whatever can be done: any
number of exchanges and deletions on any sessions, one between another, answered in any way, ended
in any way or abandoned.  Whatever a task is about to save passes the check and is numbered, and
whatever it is about to show the model passes the check. -/
theorem run_proper {plan : Exchange.Plan η} {chain : Chain η H} {ttl : Option Duration}
    {backend : Backend} {now : Int} {deeds : List (Deed η H)} {token : Option Nat}
    {question : ExchangeQuestion (callInterface η H)} {next : question.Answer → Work η H}
    (stored : ∀ session now turns, (backend.load session now).1 = .ok turns →
      turns.check = .ok ())
    (run : Run MayAnswer (Office.new plan chain ttl backend now) deeds office)
    (member : task ∈ office.tasks) (stage : task.stage = .running token (.ask question next)) :
    (∀ session turns, question = .save session turns →
      turns.check = .ok () ∧
        ∀ (index : Nat) (bound : index < turns.length),
          turns[index].id = UInt64.ofNat (index + 1)) ∧
    (∀ request, question = .complete request → request.transcript.check = .ok ()) := by
  have initial : InOrder (Office.new plan chain ttl backend now) :=
    ⟨stored, fun task member => absurd member List.not_mem_nil⟩
  obtain ⟨proper, -⟩ := (initial.run run).working task member token _ stage
  constructor
  · rintro session turns rfl
    exact proper
  · rintro request rfl
    exact proper

/-! ### A run in the middle of which the model is shown a tool round -/

/-- Every message may pass; the model first requests a tool that does not exist, under a blank id,
and then does not answer. -/
def hesitant : Surroundings Unit noQuestions Bool where
  secure := fun _ _ _ _ => pure (some (.ok ()))
  complete := fun _ _ hasAsked =>
    if hasAsked then pure (none, true)
    else
      let reply := Turn.asking "" [{ id := "", tool := "lamp", arguments := "" }]
      pure (some (.ok reply), true)
  handle := fun _ _ _ => pure none
  host := fun _ question => nomatch question

/-- An office without intents and with nothing stored. -/
def bare : Office Unit noQuestions :=
  Office.new { catalog := [], settings := .standard, opening := none, syntaxDetails := id } [] none
    (.memory .empty) 0

def greeting : Operation :=
  .exchange { session := "hall", user := none, message := "hello", subset := none }

/-- An exchange was started there and has got as far as it gets. -/
def hesitating : Office Unit noQuestions :=
  (poll hesitant 0 ((bare.start greeting).2, false)).2.1

/-- What a task is about to show the model. -/
def shown? (task : Task η H) : Option ModelRequest :=
  match task.stage with
  | .running _ (.ask (.complete request) _) => some request
  | _ => none

theorem run_proper_hesitating :
    (hesitating.tasks.filterMap shown?).map (·.transcript.length) = [3] ∧
      ∀ request ∈ hesitating.tasks.filterMap shown?, request.transcript.check = .ok () := by
  refine ⟨by decide +kernel, ?_⟩
  intro request member
  obtain ⟨task, taskMember, shows⟩ := List.mem_filterMap.1 member
  have started : Run MayAnswer bare _ _ := Run.single (.start bare greeting)
  obtain ⟨deeds, -, polled⟩ :=
    poll_reaches (admits_mayAnswer hesitant) 0 (bare.start greeting).2 false
  rw [shown?] at shows
  split at shows
  · next token request next stage =>
      cases shows
      refine (run_proper ?_ (started.trans polled) taskMember stage).2 _ rfl
      intro session now turns loaded
      cases loaded
      rfl
  · contradiction

end Parley.Office
