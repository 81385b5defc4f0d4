/-
Module: Parley.Proofs.Office.Moves
Layer: Proofs
Purpose: The office one deed at a time.  Operations start, are called in when they have the permit of
  their session, have one question answered, end or are abandoned, in any order and between one
  another; exchanges are cancelled, transcripts read and system messages replaced, and the clock
  moves.  Who answers the questions, and what the answers may be, is a parameter.
Main exports: Deed, Office.Answering, Office.MayAnswer, Office.Move, Office.Run, Office.Run.induct,
  Office.Effect, Office.callIn_eq, Office.Run.settings
-/
import Parley.Office
import Parley.Proofs.Session.Backend

namespace Parley

variable {η : Type} {H : Interface} {σ α : Type}

/-- What is done in an office. -/
inductive Deed (η : Type) (H : Interface) where
  | start (ticket : Nat) (operation : Operation)
  | callIn (ticket : Nat)
  | answer (ticket : Nat) (asked : Program.Asked (Exchange.unfolded η H))
  /-- A task is looked after, but its question has no answer yet. -/
  | rest (ticket : Nat)
  | conclude (ticket : Nat) (result : Except Fault Result)
  | abandon (ticket : Nat)
  | cancel (session : String)
  | read (session : String)
  | setNotes (session : String) (messages : List String)
  /-- The clock shows another time. -/
  | clock (now : Int)

/-- Whether a deed is neither to abandon nor to cancel an operation nor to set system messages. -/
def Deed.isOrdinary : Deed η H → Bool
  | .abandon _ => false
  | .cancel _ => false
  | .setNotes _ _ => false
  | _ => true

/-- Whether a question is one to the store. -/
def ExchangeQuestion.asksStore {C : Interface} : ExchangeQuestion C → Bool
  | .load _ => true
  | .save _ _ => true
  | .loadNotes _ => true
  | _ => false

/-- A task that runs under a token, with some work left. -/
def Task.at (task : Task η H) (token : Option Nat) (work : Work η H) : Task η H :=
  { task with stage := .running token work }

namespace Office

/-- How the questions of an operation that runs under a token may be answered, with the office after
each answer. -/
abbrev Answering (η : Type) (H : Interface) : Type :=
  Option Nat → (question : ExchangeQuestion (callInterface η H)) → Office η H → question.Answer →
    Office η H → Prop

/-- What the store may come to, if steps on a directory may fail. -/
def StoreMayAnswer : (question : ExchangeQuestion (callInterface η H)) → Office η H →
    question.Answer → Office η H → Prop
  | .load session, before, answer, after =>
      ∃ backend, Backend.MayLoad session before.now before.backend answer backend ∧
        after = { before with backend := backend }
  | .save session turns, before, answer, after =>
      ∃ backend,
        Backend.MaySave session turns before.ttl before.now before.backend answer backend ∧
        after = { before with backend := backend }
  | .loadNotes session, before, answer, after =>
      ∃ backend, Backend.MayLoadNotes session before.now before.backend answer backend ∧
        after = { before with backend := backend }
  | _, _, _, _ => False

/-- The office answers what it can; where the store may fail it may come to something else; and
those outside may answer anything. -/
def MayAnswer : Answering η H := fun token question before answer after =>
  StoreMayAnswer question before answer after ∨
    match inside? token question with
    | some act => (answer, after) = act before
    | none => after = before

/-- A deed takes an office to another. -/
inductive Move (answers : Answering η H) : Office η H → Deed η H → Office η H → Prop where
  | start (office : Office η H) (operation : Operation) :
      Move answers office (.start (office.start operation).1 operation) (office.start operation).2
  | callIn (office : Office η H) (ticket : Nat) :
      Move answers office (.callIn ticket) (office.callIn ticket)
  | answer {office after : Office η H} {ticket : Nat} {task : Task η H} {token : Option Nat}
      {question : ExchangeQuestion (callInterface η H)} {next : question.Answer → Work η H}
      {answer : question.Answer} :
      office.task? ticket = some task → task.stage = .running token (.ask question next) →
      answers token question office answer after →
      Move answers office (.answer ticket ⟨question, answer⟩)
        (after.putTask (task.at token (next answer)))
  | rest {office : Office η H} {ticket : Nat} {task : Task η H} :
      office.task? ticket = some task → Move answers office (.rest ticket) (office.putTask task)
  | conclude {office : Office η H} {ticket : Nat} {task : Task η H} {token : Option Nat}
      {result : Except Fault Result} :
      office.task? ticket = some task → task.stage = .running token (.done result) →
      Move answers office (.conclude ticket result) (office.conclude task token)
  | abandon (office : Office η H) (ticket : Nat) :
      Move answers office (.abandon ticket) (office.abandon ticket).2
  | cancel (office : Office η H) (session : String) :
      Move answers office (.cancel session) (office.cancel session).2
  | read (office : Office η H) (session : String) :
      Move answers office (.read session) (office.transcript session).2
  | setNotes (office : Office η H) (session : String) (messages : List String)
      (result : Except Fault Unit) (backend : Backend) :
      Backend.MaySaveNotes session messages office.ttl office.now office.backend result backend →
      Move answers office (.setNotes session messages) { office with backend := backend }
  | clock (office : Office η H) (now : Int) :
      Move answers office (.clock now) { office with now := now }

/-- A deed under some answers is one under all that allow them. -/
theorem Move.mono {answers wider : Answering η H} {before after : Office η H} {deed : Deed η H}
    (move : Move answers before deed after)
    (allows : ∀ token question before answer after,
      answers token question before answer after → wider token question before answer after) :
    Move wider before deed after := by
  cases move with
  | start operation => exact .start before operation
  | callIn ticket => exact .callIn before ticket
  | answer found stage given => exact .answer found stage (allows _ _ _ _ _ given)
  | rest found => exact .rest found
  | conclude found stage => exact .conclude found stage
  | abandon ticket => exact .abandon before ticket
  | cancel session => exact .cancel before session
  | read session => exact .read before session
  | setNotes session messages result backend may =>
      exact .setNotes before session messages result backend may
  | clock now => exact .clock before now

/-- Deeds one after another. -/
inductive Run (answers : Answering η H) (office : Office η H) :
    List (Deed η H) → Office η H → Prop where
  | nil : Run answers office [] office
  | snoc {deeds : List (Deed η H)} {deed : Deed η H} {before after : Office η H} :
      Run answers office deeds before → Move answers before deed after →
      Run answers office (deeds ++ [deed]) after

section Run

variable {answers : Answering η H} {office middle after : Office η H}
  {deeds more : List (Deed η H)}

theorem Run.trans (first : Run answers office deeds middle)
    (second : Run answers middle more after) : Run answers office (deeds ++ more) after := by
  induction second with
  | nil => rwa [List.append_nil]
  | snoc _ move ih =>
      rw [← List.append_assoc]
      exact ih.snoc move

theorem Run.single {deed : Deed η H} (move : Move answers office deed after) :
    Run answers office [deed] after :=
  Run.nil.snoc move

/-- What every deed keeps holds after all of them. -/
theorem Run.induct {holds : Office η H → Prop} (initial : holds office)
    (step : ∀ before deed after, Move answers before deed after → holds before → holds after)
    (run : Run answers office deeds after) : holds after := by
  induction run with
  | nil => exact initial
  | snoc _ move ih => exact step _ _ _ move ih

end Run

/-- An interface without questions. -/
def noQuestions : Interface := ⟨Empty, fun question => nomatch question⟩

/-! ### What an answer does -/

/-- All that an answer can do to an office: a question to the store may change what is stored, any
other changes at most the reports and the windows of the rate limits. -/
inductive Effect (before : Office η H) :
    (question : ExchangeQuestion (callInterface η H)) → question.Answer → Office η H → Prop where
  | load {session : String} {answer : Except Fault Transcript} {backend : Backend} :
      Backend.MayLoad session before.now before.backend answer backend →
      Effect before (.load session) answer { before with backend := backend }
  | save {session : String} {turns : Transcript} {answer : Except Fault Unit}
      {backend : Backend} :
      Backend.MaySave session turns before.ttl before.now before.backend answer backend →
      Effect before (.save session turns) answer { before with backend := backend }
  | loadNotes {session : String} {answer : Except Fault (List String)} {backend : Backend} :
      Backend.MayLoadNotes session before.now before.backend answer backend →
      Effect before (.loadNotes session) answer { before with backend := backend }
  | other {question : ExchangeQuestion (callInterface η H)} {answer : question.Answer}
      (reports : List Event) (windows : List (RateLimit × RateWindow)) :
      question.asksStore = false →
      Effect before question answer { before with reports := reports, windows := windows }

theorem effect_of_store {question : ExchangeQuestion (callInterface η H)} {answer : question.Answer}
    {before after : Office η H} (answered : StoreMayAnswer question before answer after) :
    Effect before question answer after := by
  cases question with
  | load session =>
      obtain ⟨backend, may, rfl⟩ := answered
      exact .load may
  | save session turns =>
      obtain ⟨backend, may, rfl⟩ := answered
      exact .save may
  | loadNotes session =>
      obtain ⟨backend, may, rfl⟩ := answered
      exact .loadNotes may
  | secure => contradiction
  | report => contradiction
  | isCancelled => contradiction
  | today => contradiction
  | complete => contradiction
  | call => contradiction

theorem effect_of_mayAnswer {token : Option Nat}
    {question : ExchangeQuestion (callInterface η H)} {answer : question.Answer}
    {before after : Office η H} (answered : MayAnswer token question before answer after) :
    Effect before question answer after := by
  rcases answered with may | exact
  · exact effect_of_store may
  · cases question with
    | load session =>
        cases exact
        exact .load (Backend.mayLoad_load before.backend)
    | save session turns =>
        cases exact
        exact .save (Backend.maySave_save before.backend)
    | loadNotes session =>
        cases exact
        exact .loadNotes (Backend.mayLoadNotes_loadNotes before.backend)
    | secure => cases exact; exact .other before.reports before.windows rfl
    | report event => cases exact; exact .other (event :: before.reports) before.windows rfl
    | isCancelled => cases exact; exact .other before.reports before.windows rfl
    | today => cases exact; exact .other before.reports before.windows rfl
    | complete => cases exact; exact .other before.reports before.windows rfl
    | call question =>
        cases question with
        | handle => cases exact; exact .other before.reports before.windows rfl
        | grant limit session => cases exact; exact .other before.reports _ rfl
        | clock => cases exact; exact .other before.reports before.windows rfl
        | host => cases exact; exact .other before.reports before.windows rfl

/-- All but what is stored, the reports and the windows is the same. -/
structure SameFrame (before after : Office η H) : Prop where
  plan : after.plan = before.plan
  chain : after.chain = before.chain
  ttl : after.ttl = before.ttl
  locks : after.locks = before.locks
  cancels : after.cancels = before.cancels
  now : after.now = before.now
  tasks : after.tasks = before.tasks

theorem Effect.frame {question : ExchangeQuestion (callInterface η H)} {answer : question.Answer}
    {before after : Office η H} (effect : Effect before question answer after) :
    SameFrame before after := by
  cases effect <;> exact ⟨rfl, rfl, rfl, rfl, rfl, rfl, rfl⟩

/-! ### Tasks on the list -/

section Tasks

variable (office : Office η H) (task : Task η H)

@[simp] theorem task?_putTask : (office.putTask task).task? task.ticket = some task := by
  simp [task?, putTask]

theorem mem_of_task? {ticket : Nat} (found : office.task? ticket = some task) :
    task ∈ office.tasks ∧ task.ticket = ticket :=
  ⟨List.mem_of_find?_eq_some found, by simpa using List.find?_some found⟩

theorem mem_dropTask_iff {ticket : Nat} {other : Task η H} :
    other ∈ (office.dropTask ticket).tasks ↔ other ∈ office.tasks ∧ other.ticket ≠ ticket := by
  simp [dropTask]

theorem mem_putTask_iff {other : Task η H} :
    other ∈ (office.putTask task).tasks ↔
      other = task ∨ other ∈ office.tasks ∧ other.ticket ≠ task.ticket :=
  List.mem_cons.trans (or_congr_right (mem_dropTask_iff office))

theorem mem_dropTask {ticket : Nat} {other : Task η H}
    (member : other ∈ (office.dropTask ticket).tasks) : other ∈ office.tasks :=
  ((mem_dropTask_iff office).1 member).1

theorem mem_putTask {other : Task η H} (member : other ∈ (office.putTask task).tasks) :
    other = task ∨ other ∈ office.tasks :=
  ((mem_putTask_iff office task).1 member).imp_right And.left

theorem dropTask_putTask : (office.putTask task).dropTask task.ticket =
    office.dropTask task.ticket := by
  simp [dropTask, putTask, List.filter_filter]

theorem putTask_putTask (token : Option Nat) (work : Work η H) :
    (office.putTask task).putTask (task.at token work) = office.putTask (task.at token work) :=
  congrArg (fun rest : Office η H => { office with tasks := task.at token work :: rest.tasks })
    (dropTask_putTask office task)

theorem conclude_putTask (token : Option Nat) (work : Work η H) :
    (office.putTask (task.at token work)).conclude (task.at token work) token =
      office.conclude task token :=
  dropTask_putTask (office.finish task.ticket task.operation.session token) (task.at token work)

/-- The token under which an operation begins, and the tokens then. -/
def tokenFor (cancels : CancelTable) : Operation → Option Nat × CancelTable
  | .exchange input =>
      let (token, after) := cancels.register input.session
      (some token, after)
  | .deletion _ _ => (none, cancels)

/-- An operation that begins has all its work before it. -/
theorem begin_eq (operation : Operation) :
    office.begin operation =
      (.running (tokenFor office.cancels operation).1 (work office.plan office.chain operation),
        { office with cancels := (tokenFor office.cancels operation).2 }) := by
  cases operation <;> rfl

/-- Calling a task in looks at its permit, and lets it begin if it is held. -/
theorem callIn_eq (ticket : Nat) :
    office.callIn ticket = office ∨
      ∃ task, office.task? ticket = some task ∧ task.stage = .waiting ∧
        (office.callIn ticket = { office with locks := (office.locks.poll ticket).2 } ∨
          (office.locks.poll ticket).1 = true ∧
            office.callIn ticket =
              { office with
                locks := (office.locks.poll ticket).2
                cancels := (tokenFor office.cancels task.operation).2 }.putTask
                (task.at (tokenFor office.cancels task.operation).1
                  (work office.plan office.chain task.operation))) := by
  rw [callIn]
  split
  · exact .inl rfl
  · next task found =>
      split
      · exact .inl rfl
      · next waits =>
          refine .inr ⟨task, found, waits, ?_⟩
          simp only [begin_eq]
          split
          · next held => exact .inr ⟨held, rfl⟩
          · exact .inl rfl

end Tasks

/-! ### What never changes -/

/-- Calling a task in changes neither what is stored nor the plan, and trips no token. -/
theorem callIn_frame (office : Office η H) (ticket : Nat) :
    (office.callIn ticket).backend = office.backend ∧ (office.callIn ticket).ttl = office.ttl ∧
      (office.callIn ticket).plan = office.plan ∧ (office.callIn ticket).chain = office.chain ∧
      (office.callIn ticket).cancels.tripped = office.cancels.tripped := by
  rcases callIn_eq office ticket with same | ⟨task, -, -, looked | ⟨-, begun⟩⟩
  · rw [same]
    exact ⟨rfl, rfl, rfl, rfl, rfl⟩
  · rw [looked]
    exact ⟨rfl, rfl, rfl, rfl, rfl⟩
  · rw [begun]
    refine ⟨rfl, rfl, rfl, rfl, ?_⟩
    cases task.operation <;> rfl

/-- Nothing that is done changes the plan, the layers or the time to live. -/
theorem Move.settings {before after : Office η H} {deed : Deed η H}
    (move : Move MayAnswer before deed after) :
    after.plan = before.plan ∧ after.chain = before.chain ∧ after.ttl = before.ttl := by
  cases move with
  | callIn ticket =>
      obtain ⟨-, ttlSame, planSame, chainSame, -⟩ := callIn_frame before ticket
      exact ⟨planSame, chainSame, ttlSame⟩
  | answer found stage given =>
      have frame := (effect_of_mayAnswer given).frame
      exact ⟨frame.plan, frame.chain, frame.ttl⟩
  | abandon ticket =>
      rw [Office.abandon]
      split
      · exact ⟨rfl, rfl, rfl⟩
      · dsimp only
        split <;> exact ⟨rfl, rfl, rfl⟩
  | _ => exact ⟨rfl, rfl, rfl⟩

theorem Run.settings {office after : Office η H} {deeds : List (Deed η H)}
    (run : Run MayAnswer office deeds after) :
    after.plan = office.plan ∧ after.chain = office.chain ∧ after.ttl = office.ttl := by
  apply run.induct ⟨rfl, rfl, rfl⟩
  rintro before deed next move ⟨planSame, chainSame, ttlSame⟩
  obtain ⟨planNext, chainNext, ttlNext⟩ := move.settings
  exact ⟨planNext.trans planSame, chainNext.trans chainSame, ttlNext.trans ttlSame⟩

end Office

end Parley
