/-
Module: Parley.Proofs.Office.Alone
Layer: Proofs
Purpose: Operations on their own, one after another, on a store that keeps everything, where those
  outside answer by functions of what they are asked.  What an operation reads of the clock and of
  the windows of rate limits is given in advance.  An office answers a question of a session just so,
  if its store holds the same for that session, whatever it holds for others.
Main exports: Oracle, Reading, Oracle.answering, Oracle.Follows.admits, Oracle.alone,
  Oracle.perform, Oracle.serially, Oracle.alone_of_answering
-/
import Parley.Proofs.Exchange.Parts
import Parley.Proofs.Office.Polls
import Parley.Proofs.Session.Kept

namespace Parley

open Backend (Alike Permanent)

variable {η : Type} {H : Interface} {σ : Type}

/-- Answers of those outside that are functions of the questions. -/
structure Oracle (η : Type) (H : Interface) where
  secure : Option String → String → String → Except Fault Unit
  complete : ModelRequest → Except Fault Turn
  handle : Intent η → Context → Except String Json
  host : (question : H.Question) → H.Answer question

/-- What an operation reads of the clock and of the windows of rate limits. -/
inductive Reading where
  | date (date : CivilDate)
  | time (now : Int)
  | granted (granted : Bool)

/-- What is read by a question and its answer. -/
def ExchangeQuestion.reading? :
    (question : ExchangeQuestion (callInterface η H)) → question.Answer → Option Reading
  | .today, date => some (.date date)
  | .call .clock, now => some (.time now)
  | .call (.grant _ _), granted => some (.granted granted)
  | _, _ => none

namespace Oracle

/-- The answer to a question for those outside. -/
def answer? (oracle : Oracle η H) :
    (question : ExchangeQuestion (callInterface η H)) → Option question.Answer
  | .secure user session message => some (oracle.secure user session message)
  | .complete request => some (oracle.complete request)
  | .call (.handle intent context) => some (oracle.handle intent context)
  | .call (.host question) => some (oracle.host question)
  | _ => none

/-- The office answers what it can, and the oracle answers for those outside. -/
def answering (oracle : Oracle η H) : Office.Answering η H :=
  fun token question before answer after =>
  match Office.inside? token question with
  | some act => (answer, after) = act before
  | none => oracle.answer? question = some answer ∧ after = before

theorem mayAnswer_of_answering {oracle : Oracle η H} {token : Option Nat}
    {question : ExchangeQuestion (callInterface η H)} {before after : Office η H}
    {answer : question.Answer} (answered : oracle.answering token question before answer after) :
    Office.MayAnswer token question before answer after := by
  right
  rw [answering] at answered
  cases isInside : Office.inside? token question with
  | some act => rwa [isInside] at answered
  | none =>
      rw [isInside] at answered
      exact answered.2

/-- Surroundings that give the answers of the oracle, now or later. -/
def Follows (oracle : Oracle η H) (surroundings : Surroundings η H σ) : Prop :=
  ∀ ticket question state, ∃ answer? after,
    (Office.outside surroundings ticket question).run state = .done (answer?, after) ∧
      (answer? = none ∨ answer? = oracle.answer? question)

/-- Polling with such surroundings is a sequence of ordinary deeds. -/
theorem Follows.admits {oracle : Oracle η H} {surroundings : Surroundings η H σ}
    (follows : oracle.Follows surroundings) :
    Office.Admits oracle.answering (fun deed => deed.isOrdinary = true) surroundings where
  polling := by
    intro deed isPolling
    cases deed with
    | callIn => rfl
    | answer => rfl
    | rest => rfl
    | conclude => rfl
    | _ => contradiction
  inside := by
    intro token question act office isInside
    rw [answering, isInside]
    rfl
  asks := by
    intro ticket question office state task
    obtain ⟨answer?, after, runs, -⟩ := follows ticket question state
    simp only [Office.consult, runs]
    exact .refl _
  outside := by
    intro ticket token question office state given after isOutside gave
    obtain ⟨answer?, later, runs, noneYet | answered⟩ := follows ticket question state
    · simp only [Office.consult, runs, noneYet] at gave
      contradiction
    · simp only [Office.consult, runs, answered] at gave
      rw [answering, isOutside]
      exact ⟨gave, rfl⟩

/-- Surroundings that answer at once. -/
def surroundings (oracle : Oracle η H) : Surroundings η H Unit where
  secure := fun _ user session message => pure (some (oracle.secure user session message))
  complete := fun _ request => pure (some (oracle.complete request))
  handle := fun _ intent context => pure (some (oracle.handle intent context))
  host := fun _ question => pure (some (oracle.host question))

theorem follows_surroundings (oracle : Oracle η H) : oracle.Follows oracle.surroundings := by
  intro ticket question state
  cases question with
  | secure => exact ⟨_, _, rfl, .inr rfl⟩
  | complete => exact ⟨_, _, rfl, .inr rfl⟩
  | call question =>
      cases question with
      | handle => exact ⟨_, _, rfl, .inr rfl⟩
      | host => exact ⟨_, _, rfl, .inr rfl⟩
      | _ => exact ⟨_, _, rfl, .inl rfl⟩
  | _ => exact ⟨_, _, rfl, .inl rfl⟩

/-! ### One operation -/

/-- The answers where nobody else is: no exchange is cancelled, and as nothing that is stored ends,
the store need not know the time. -/
def alone (oracle : Oracle η H) : (question : ExchangeQuestion (callInterface η H)) →
    StateM (Backend × List Reading) question.Answer
  | .secure user session message => pure (oracle.secure user session message)
  | .load session => fun (backend, readings) =>
      let (turns, backend) := backend.load session 0
      (turns, backend, readings)
  | .save session turns => fun (backend, readings) =>
      let (saved, backend) := backend.save session turns none 0
      (saved, backend, readings)
  | .loadNotes session => fun (backend, readings) =>
      let (messages, backend) := backend.loadNotes session 0
      (messages, backend, readings)
  | .report _ => pure ()
  | .isCancelled => pure false
  | .today => fun (backend, readings) =>
      match readings with
      | .date date :: rest => (date, backend, rest)
      | _ => (CivilDate.ofEpochSeconds 0, backend, readings)
  | .complete request => pure (oracle.complete request)
  | .call (.handle intent context) => pure (oracle.handle intent context)
  | .call (.grant _ _) => fun (backend, readings) =>
      match readings with
      | .granted granted :: rest => (granted, backend, rest)
      | _ => (false, backend, readings)
  | .call .clock => fun (backend, readings) =>
      match readings with
      | .time now :: rest => (now, backend, rest)
      | _ => ((0 : Int), backend, readings)
  | .call (.host question) => pure (oracle.host question)

/-- Go on with some work to its end. -/
def finish (oracle : Oracle η H) (work : Work η H) (backend : Backend)
    (readings : List Reading) : Except Fault Result × Backend :=
  let ended := Program.run (I := Exchange.unfolded η H) oracle.alone work (backend, readings)
  (ended.1, ended.2.1)

theorem finish_ask {oracle : Oracle η H} {question : ExchangeQuestion (callInterface η H)}
    {next : question.Answer → Work η H} {answer : question.Answer} {backend after : Backend}
    {readings rest : List Reading}
    (given : oracle.alone question (backend, readings) = (answer, after, rest)) :
    oracle.finish (.ask question next) backend readings =
      oracle.finish (next answer) after rest := by
  simp only [finish, Program.run, Bind.bind, StateT.bind]
  rw [given]

/-- An operation, and what it reads. -/
structure Job where
  operation : Operation
  readings : List Reading

/-- Perform an operation. -/
def perform (oracle : Oracle η H) (plan : Exchange.Plan η) (chain : Chain η H) (job : Job)
    (backend : Backend) : Except Fault Result × Backend :=
  oracle.finish (Office.work plan chain job.operation) backend job.readings

/-- Perform operations one after another: their results, and the store then. -/
def serially (oracle : Oracle η H) (plan : Exchange.Plan η) (chain : Chain η H) :
    List Job → Backend → List (Except Fault Result) × Backend
  | [], backend => ([], backend)
  | job :: jobs, backend =>
      let first := oracle.perform plan chain job backend
      let rest := serially oracle plan chain jobs first.2
      (first.1 :: rest.1, rest.2)

theorem serially_concat (oracle : Oracle η H) (plan : Exchange.Plan η) (chain : Chain η H)
    (jobs : List Job) (job : Job) (backend : Backend) :
    let before := oracle.serially plan chain jobs backend
    let last := oracle.perform plan chain job before.2
    oracle.serially plan chain (jobs ++ [job]) backend = (before.1 ++ [last.1], last.2) := by
  induction jobs generalizing backend with
  | nil => rfl
  | cons first rest ih =>
      simp only [List.cons_append, serially, ih]

/-! ### The same answers in an office -/

section Mirror

variable {oracle : Oracle η H} {session : String} {token : Option Nat}
  {question : ExchangeQuestion (callInterface η H)} {before after : Office η H}
  {answer : question.Answer}

/-- No token is tripped, and the store keeps everything. -/
structure Calm (office : Office η H) : Prop where
  untripped : office.cancels.tripped = []
  ttl : office.ttl = none
  permanent : office.backend.Permanent

/-- An office answers a question about a session as its operation would be answered alone, on any
store that holds the same for the session; and it changes nothing for any other session. -/
theorem alone_of_answering {backend : Backend} (calm : Calm before) (isOf : question.IsOf session)
    (answered : oracle.answering token question before answer after)
    (permanent : backend.Permanent) (alike : Alike session before.backend backend) :
    (∃ next, next.Permanent ∧ Alike session after.backend next ∧
      ∀ more, oracle.alone question (backend, (question.reading? answer).toList ++ more) =
        (answer, next, more)) ∧
    after.backend.Permanent ∧
    ∀ other, other ≠ session → Alike other before.backend after.backend := by
  have still : after.backend = before.backend →
      after.backend.Permanent ∧
        ∀ other, other ≠ session → Alike other before.backend after.backend := by
    intro same
    rw [same]
    exact ⟨calm.permanent, fun other _ => .refl other _⟩
  cases question with
  | secure user asker message =>
      obtain ⟨given, rfl⟩ := answered
      cases given
      exact ⟨⟨backend, permanent, alike, fun _ => rfl⟩, still rfl⟩
  | load asked =>
      cases isOf
      have loaded := calm.permanent.load_eq session before.now
      have given : (answer, after) = before.transcript session := answered
      rw [Office.transcript, loaded] at given
      cases given
      refine ⟨⟨backend, permanent, alike, fun more => ?_⟩, still rfl⟩
      have loadedAlone := permanent.load_eq session 0
      simp only [alone, loadedAlone, alike.stored]
      rfl
  | save asked turns =>
      cases isOf
      obtain ⟨saved, savedEq, keepsOn, stored, notes, others⟩ :=
        calm.permanent.save_eq session turns before.now
      obtain ⟨next, nextEq, nextKeepsOn, nextStored, nextNotes, -⟩ :=
        permanent.save_eq session turns 0
      have given : (answer, after) =
          ((before.backend.save session turns before.ttl before.now).1,
            { before with
              backend := (before.backend.save session turns before.ttl before.now).2 }) := answered
      rw [calm.ttl, savedEq] at given
      cases given
      refine ⟨⟨next, nextKeepsOn, ⟨stored.trans nextStored.symm, ?_⟩, fun more => ?_⟩, keepsOn, ?_⟩
      · rw [nextNotes, notes]
        exact alike.notes
      · simp only [alone, nextEq]
        rfl
      · exact fun other different => ⟨(others other different).symm, (notes other).symm⟩
  | loadNotes asked =>
      cases isOf
      have loaded := calm.permanent.loadNotes_eq session before.now
      have given : (answer, after) = ((before.backend.loadNotes session before.now).1,
          { before with backend := (before.backend.loadNotes session before.now).2 }) := answered
      rw [loaded] at given
      cases given
      refine ⟨⟨backend, permanent, alike, fun more => ?_⟩, still rfl⟩
      have loadedAlone := permanent.loadNotes_eq session 0
      simp only [alone, loadedAlone, alike.notes]
      rfl
  | report event =>
      cases answered
      exact ⟨⟨backend, permanent, alike, fun _ => rfl⟩, still rfl⟩
  | isCancelled =>
      have given : (answer, after) = (token.any before.cancels.isTripped, before) := answered
      have untripped : token.any before.cancels.isTripped = false := by
        cases token with
        | none => rfl
        | some token => simp [CancelTable.isTripped, calm.untripped]
      rw [untripped] at given
      cases given
      exact ⟨⟨backend, permanent, alike, fun _ => rfl⟩, still rfl⟩
  | today =>
      cases answered
      exact ⟨⟨backend, permanent, alike, fun _ => rfl⟩, still rfl⟩
  | complete request =>
      obtain ⟨given, rfl⟩ := answered
      cases given
      exact ⟨⟨backend, permanent, alike, fun _ => rfl⟩, still rfl⟩
  | call question =>
      cases question with
      | handle intent context =>
          obtain ⟨given, rfl⟩ := answered
          cases given
          exact ⟨⟨backend, permanent, alike, fun _ => rfl⟩, still rfl⟩
      | grant limit asker =>
          cases answered
          exact ⟨⟨backend, permanent, alike, fun _ => rfl⟩, still rfl⟩
      | clock =>
          cases answered
          exact ⟨⟨backend, permanent, alike, fun _ => rfl⟩, still rfl⟩
      | host question =>
          obtain ⟨given, rfl⟩ := answered
          cases given
          exact ⟨⟨backend, permanent, alike, fun _ => rfl⟩, still rfl⟩

end Mirror

end Oracle

end Parley
