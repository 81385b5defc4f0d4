/-
Module: Parley.Proofs.Office.Failure
Layer: Proofs
Purpose: What an exchange leaves behind that fails, or is dropped while somebody has not answered it:
  all that is stored is as it was, but for an opening that was completed and saved.  Running a task
  in the office is a run of its work on what is stored, and abandoning it stores nothing, so this is
  so for the exchanges of an office.
Main exports: Office.BrokenOff, Office.failed_exchange, Office.leftOver_leads, Office.abandon_backend
-/
import Parley.Proofs.Exchange.Failure
import Parley.Proofs.Office.Polls

namespace Parley.Office

open Exchange (Track OpeningSaved Settled answers patient)
open Program (Leads keeps_bind)

variable {η : Type} {H : Interface} {σ α : Type}

/-- Some work has failed, or those who are asked have not answered. -/
inductive BrokenOff : Work η H → Prop where
  | failed (fault : Fault) : BrokenOff (.done (.error fault))
  | waiting {question : ExchangeQuestion (callInterface η H)} {next : question.Answer → Work η H} :
      question.mayWait = true → BrokenOff (.ask question next)

theorem patient_work {ttl : Option Duration} {backend : Backend} (plan : Exchange.Plan η)
    (chain : Chain η H) (input : Input) (lasting : backend.WithoutExpiry ttl) :
    let tools := plan.catalog.toolset input.subset
    let settled := Settled ttl plan tools chain input.session backend
    (work plan chain (.exchange input)).Keeps (patient ttl settled)
      (fun result after => ∀ fault, result = .error fault → settled after) ⟨backend, []⟩ := by
  intro tools settled
  have untouched : Exchange.Untouched ttl backend (⟨backend, []⟩ : Track η H) :=
    ⟨lasting, .refl backend⟩
  apply keeps_bind.2
  apply (Exchange.patient_unfold Exchange.persists_settled
    (Exchange.settled_runWith chain true plan input untouched)).mono
  intro result after settledAfter fault failed
  cases result with
  | ok reply => contradiction
  | error other => exact settledAfter other rfl

/-- Let an exchange run on what is stored, answered in any way and with any steps on a directory
failing, until it fails or is dropped while somebody has not answered.  Then all system messages and
all transcripts of other sessions are as they were.  The transcript of its own session is as it was
too; or the opening was completed and saved, and what is stored is what was before it with the turns
of the opening, numbered anew. -/
theorem failed_exchange {ttl : Option Duration} {backend : Backend} {plan : Exchange.Plan η}
    {chain : Chain η H} {input : Input} {left : Work η H} {track : Track η H}
    (lasting : backend.WithoutExpiry ttl)
    (leads : Leads (answers ttl) (work plan chain (.exchange input)) ⟨backend, []⟩ left track)
    (broken : BrokenOff left) :
    (∀ session, track.backend.notes session = backend.notes session) ∧
    (∀ session, session ≠ input.session →
      Backend.SameTranscript session backend track.backend) ∧
    (Backend.SameTranscript input.session backend track.backend ∨
      OpeningSaved plan (plan.catalog.toolset input.subset) chain input.session backend track) := by
  have settled : Settled ttl plan (plan.catalog.toolset input.subset) chain input.session backend
      track := by
    have keeps := (patient_work plan chain input lasting).leads leads
    cases broken with
    | failed fault => exact keeps fault rfl
    | waiting waits => exact keeps.1 waits
  obtain ⟨-, same | saved⟩ := settled
  · constructor
    · exact same.notes
    · constructor
      · exact fun session _ => same.transcripts session
      · exact .inl (same.transcripts input.session)
  · obtain ⟨opening, added, earlier, part, since, isPlanned, runs, log, sameBut, has⟩ := saved
    constructor
    · exact sameBut.notes
    · constructor
      · exact sameBut.transcripts
      · exact .inr ⟨opening, added, earlier, part, since, isPlanned, runs, log, sameBut, has⟩

/-! ### In the office -/

theorem Effect.storeEffect {question : ExchangeQuestion (callInterface η H)}
    {answer : question.Answer} {before after : Office η H}
    (effect : Effect before question answer after) :
    Exchange.StoreEffect before.ttl question before.backend answer after.backend ∧
      after.ttl = before.ttl := by
  cases effect with
  | load may => exact ⟨⟨_, may⟩, rfl⟩
  | save may => exact ⟨⟨_, may⟩, rfl⟩
  | loadNotes may => exact ⟨⟨_, may⟩, rfl⟩
  | other reports windows notStore =>
      constructor
      · cases question with
        | load => contradiction
        | save => contradiction
        | loadNotes => contradiction
        | _ => rfl
      · rfl

/-- While those outside answer, nothing is stored. -/
theorem consult_backend (outside : Outside σ α) (office : Office η H) (state : σ) :
    (consult outside (office, state)).2.1.backend = office.backend ∧
      (consult outside (office, state)).2.1.ttl = office.ttl :=
  ⟨consult_same (·.backend) (fun _ _ => rfl) outside office state,
    consult_same (·.ttl) (fun _ _ => rfl) outside office state⟩

/-- Running a task as far as it goes is a run of its work on what is stored. -/
theorem leftOver_leads (surroundings : Surroundings η H σ) (task : Task η H) (token : Option Nat)
    (work : Work η H) (office : Office η H) (state : σ)
    (log : List (Program.Asked (Exchange.unfolded η H))) :
    let ended := leftOver surroundings task token work office state
    ∃ after, Leads (answers office.ttl) work ⟨office.backend, log⟩ ended.1
      ⟨ended.2.1.backend, after⟩ := by
  induction work generalizing office state log with
  | done result => exact ⟨log, .refl _ _⟩
  | ask question next ih =>
      rw [leftOver_ask]
      cases isInside : inside? token question with
      | some act =>
          have responds : respond surroundings task.ticket token question (office, state) =
              (some (act office).1, (act office).2, state) := by
            simp only [respond, isInside]
            rfl
          rw [responds]
          have answered : MayAnswer token question office (act office).1 (act office).2 := by
            right
            rw [isInside]
            rfl
          obtain ⟨effect, sameTtl⟩ := (effect_of_mayAnswer answered).storeEffect
          obtain ⟨after, leads⟩ := ih (act office).1 (act office).2 state
            (log ++ [⟨question, (act office).1⟩])
          rw [sameTtl] at leads
          exact ⟨after, .ask ⟨effect, rfl⟩ leads⟩
      | none =>
          have responds : respond surroundings task.ticket token question (office, state) =
              consult (outside surroundings task.ticket question) (office, state) := by
            simp only [respond, isInside]
          rw [responds]
          obtain ⟨sameBackend, sameTtl⟩ :=
            consult_backend (outside surroundings task.ticket question) office state
          revert sameBackend sameTtl
          cases consult (outside surroundings task.ticket question) (office, state) with
          | mk answer after =>
              intro sameBackend sameTtl
              cases answer with
              | none =>
                  refine ⟨log, ?_⟩
                  dsimp only at sameBackend ⊢
                  rw [sameBackend]
                  exact .refl _ _
              | some given =>
                  have answered : MayAnswer token question after.1 given after.1 := by
                    right
                    rw [isInside]
                  obtain ⟨effect, -⟩ := (effect_of_mayAnswer answered).storeEffect
                  obtain ⟨final, leads⟩ := ih given after.1 after.2 (log ++ [⟨question, given⟩])
                  dsimp only at sameBackend sameTtl ⊢
                  rw [sameTtl] at leads effect
                  rw [← sameBackend]
                  exact ⟨final, .ask ⟨effect, rfl⟩ leads⟩

/-- Abandoning a task, wherever it is, stores nothing. -/
theorem abandon_backend (office : Office η H) (ticket : Nat) :
    (office.abandon ticket).2.backend = office.backend := by
  rw [abandon]
  split
  · rfl
  · dsimp only
    split
    · rfl
    · rfl

/-! ### An exchange that fails after its opening -/

/-- An intent without arguments. -/
def lamp : Intent Unit :=
  { code := "lamp", description := [], shape := .empty, handler := () }

/-- Each session is opened by calling for the lamp. -/
def lampPlan : Exchange.Plan Unit :=
  { catalog := Catalog.ofIntents [lamp]
    settings := .standard
    opening := some { OpeningPlan.standard with calls := [⟨"lamp", .obj []⟩] }
    syntaxDetails := id }

/-- Every message may pass, the lamp works and the model does not. -/
def gloomy : Surroundings Unit noQuestions Unit where
  secure := fun _ _ _ _ => pure (some (.ok ()))
  complete := fun _ _ => pure (some (.error (.model "dim" "too dark")))
  handle := fun _ _ _ => pure (some (.ok (.str "on")))
  host := fun _ question => nomatch question

/-- Somebody enters the hall. -/
def entering : Input :=
  { session := "hall", user := none, message := "hello", subset := none }

/-- What is left there of the exchange, and the office then. -/
def darkened : Work Unit noQuestions × Office Unit noQuestions × Unit :=
  leftOver gloomy { ticket := 0, operation := .exchange entering, stage := .waiting } (some 0)
    (work lampPlan [] (.exchange entering)) (.new lampPlan [] none (.memory .empty) 0) ()

/-- Whether some work has ended with a fault. -/
def hasFailed : Work η H → Bool
  | .done (.error _) => true
  | _ => false

theorem brokenOff_of_hasFailed {work : Work η H} (failed : hasFailed work = true) :
    BrokenOff work := by
  cases work with
  | ask question next => contradiction
  | done result =>
      cases result with
      | ok result => contradiction
      | error fault => exact .failed fault

theorem failed_exchange_darkened :
    hasFailed darkened.1 = true ∧ (darkened.2.1.backend.stored "hall").length = 2 ∧
      ∃ track : Track Unit noQuestions, track.backend = darkened.2.1.backend ∧
        OpeningSaved lampPlan (lampPlan.catalog.toolset none) [] "hall" (.memory .empty) track := by
  have failed : hasFailed darkened.1 = true := by decide +kernel
  have two : (darkened.2.1.backend.stored "hall").length = 2 := by decide +kernel
  refine ⟨failed, two, ?_⟩
  have lasting : (Backend.memory .empty).WithoutExpiry none :=
    ⟨rfl, fun _ member => (List.not_mem_nil member).elim, fun _ member =>
      (List.not_mem_nil member).elim⟩
  obtain ⟨log, leads⟩ := leftOver_leads gloomy
    { ticket := 0, operation := .exchange entering, stage := .waiting } (some 0)
    (work lampPlan [] (.exchange entering)) (.new lampPlan [] none (.memory .empty) 0) () []
  obtain ⟨-, -, same | saved⟩ := failed_exchange lasting leads (brokenOff_of_hasFailed failed)
  · have none : darkened.2.1.backend.stored "hall" = [] := same.stored
    rw [none] at two
    contradiction
  · exact ⟨_, rfl, saved⟩

end Parley.Office
