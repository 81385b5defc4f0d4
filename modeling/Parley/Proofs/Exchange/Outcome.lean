/-
Module: Parley.Proofs.Exchange.Outcome
Layer: Proofs
Purpose: How an exchange ends, and how often it asks the model.  It always ends, whoever answers: the
  model is asked once for each round that is allowed, once more for an answer, and once more if the
  answer does not have the required format.  Where nobody fails and nobody cancels it, what the model
  asks for and how the requests are answered settles which of three ends it comes to.
Main exports: Exchange.Undisturbed, Exchange.HopelessAfter, Exchange.GivesUpAt,
  Exchange.AnswersAfter, Exchange.Determined, Exchange.Concludes, Exchange.ends_as_determined
-/
import Parley.Proofs.Exchange.Inquiries

namespace Parley.Exchange

open Program (Asked Runs)

variable {η : Type}

/-! ### What settles the end -/

/-- Nobody fails whom the exchange asks, none of its calls ends it, and it is not cancelled. -/
structure Undisturbed (plan : Plan η) (log : Log) : Prop where
  before : ∀ asked ∈ (divide log).1, isFatal (fun _ => plan.opening.any bearsErrors) asked = false
  answered : ∀ inquiry ∈ inquiries log, inquiry.answer.isOk = true
  since : ∀ inquiry ∈ inquiries log, ∀ asked ∈ inquiry.since,
    isFatal CallError.isRecoverable asked = false

/-- Whether the model asks for tools. -/
def Inquiry.asksForTools (inquiry : Inquiry) : Bool :=
  match inquiry.answer with
  | .ok said => (adopted said).asksForTools
  | .error _ => false

/-- The model asks for tools each of the first times that it is asked. -/
def KeepsAsking (log : Log) (count : Nat) : Prop :=
  ∀ index, index < count →
    ∃ inquiry, (inquiries log)[index]? = some inquiry ∧ inquiry.asksForTools = true

/-- After some rounds, so many of their requests have been answered by an error and none by a
result. -/
def HopelessAfter (threshold : Nat) (log : Log) (rounds : Nat) : Prop :=
  threshold ≤ refusalsIn (((inquiries log).take rounds).flatMap (·.since)) ∧
    successesIn (((inquiries log).take rounds).flatMap (·.since)) = 0

/-- The model keeps asking for tools up to the first round after which it is hopeless, and that round
is allowed. -/
structure GivesUpAt (settings : ExchangeSettings) (log : Log) (number : Nat) : Prop where
  positive : 0 < number
  allowed : number ≤ settings.maxRounds
  asks : KeepsAsking log number
  hopeless : HopelessAfter settings.invalidThreshold log number
  first : ∀ earlier, 0 < earlier → earlier < number →
    ¬HopelessAfter settings.invalidThreshold log earlier

/-- The model answers without tools after some rounds, which are allowed. -/
structure AnswersAfter (settings : ExchangeSettings) (log : Log) (number : Nat) : Prop where
  allowed : number ≤ settings.maxRounds
  asks : KeepsAsking log number
  answers : ∃ inquiry, (inquiries log)[number]? = some inquiry ∧
    inquiry.answer.isOk = true ∧ inquiry.asksForTools = false

/-- Which of three ends an exchange comes to. -/
structure Determined (settings : ExchangeSettings) (log : Log) (result : Except Fault Reply) :
    Prop where
  givenUp : ∀ number, GivesUpAt settings log number →
    (inquiries log).length = number ∧ ∃ reply, result = .ok reply ∧ reply.text = settings.fallback ∧
      reply.rounds = number ∧ reply.fallback = true
  answered : (∀ number, ¬GivesUpAt settings log number) →
    ∀ number, AnswersAfter settings log number →
      ∃ reply, result = .ok reply ∧ reply.rounds = number ∧ reply.fallback = false
  exhausted : (∀ number, ¬GivesUpAt settings log number) →
    (∀ number, ¬AnswersAfter settings log number) →
      (inquiries log).length = settings.maxRounds + 1 ∧
        result = .error (.loopExhausted settings.maxRounds)

section Ends

variable {settings : ExchangeSettings} {log : Log} {number other : Nat}
  {result : Except Fault Reply}

theorem KeepsAsking.not_answers (asks : KeepsAsking log number)
    (answers : AnswersAfter settings log other) : number ≤ other := by
  apply Nat.le_of_not_lt
  intro isEarlier
  obtain ⟨inquiry, found, isAsking⟩ := asks other isEarlier
  obtain ⟨same, foundToo, -, notAsking⟩ := answers.answers
  cases found.symm.trans foundToo
  rw [isAsking] at notAsking
  contradiction

theorem GivesUpAt.unique (one : GivesUpAt settings log number)
    (two : GivesUpAt settings log other) : number = other := by
  rcases Nat.lt_trichotomy number other with before | same | after
  · exact absurd one.hopeless (two.first number one.positive before)
  · exact same
  · exact absurd two.hopeless (one.first other two.positive after)

theorem determined_of_givesUp (givesUp : GivesUpAt settings log number) {reply : Reply}
    (count : (inquiries log).length = number) (text : reply.text = settings.fallback)
    (rounds : reply.rounds = number) (fallback : reply.fallback = true) :
    Determined settings log (.ok reply) where
  givenUp other alsoGivesUp := by
    cases givesUp.unique alsoGivesUp
    exact ⟨count, reply, rfl, text, rounds, fallback⟩
  answered never := absurd givesUp (never number)
  exhausted never := absurd givesUp (never number)

theorem determined_of_answers (answers : AnswersAfter settings log number)
    (never : ∀ earlier, 0 < earlier → earlier ≤ number →
      ¬HopelessAfter settings.invalidThreshold log earlier)
    {reply : Reply} (rounds : reply.rounds = number) (fallback : reply.fallback = false) :
    Determined settings log (.ok reply) where
  givenUp other givesUp :=
    absurd givesUp.hopeless (never other givesUp.positive (givesUp.asks.not_answers answers))
  answered _ other alsoAnswers := by
    cases Nat.le_antisymm (answers.asks.not_answers alsoAnswers)
      (alsoAnswers.asks.not_answers answers)
    exact ⟨reply, rfl, rounds, fallback⟩
  exhausted _ never := absurd answers (never number)

theorem determined_of_exhausted (asks : KeepsAsking log (settings.maxRounds + 1))
    (never : ∀ earlier, 0 < earlier → earlier ≤ settings.maxRounds →
      ¬HopelessAfter settings.invalidThreshold log earlier)
    (count : (inquiries log).length = settings.maxRounds + 1) :
    Determined settings log (.error (.loopExhausted settings.maxRounds)) where
  givenUp other givesUp :=
    absurd givesUp.hopeless (never other givesUp.positive givesUp.allowed)
  answered _ other answers := by
    have beyond := asks.not_answers answers
    exact absurd answers.allowed (Nat.not_le_of_lt beyond)
  exhausted _ _ := ⟨count, rfl⟩

end Ends

/-! ### Fatal answers -/

section Disturbances

variable {plan : Plan η} {log : Log}

/-- All that is asked is asked before the model is, or after it, or is what it is asked. -/
theorem mem_divide {asked : Asked (exchangeInterface wholeCalls)} (member : asked ∈ log) :
    asked ∈ (divide log).1 ∨
      ∃ inquiry ∈ inquiries log,
        asked = ⟨.complete inquiry.request, inquiry.answer⟩ ∨ asked ∈ inquiry.since := by
  induction log with
  | nil => exact (List.not_mem_nil member).elim
  | cons first rest ih =>
      rcases divide_cons first rest with ⟨request, answer, rfl⟩ | divided
      · right
        rcases List.mem_cons.1 member with rfl | later
        · exact ⟨_, List.mem_cons_self .., .inl rfl⟩
        · rcases ih later with before | ⟨inquiry, isInquiry, within⟩
          · exact ⟨_, List.mem_cons_self .., .inr before⟩
          · exact ⟨inquiry, List.mem_cons_of_mem _ isInquiry, within⟩
      · rw [inquiries, divided]
        rcases List.mem_cons.1 member with rfl | later
        · exact .inl (List.mem_cons_self ..)
        · rcases ih later with before | within
          · exact .inl (List.mem_cons_of_mem _ before)
          · exact .inr within

/-- Faults of calls apart, no answer is fatal. -/
theorem Undisturbed.harmless (undisturbed : Undisturbed plan log)
    {asked : Asked (exchangeInterface wholeCalls)} (member : asked ∈ log) :
    isFatal (fun _ => true) asked = false := by
  have lenient : ∀ mayFail, isFatal mayFail asked = false → isFatal (fun _ => true) asked = false := by
    intro mayFail harmless
    obtain ⟨question, answer⟩ := asked
    cases question with
    | call call =>
        cases (answer : Outcome) with
        | ok value => rfl
        | error error => rfl
    | _ => exact harmless
  rcases mem_divide member with before | ⟨inquiry, isInquiry, rfl | since⟩
  · exact lenient _ (undisturbed.before asked before)
  · have answered := undisturbed.answered inquiry isInquiry
    obtain ⟨request, answer, since⟩ := inquiry
    cases answer with
    | ok said => rfl
    | error fault => contradiction
  · exact lenient _ (undisturbed.since inquiry isInquiry asked since)

end Disturbances

/-! ### Rounds that are told -/

section Rounds

variable {plan : Plan η} {frame : Frame η} {first : Transcript} {rounds : List Round}
  {told more : List Inquiry} {log : Log} {number : Nat}

theorem hopelessAfter_iff (threshold : Nat) (isTold : Told frame first [] rounds told)
    (parts : inquiries log = told ++ more) (within : number ≤ rounds.length) :
    HopelessAfter threshold log number ↔
      Hopeless threshold (resolvedIn (rounds.take number)) := by
  have isToldPart := isTold.take number
  rw [HopelessAfter, parts, List.take_append_of_le_length (isTold.length_eq ▸ within),
    isToldPart.counts.1, isToldPart.counts.2, Hopeless]

/-- The model asks for tools in each round. -/
theorem keepsAsking_of_told (isTold : Told frame first [] rounds told)
    (parts : inquiries log = told ++ more)
    (asks : ∀ (index : Nat) (round : Round), rounds[index]? = some round →
      (adopted round.said).asksForTools = true) :
    KeepsAsking log rounds.length := by
  intro index within
  have isRound := List.getElem?_eq_getElem within
  obtain ⟨inquiry, found, begins⟩ := isTold.begins isRound
  refine ⟨inquiry, ?_, ?_⟩
  · rw [parts, List.getElem?_append_left (by rwa [isTold.length_eq])]
    exact found
  · simp only [Inquiry.asksForTools, begins.answer]
    exact asks index _ isRound

/-- The inquiry after the rounds. -/
theorem inquiry_after (isTold : Told frame first [] rounds told)
    (parts : inquiries log = told ++ more) : (inquiries log)[rounds.length]? = more[0]? := by
  rw [parts, ← isTold.length_eq, List.getElem?_append_right (Nat.le_refl _), Nat.sub_self]

end Rounds

section Course

variable {plan : Plan η} {frame : Frame η} {first : Transcript} {rounds : List Round}
  {before ending log : Log} {result : Except Fault Reply}

/-- So often the model is asked after the rounds. -/
theorem Closes.count {left number : Nat} {turns : Transcript} {history : List Resolved}
    (closes : Closes frame left number turns history ending result) :
    (inquiries ending).length ≤ 1 + reprompts ending ∧ reprompts ending ≤ 1 := by
  cases closes with
  | @givenUp log _ _ _ runs =>
      obtain ⟨quiet, -⟩ := quiet_finish runs
      have same : reprompts (⟨.report (.safetyFallback frame.desk.session (refusals history)), ()⟩ ::
          log) = reprompts log := rfl
      rw [same, reprompts_of_quiet quiet]
      simp [inquiries, divide, divide_of_quiet quiet]
  | ends _ ends =>
      cases ends with
      | cancelled => simp [inquiries, divide, reprompts, isReprompt]
      | failed => simp [inquiries, divide, reprompts, isReprompt]
      | exhausted => simp [inquiries, divide, reprompts, isReprompt]
      | @stopped part log _ _ _ _ _ stops =>
          obtain ⟨quiet, -⟩ := stops.log_eq
          have same : reprompts (⟨.isCancelled, false⟩ ::
              ⟨.complete (frame.request turns []), .ok part.said⟩ :: log) = reprompts log := rfl
          rw [same, reprompts_of_quiet quiet]
          simp [inquiries, divide, divide_of_quiet quiet]
      | @answered said log _ _ runs =>
          have closing := closing_answer runs
          have same : reprompts (⟨.isCancelled, false⟩ ::
              ⟨.complete (frame.request turns []), .ok said⟩ :: log) = reprompts log := rfl
          rw [same, Nat.add_comm]
          exact ⟨Nat.succ_le_succ closing.retried, closing.once⟩

/-- The model is asked once for each round that is allowed, and once or twice more. -/
theorem Course.count {settings : ExchangeSettings}
    (quiet : ∀ asked ∈ before, Quiet asked.question)
    (course : Course frame 0 settings.maxRounds first [] rounds ending result) :
    let log := before ++ (roundsLog frame 0 first [] rounds ++ ending)
    (inquiries log).length ≤ settings.maxRounds + 1 + reprompts log ∧ reprompts log ≤ 1 := by
  obtain ⟨told, isTold, parts, -⟩ := told_roundsLog frame 0 first [] rounds course.closes.idle
  obtain ⟨count, once⟩ := course.closes.count
  have bound := course.bound
  dsimp only
  rw [inquiries_append_of_quiet _ quiet, parts, List.length_append, isTold.length_eq,
    reprompts_append, reprompts_append, reprompts_of_quiet quiet, reprompts_roundsLog]
  omega

/-- A call that ends the exchange is fatal to it. -/
theorem isFatal_of_fault {last : Resolved} {fault : Fault} (fails : last.fault? = some fault)
    (desk : Desk η) (history : List Resolved) :
    ∃ asked ∈ last.log desk history, isFatal CallError.isRecoverable asked = true := by
  obtain ⟨request, means⟩ := last
  cases means with
  | reused content => contradiction
  | called outcome =>
      cases outcome with
      | ok value => contradiction
      | error error =>
          refine ⟨_, List.mem_cons_of_mem _ (List.mem_singleton_self _), ?_⟩
          cases recoverable : error.isRecoverable with
          | true => simp [Resolved.fault?, recoverable] at fails
          | false => simp [isFatal, recoverable]

/-- Where a round stops, some answer in it was fatal. -/
theorem Stops.fatal {desk : Desk η} {history resolved : List Resolved} {fault : Fault}
    (stops : Stops desk history resolved log fault) :
    ∃ asked ∈ log, isFatal CallError.isRecoverable asked = true := by
  cases stops with
  | cancelled => exact ⟨_, List.mem_append_right _ (List.mem_singleton_self _), rfl⟩
  | failed _ fails =>
      rw [resolvedLog_append]
      obtain ⟨asked, member, fatal⟩ := isFatal_of_fault fails desk _
      exact ⟨asked, List.mem_append_right _ (List.mem_append_left _ member), fatal⟩

/-- How an exchange goes on after `number` rounds where nothing disturbs it. -/
inductive Concludes (settings : ExchangeSettings) (left number : Nat) (history : List Resolved)
    (ending : Log) : Except Fault Reply → Prop where
  | givenUp {reply : Reply} :
      0 < number → Hopeless settings.invalidThreshold history → inquiries ending = [] →
      reply.text = settings.fallback → reply.rounds = number → reply.fallback = true →
      Concludes settings left number history ending (.ok reply)
  | exhausted {inquiry : Inquiry} :
      (0 < number → ¬Hopeless settings.invalidThreshold history) → left = 0 →
      inquiries ending = [inquiry] → inquiry.asksForTools = true →
      Concludes settings left number history ending (.error (.loopExhausted number))
  | answered {inquiry : Inquiry} {more : List Inquiry} {reply : Reply} :
      (0 < number → ¬Hopeless settings.invalidThreshold history) →
      inquiries ending = inquiry :: more → inquiry.answer.isOk = true →
      inquiry.asksForTools = false → reply.rounds = number → reply.fallback = false →
      Concludes settings left number history ending (.ok reply)

/-- An answer that nothing disturbs is saved and replied. -/
theorem replied_of_answer {number : Nat} {turns : Transcript} {said : Turn}
    (runs : Runs (answer frame number turns said).run log result)
    (harmless : ∀ asked ∈ log, isFatal (fun _ => true) asked = false) :
    ∃ reply, result = .ok reply ∧ reply.rounds = number ∧ reply.fallback = false := by
  rcases runs_answer runs with ⟨fault, formatted, -⟩ | ⟨final, before, last, rfl, -, ends⟩
  · cases formatted with
    | cancelled =>
        have fatal := harmless ⟨.isCancelled, true⟩ (by simp [repromptLog])
        contradiction
    | failed =>
        have fatal := harmless _
          (List.mem_append_right (repromptLog frame false) (List.mem_singleton_self _))
        contradiction
  · rcases runs_finish ends with ⟨fault, rfl, -⟩ | ⟨-, rfl⟩
    · have fatal := harmless _ (List.mem_append_right before (List.mem_singleton_self _))
      contradiction
    · exact ⟨_, rfl, rfl, rfl⟩

theorem Closes.concludes {left number : Nat} {turns : Transcript} {history : List Resolved}
    (closes : Closes frame left number turns history ending result)
    (harmless : ∀ asked ∈ ending, isFatal (fun _ => true) asked = false)
    (since : ∀ inquiry ∈ inquiries ending, ∀ asked ∈ inquiry.since,
      isFatal CallError.isRecoverable asked = false) :
    Concludes frame.settings left number history ending result := by
  cases closes with
  | givenUp positive hopeless runs =>
      have divided := divide_of_quiet (quiet_finish runs).1
      rcases runs_finish runs with ⟨fault, rfl, -⟩ | ⟨rfl, rfl⟩
      · have fatal := harmless _ (List.mem_cons_of_mem _ (List.mem_singleton_self _))
        contradiction
      · exact .givenUp positive hopeless (by simp [inquiries, divide, divided]) rfl rfl rfl
  | ends hopeful ends =>
      cases ends with
      | cancelled =>
          have fatal := harmless _ (List.mem_singleton_self _)
          contradiction
      | failed fault =>
          have fatal := harmless _ (List.mem_cons_of_mem _ (List.mem_singleton_self _))
          contradiction
      | exhausted said none asks => exact .exhausted hopeful none rfl asks
      | @stopped part log _ _ _ _ _ stops =>
          obtain ⟨quiet, -⟩ := stops.log_eq
          obtain ⟨asked, member, fatal⟩ := stops.fatal
          have isInquiry : (⟨frame.request turns [], .ok part.said, log⟩ : Inquiry) ∈
              inquiries (⟨.isCancelled, false⟩ ::
                ⟨.complete (frame.request turns []), .ok part.said⟩ :: log) := by
            simp [inquiries, divide, divide_of_quiet quiet]
          have harmlessToo := since _ isInquiry asked member
          rw [fatal] at harmlessToo
          contradiction
      | answered isFinal runs =>
          obtain ⟨reply, rfl, rounds, fallback⟩ := replied_of_answer runs fun asked member =>
            harmless asked (List.mem_cons_of_mem _ (List.mem_cons_of_mem _ member))
          exact .answered hopeful rfl rfl isFinal rounds fallback

/-- The course of an exchange that nothing disturbs is determined. -/
theorem Course.determined {settings : ExchangeSettings} (isSettings : frame.settings = settings)
    (quiet : ∀ asked ∈ before, Quiet asked.question)
    (course : Course frame 0 settings.maxRounds first [] rounds ending result)
    (undisturbed : Undisturbed plan (before ++ (roundsLog frame 0 first [] rounds ++ ending))) :
    Determined settings (before ++ (roundsLog frame 0 first [] rounds ++ ending)) result := by
  obtain ⟨told, isTold, parts, -⟩ := told_roundsLog frame 0 first [] rounds course.closes.idle
  rw [← inquiries_append_of_quiet _ quiet] at parts
  have concludes := course.closes.concludes
    (fun asked member => undisturbed.harmless
      (List.mem_append_right _ (List.mem_append_right _ member)))
    (fun inquiry isLast => undisturbed.since inquiry (parts ▸ List.mem_append_right told isLast))
  have asks := keepsAsking_of_told isTold parts fun index round isRound =>
    (course.complete index round isRound).asks
  have after := inquiry_after isTold parts
  have count := congrArg List.length parts
  have hopelessNow :=
    hopelessAfter_iff settings.invalidThreshold isTold parts (Nat.le_refl _)
  have hopeful : ∀ earlier, 0 < earlier → earlier < rounds.length →
      ¬HopelessAfter settings.invalidThreshold
        (before ++ (roundsLog frame 0 first [] rounds ++ ending)) earlier := by
    intro earlier positive isEarlier
    rw [hopelessAfter_iff _ isTold parts (Nat.le_of_lt isEarlier), ← isSettings]
    simpa using course.hopeful earlier isEarlier (by omega)
  rw [List.length_append, isTold.length_eq] at count
  rw [Nat.zero_add, List.nil_append, isSettings] at concludes
  rw [List.take_length] at hopelessNow
  generalize before ++ (roundsLog frame 0 first [] rounds ++ ending) = log at *
  -- Up to the last round it was not hopeless before; whether it is then tells the ends apart.
  have never : (0 < rounds.length → ¬Hopeless settings.invalidThreshold (resolvedIn rounds)) →
      ∀ earlier, 0 < earlier → earlier ≤ rounds.length →
        ¬HopelessAfter settings.invalidThreshold log earlier := by
    intro notHopeless earlier positive within
    rcases Nat.lt_or_eq_of_le within with isEarlier | rfl
    · exact hopeful earlier positive isEarlier
    · exact mt hopelessNow.1 (notHopeless positive)
  cases concludes with
  | givenUp positive hopeless none text replied fallback =>
      rw [none] at count
      exact determined_of_givesUp
        ⟨positive, course.bound, asks, hopelessNow.2 hopeless, hopeful⟩ count text replied fallback
  | exhausted notHopeless none one isAsking =>
      have all : rounds.length = settings.maxRounds :=
        Nat.le_antisymm course.bound (Nat.le_of_sub_eq_zero none)
      rw [one] at after count
      rw [all] at asks never notHopeless after count ⊢
      refine determined_of_exhausted ?_ (never notHopeless) count
      intro index within
      rcases Nat.lt_or_eq_of_le (Nat.le_of_lt_succ within) with isEarlier | rfl
      · exact asks index isEarlier
      · exact ⟨_, after, isAsking⟩
  | answered notHopeless inquired isOk isFinal replied fallback =>
      rw [inquired] at after
      exact determined_of_answers ⟨course.bound, asks, _, after, isOk, isFinal⟩
        (never notHopeless) replied fallback

end Course

/-- Whoever answers, an exchange ends: the model is asked once for each round that is allowed, once
more, and once again if an answer does not have the required format.  Where nothing disturbs it, its
end is determined. -/
theorem ends_as_determined {σ : Type}
    (answer : (question : ExchangeQuestion wholeCalls) → StateM σ question.Answer) (state : σ)
    (plan : Plan η) (input : Input) :
    let ended := Program.run (I := exchangeInterface wholeCalls) (Program.recording answer)
      (run plan input).run (state, [])
    let log := ended.2.2
    (inquiries log).length ≤ plan.settings.maxRounds + 1 + reprompts log ∧ reprompts log ≤ 1 ∧
      (Undisturbed plan log → Determined plan.settings log ended.1) := by
  intro ended log
  obtain ⟨part, isLog, runs⟩ := Program.runs_recording answer (run plan input).run state []
  have same : log = part := isLog
  rw [same]
  rcases runs_runWith runs with
    ⟨fault, -, prevented⟩ |
    ⟨stored, added, opened, notes, date, rounds, ending, rfl, isOpened, course⟩
  · rw [inquiries_of_quiet prevented.quiet, reprompts_of_quiet prevented.quiet]
    refine ⟨Nat.zero_le _, Nat.zero_le _, fun undisturbed => ?_⟩
    obtain ⟨asked, member, fatal⟩ := prevented.fatal
    have harmless := undisturbed.before asked (by rwa [divide_of_quiet prevented.quiet])
    rw [fatal] at harmless
    contradiction
  · have quiet := isOpened.quiet_preparation notes date
    obtain ⟨count, once⟩ := course.count quiet
    exact ⟨count, once, fun undisturbed => course.determined rfl quiet undisturbed⟩

/-! ### A model that does not give up -/

/-- Nothing can be called. -/
def barePlan : Plan Unit :=
  { catalog := Catalog.ofIntents [], settings := .standard, opening := none
    syntaxDetails := id }

/-- The model asks for a bell for ever, and there is none. -/
def ringing : (question : ExchangeQuestion wholeCalls) → StateM Unit question.Answer
  | .secure _ _ _ => pure (.ok ())
  | .load _ => pure (.ok [])
  | .save _ _ => pure (.ok ())
  | .loadNotes _ => pure (.ok [])
  | .report _ => pure ()
  | .isCancelled => pure false
  | .today => pure (CivilDate.ofEpochSeconds 0)
  | .complete _ => pure (.ok (Turn.asking "" [{ id := "", tool := "bell", arguments := "" }]))
  | .call _ => pure (.error (.toolNotFound "bell"))

/-- The exchange with it, and what is asked in it. -/
def rung : Except Fault Reply × Unit × Log :=
  Program.run (I := exchangeInterface wholeCalls) (Program.recording ringing)
    (run barePlan { session := "hall", user := none, message := "ring", subset := none }).run ((), [])

theorem ends_as_determined_rung :
    Undisturbed barePlan rung.2.2 ∧ Determined barePlan.settings rung.2.2 rung.1 ∧
      (inquiries rung.2.2).length = 2 := by
  have undisturbed : Undisturbed barePlan rung.2.2 := by
    constructor
    · decide +kernel
    · decide +kernel
    · decide +kernel
  have determined := (ends_as_determined ringing () barePlan _).2.2 undisturbed
  exact ⟨undisturbed, determined, by decide +kernel⟩

end Parley.Exchange
