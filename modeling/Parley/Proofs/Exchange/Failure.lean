/-
Module: Parley.Proofs.Exchange.Failure
Layer: Proofs
Purpose: An exchange that fails, or is dropped while it waits for somebody, leaves no half exchange
  behind.  The store is as it was before the exchange, or an opening was completed and saved in it
  and is all that was added.  The invariant, `Settled`, says just that of the store and the answers
  so far; every part of an exchange keeps it, up to the last save, after which nothing can fail.
Main exports: Exchange.Track, Exchange.answers, Exchange.Settled, Exchange.settled_runWith,
  Exchange.patient_unfold
-/
import Parley.Proofs.Exchange.Parts
import Parley.Proofs.Session.Kept

namespace Parley

open Program (keeps_run_bind keeps_bind Asked Runs)

variable {C H : Interface} {η : Type} {α β : Type}

/-- Whether those who are asked may take their time. -/
def ExchangeQuestion.mayWait : ExchangeQuestion C → Bool
  | .secure _ _ _ => true
  | .complete _ => true
  | .call _ => true
  | _ => false

namespace Exchange

/-- What is stored, and what was asked and answered so far. -/
structure Track (η : Type) (H : Interface) where
  backend : Backend
  log : List (Asked (unfolded η H))

/-- What the answer to a question does to the store, at whatever time. -/
def StoreEffect (ttl : Option Duration) : (question : ExchangeQuestion C) → Backend →
    question.Answer → Backend → Prop
  | .load session, before, answer, after =>
      ∃ now, Backend.MayLoad session now before answer after
  | .save session turns, before, answer, after =>
      ∃ now, Backend.MaySave session turns ttl now before answer after
  | .loadNotes session, before, answer, after =>
      ∃ now, Backend.MayLoadNotes session now before answer after
  | _, before, _, after => after = before

/-- The store answers as it may, steps on a directory may fail, and all others answer anything. -/
def answers (ttl : Option Duration) (question : ExchangeQuestion (callInterface η H))
    (before : Track η H) (answer : question.Answer) (after : Track η H) : Prop :=
  StoreEffect ttl question before.backend answer after.backend ∧
    after.log = before.log ++ [⟨question, answer⟩]

/-- The same where a whole call is one question: its part of the log is a run of the call. -/
def wholeAnswers (ttl : Option Duration) (details : String → String) (tools : Toolset η)
    (chain : Chain η H) (question : ExchangeQuestion wholeCalls) (before : Track η H)
    (answer : question.Answer) (after : Track η H) : Prop :=
  StoreEffect ttl question before.backend answer after.backend ∧
    ∃ part, after.log = before.log ++ part ∧
      Runs (unfoldQuestion details tools chain question) part answer

/-! ### Properties that last while all is kept -/

/-- A property of tracks that lasts as long as all that is stored is kept. -/
structure Persists (ttl : Option Duration) (holds : Track η H → Prop) : Prop where
  lasting : ∀ track, holds track → track.backend.WithoutExpiry ttl
  persists : ∀ before after, holds before → Backend.Same before.backend after.backend →
    after.backend.WithoutExpiry ttl → (∃ part, after.log = before.log ++ part) → holds after

theorem same_of_effect {ttl : Option Duration} {question : ExchangeQuestion C}
    {before after : Backend} {answer : question.Answer} (lasting : before.WithoutExpiry ttl)
    (effect : StoreEffect ttl question before answer after)
    (notSave : question.asksToSave = false) :
    Backend.Same before after ∧ after.WithoutExpiry ttl := by
  have still : after = before → Backend.Same before after ∧ after.WithoutExpiry ttl := by
    rintro rfl
    exact ⟨.refl _, lasting⟩
  cases question with
  | load session =>
      obtain ⟨now, may⟩ := effect
      obtain ⟨same, lastingAfter, -⟩ := Backend.kept_of_mayLoad lasting may
      exact ⟨same, lastingAfter⟩
  | save => contradiction
  | loadNotes session =>
      obtain ⟨now, may⟩ := effect
      rw [Backend.kept_of_mayLoadNotes lasting may]
      exact ⟨.refl _, lasting⟩
  | secure => exact still effect
  | report => exact still effect
  | isCancelled => exact still effect
  | today => exact still effect
  | complete => exact still effect
  | call => exact still effect

section Heedful

variable {ttl : Option Duration} {details : String → String} {tools : Toolset η}
  {chain : Chain η H} {holds fine : Track η H → Prop}

/-- Nobody is made to wait unless all is fine. -/
def heedful (ttl : Option Duration) (details : String → String) (tools : Toolset η)
    (chain : Chain η H) (fine : Track η H → Prop) :
    Contract (exchangeInterface wholeCalls) (Track η H) where
  asks track question := question.mayWait = true → fine track
  answers := wholeAnswers ttl details tools chain

theorem Persists.answered (persists : Persists ttl holds) {before after : Track η H}
    {question : ExchangeQuestion wholeCalls} {answer : question.Answer} (held : holds before)
    (notSave : question.asksToSave = false)
    (answered : wholeAnswers ttl details tools chain question before answer after) :
    holds after := by
  obtain ⟨effect, part, log, -⟩ := answered
  obtain ⟨same, lasting⟩ := same_of_effect (persists.lasting before held) effect notSave
  exact persists.persists before after held same lasting ⟨part, log⟩

/-- Where such a property is fine, any question may be asked but to save. -/
theorem Persists.bears (persists : Persists ttl holds) (isFine : ∀ track, holds track → fine track)
    (session : String) : Bears (heedful ttl details tools chain fine) session holds := by
  intro track question held _ notSave
  constructor
  · exact fun _ => isFine track held
  · exact fun answer after answered => persists.answered held notSave answered

/-- Every part of the run is in the log. -/
theorem keeps_recorded (program : ExchangeProgram wholeCalls α) (track : Track η H) :
    program.run.Keeps { asks := fun _ _ => True, answers := wholeAnswers ttl details tools chain }
      (fun result after => ∃ part, after.log = track.log ++ part ∧
        Runs (unfold details tools chain program).run part result) track :=
  keeps_logged Track.log (fun _ _ _ _ answered => answered.2) program track

/-- If a save fails, all is kept. -/
theorem final_saveTurns (persists : Persists ttl holds) (session : String) (turns : Transcript) :
    Final (heedful ttl details tools chain fine) holds (saveTurns session turns) := by
  intro track held
  rw [saveTurns, keeps_run_bind]
  apply keeps_save.2
  constructor
  · exact fun waits => absurd waits Bool.false_ne_true
  · intro answer after answered
    cases answer with
    | ok _ =>
        apply keeps_report.2
        constructor
        · exact fun waits => absurd waits Bool.false_ne_true
        · intro _ _ _ _ failed
          contradiction
    | error fault =>
        intro _ _
        obtain ⟨⟨now, may⟩, part, log, -⟩ := answered
        obtain ⟨lasting, same⟩ := Backend.kept_of_maySave (persists.lasting track held) may
        exact persists.persists track after held same lasting ⟨part, log⟩

end Heedful

/-! ### The invariant of an exchange -/

section Settled

variable {ttl : Option Duration} {plan : Plan η} {tools : Toolset η} {chain : Chain η H}
  {session : String} {base : Backend} {track : Track η H}

/-- Nothing has been changed since `base`. -/
def Untouched (ttl : Option Duration) (base : Backend) (track : Track η H) : Prop :=
  track.backend.WithoutExpiry ttl ∧ Backend.Same base track.backend

/-- The log has a run of the opening, after which what was stored and the turns of the opening were
saved; and that is what is stored. -/
def OpeningSaved (plan : Plan η) (tools : Toolset η) (chain : Chain η H) (session : String)
    (base : Backend) (track : Track η H) : Prop :=
  ∃ opening added earlier part since,
    plan.opening = some opening ∧
    Runs (unfold plan.syntaxDetails tools chain (Opening.run opening tools session)).run part
      (.ok added) ∧
    track.log = earlier ++ part ++
      ⟨.save session (base.stored session ++ added).numbered, Except.ok ()⟩ :: since ∧
    Backend.SameBut session base track.backend ∧
    Backend.Has session (base.stored session ++ added).numbered track.backend

/-- Nothing has been changed, or an opening has been saved. -/
def Settled (ttl : Option Duration) (plan : Plan η) (tools : Toolset η) (chain : Chain η H)
    (session : String) (base : Backend) (track : Track η H) : Prop :=
  track.backend.WithoutExpiry ttl ∧
    (Backend.Same base track.backend ∨ OpeningSaved plan tools chain session base track)

theorem persists_untouched : Persists ttl (Untouched ttl base : Track η H → Prop) where
  lasting _ held := held.1
  persists _ _ held same lasting _ := ⟨lasting, held.2.trans same⟩

theorem persists_settled : Persists ttl (Settled ttl plan tools chain session base) where
  lasting _ held := held.1
  persists := by
    rintro before after ⟨-, untouched | saved⟩ same lasting ⟨more, log⟩
    · exact ⟨lasting, .inl (untouched.trans same)⟩
    · obtain ⟨opening, added, earlier, part, since, isPlanned, runs, logBefore, sameBut, has⟩ :=
        saved
      refine ⟨lasting, .inr ⟨opening, added, earlier, part, since ++ more, isPlanned, runs, ?_,
        sameBut.trans (same.but session), has.same same⟩⟩
      rw [log, logBefore]
      simp

theorem settled_of_untouched (untouched : Untouched ttl base track) :
    Settled ttl plan tools chain session base track :=
  ⟨untouched.1, .inl untouched.2⟩

/-- Saving the turns of an opening that has just been run settles, whether it succeeds or not. -/
theorem settled_saveTurns {opening : OpeningPlan} {added : Transcript} {before : Track η H}
    {part : List (Asked (unfolded η H))} (isPlanned : plan.opening = some opening)
    (runs : Runs (unfold plan.syntaxDetails tools chain (Opening.run opening tools session)).run
      part (.ok added))
    (log : track.log = before.log ++ part) (untouched : Untouched ttl base track) :
    (saveTurns session (base.stored session ++ added)).run.Keeps
      (heedful ttl plan.syntaxDetails tools chain (Settled ttl plan tools chain session base))
      (fun _ after => Settled ttl plan tools chain session base after) track := by
  rw [saveTurns, keeps_run_bind]
  apply keeps_save.2
  constructor
  · exact fun waits => absurd waits Bool.false_ne_true
  · intro answer after answered
    obtain ⟨⟨now, may⟩, asked, logAfter, asks⟩ := answered
    obtain ⟨lasting, kept⟩ := Backend.kept_of_maySave untouched.1 may
    cases answer with
    | ok _ =>
        obtain ⟨sameBut, has⟩ := kept
        have settled : Settled ttl plan tools chain session base after := by
          refine ⟨lasting, .inr ⟨opening, added, before.log, part, [], isPlanned, runs, ?_,
            (untouched.2.but session).trans sameBut, has⟩⟩
          rw [logAfter, log]
          cases asks with
          | ask more => cases more; rfl
        exact clean_report (persists_settled.bears (fun _ held => held) session).suffers _ after settled
    | error fault => exact ⟨lasting, .inl (untouched.2.trans kept)⟩

/-- The opening of a session settles. -/
theorem settled_openSession (untouched : Untouched ttl base track) :
    (openSession plan tools session (base.stored session)).run.Keeps
      (heedful ttl plan.syntaxDetails tools chain (Settled ttl plan tools chain session base))
      (fun _ after => Settled ttl plan tools chain session base after) track := by
  rw [openSession]
  split
  · exact settled_of_untouched untouched
  · next opening isPlanned =>
      split
      · rw [keeps_run_bind]
        have clean : Clean
            (heedful ttl plan.syntaxDetails tools chain
              (Settled ttl plan tools chain session base))
            (Untouched ttl base) (Opening.run opening tools session) :=
          clean_opening (persists_untouched.bears (fun _ => settled_of_untouched) session).suffers
            opening tools session
        apply ((clean track untouched).and (keeps_recorded _ track)).mono
        rintro result after ⟨untouchedAfter, part, log, runs⟩
        cases result with
        | error fault => exact settled_of_untouched untouchedAfter
        | ok added =>
            dsimp only
            split
            · exact settled_of_untouched untouchedAfter
            · rw [keeps_run_bind]
              apply (settled_saveTurns isPlanned runs log untouchedAfter).mono
              intro result final settled
              cases result with
              | ok _ => exact settled
              | error fault => exact settled
      · exact settled_of_untouched untouched

/-- What is loaded before anything has been changed is what was stored. -/
theorem untouched_load (untouched : Untouched ttl base track) (session : String) :
    (load session).run.Keeps
      (heedful ttl plan.syntaxDetails tools chain (Settled ttl plan tools chain session base))
      (fun result after => Untouched ttl base after ∧
        ∀ turns, result = .ok turns → turns = base.stored session) track := by
  apply keeps_load.2
  constructor
  · exact fun _ => settled_of_untouched untouched
  · intro answer after answered
    have kept := persists_untouched.answered untouched rfl answered
    obtain ⟨⟨now, may⟩, -⟩ := answered
    obtain ⟨-, -, isStored⟩ := Backend.kept_of_mayLoad untouched.1 may
    refine ⟨kept, ?_⟩
    intro turns loaded
    exact (isStored turns loaded).trans (untouched.2.transcripts session).stored

variable (chain) in
/-- An exchange that fails is settled, and so is one whenever it makes somebody wait. -/
theorem settled_runWith (reuses : Bool) (plan : Plan η) (input : Input)
    (untouched : Untouched ttl base track) :
    let settled := Settled ttl plan (plan.catalog.toolset input.subset) chain input.session base
    (runWith reuses plan input).run.Keeps
      (heedful ttl plan.syntaxDetails (plan.catalog.toolset input.subset) chain settled)
      (fun result after => ∀ fault, result = .error fault → settled after) track := by
  intro settled
  have isFine : ∀ track, Untouched ttl base track → settled track := fun _ => settled_of_untouched
  rw [runWith, keeps_run_bind]
  apply (clean_secure (persists_untouched.bears isFine input.session) _ _ _ track untouched).mono
  intro passed checked untouchedChecked
  cases passed with
  | error fault => exact fun _ _ => isFine checked untouchedChecked
  | ok _ =>
      dsimp only
      rw [keeps_run_bind]
      apply (untouched_load untouchedChecked input.session).mono
      rintro stored loaded ⟨untouchedLoaded, isStored⟩
      cases stored with
      | error fault => exact fun _ _ => isFine loaded untouchedLoaded
      | ok stored =>
          cases isStored stored rfl
          dsimp only
          rw [keeps_run_bind]
          apply (settled_openSession untouchedLoaded).mono
          intro opened after settledAfter
          cases opened with
          | error fault => exact fun _ _ => settledAfter
          | ok turns =>
              -- From here on nothing is saved but at the very end.
              have bears : Bears
                  (heedful ttl plan.syntaxDetails (plan.catalog.toolset input.subset) chain settled)
                  input.session settled := persists_settled.bears (fun _ held => held) _
              revert settledAfter
              apply (clean_loadNotes bears).bindFinal
              intro notes
              apply (clean_today bears).bindFinal
              intro date
              apply final_loop bears (final_saveTurns persists_settled input.session)
              rfl

end Settled

/-! ### Unfolded calls -/

section Unfolded

variable {ttl : Option Duration} {fine : Track η H → Prop}

/-- Nobody is made to wait unless all is fine, inside a call or outside. -/
def patient (ttl : Option Duration) (fine : Track η H → Prop) :
    Contract (unfolded η H) (Track η H) where
  asks track question := question.mayWait = true → fine track
  answers := answers ttl

/-- The questions of a call leave all that is stored alone. -/
theorem patient_embedCall (persists : Persists ttl fine) (program : CallProgram η H α)
    (track : Track η H) (isFine : fine track) :
    (embedCall program).Keeps (patient ttl fine)
      (fun result after => (fine after ∧ after.backend = track.backend) ∧
        ∃ part, after.log = track.log ++ part ∧ Runs (embedCall program) part result) track := by
  have fineAfter : ∀ state question answer after, fine state ∧ state.backend = track.backend →
      (patient ttl fine).answers (.call question) state answer after →
        (fine after ∧ after.backend = track.backend) ∧
          after.log = state.log ++ [⟨.call question, answer⟩] := by
    rintro state question answer ⟨backend, log⟩ ⟨isFine, same⟩ ⟨still, logEq⟩
    cases still
    refine ⟨⟨?_, same⟩, logEq⟩
    exact persists.persists state _ isFine (.refl state.backend) (persists.lasting state isFine)
      ⟨_, logEq⟩
  exact keeps_embedCall_logged Track.log (fun _ _ held _ => held.1) fineAfter program track
    ⟨isFine, rfl⟩

/-- What is kept with whole calls is kept with unfolded ones. -/
theorem patient_unfold (persists : Persists ttl fine) {details : String → String}
    {tools : Toolset η} {chain : Chain η H} {program : ExchangeProgram wholeCalls α}
    {post : Except Fault α → Track η H → Prop} {track : Track η H}
    (keeps : program.run.Keeps (heedful ttl details tools chain fine) post track) :
    (unfold details tools chain program).run.Keeps (patient ttl fine) post track := by
  apply keeps_unfold keeps
  intro question before asks
  cases question with
  | call call =>
      apply (patient_embedCall persists _ before (asks rfl)).mono
      rintro outcome after ⟨⟨-, backendEq⟩, recorded⟩
      exact ⟨backendEq, recorded⟩
  | secure => exact ⟨asks, fun _ _ ⟨effect, log⟩ => ⟨effect, _, log, .ask (.done _)⟩⟩
  | load => exact ⟨asks, fun _ _ ⟨effect, log⟩ => ⟨effect, _, log, .ask (.done _)⟩⟩
  | save => exact ⟨asks, fun _ _ ⟨effect, log⟩ => ⟨effect, _, log, .ask (.done _)⟩⟩
  | loadNotes => exact ⟨asks, fun _ _ ⟨effect, log⟩ => ⟨effect, _, log, .ask (.done _)⟩⟩
  | report => exact ⟨asks, fun _ _ ⟨effect, log⟩ => ⟨effect, _, log, .ask (.done _)⟩⟩
  | isCancelled => exact ⟨asks, fun _ _ ⟨effect, log⟩ => ⟨effect, _, log, .ask (.done _)⟩⟩
  | today => exact ⟨asks, fun _ _ ⟨effect, log⟩ => ⟨effect, _, log, .ask (.done _)⟩⟩
  | complete => exact ⟨asks, fun _ _ ⟨effect, log⟩ => ⟨effect, _, log, .ask (.done _)⟩⟩

end Unfolded

end Exchange

end Parley
