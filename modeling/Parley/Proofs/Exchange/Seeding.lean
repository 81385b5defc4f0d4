/-
Module: Parley.Proofs.Exchange.Seeding
Layer: Proofs
Purpose: What an exchange does to the opening of its session.  An exchange that finds turns of the
  user or the assistant makes no call before it has loaded the system messages; one that finds none
  may run the opening and save its turns, which are then all that is stored.  Whatever is shown to
  the model or saved after that begins with what the exchange has found or saved.  So openings stay
  at the head of the session, and only an exchange that finds nothing adds one.
Main exports: Transcript.LedBy, Exchange.Minutes, Exchange.isPast, Exchange.JustRun,
  Exchange.Seeded, Exchange.OpenedOnce, Exchange.seeding, Exchange.seeding_runWith,
  Exchange.seeding_unfold, Exchange.OpenedOnce.entered
-/
import Parley.Proofs.Exchange.Parts
import Parley.Proofs.Program.Runs

namespace Parley

open Program (Asked Runs keeps_run_bind runs_query_iff runs_run_bind runs_run_pure runs_embed_iff)

variable {C H : Interface} {η : Type}

namespace Transcript

variable {role : Role} {turns whole : Transcript}

/-- The first turn has a role. -/
def LedBy (role : Role) (turns : Transcript) : Prop :=
  ∃ first, turns.head? = some first ∧ first.role = role

theorem LedBy.grow (led : LedBy role turns) (starts : turns <+: whole) : LedBy role whole := by
  obtain ⟨rest, rfl⟩ := starts
  obtain ⟨first, isFirst, isRole⟩ := led
  exact ⟨first, by simp [isFirst], isRole⟩

theorem LedBy.numbered (led : LedBy role turns) : LedBy role turns.numbered := by
  obtain ⟨first, isFirst, isRole⟩ := led
  obtain ⟨rest, rfl⟩ := List.head?_eq_some_iff.1 isFirst
  exact ⟨{ first with id := 1 }, rfl, isRole⟩

theorem numbered_starts (starts : turns <+: whole) : turns.numbered <+: whole.numbered := by
  obtain ⟨rest, rfl⟩ := starts
  rw [Transcript.numbered, Transcript.numbered, List.zipIdx_append, List.map_append]
  exact List.prefix_append _ _

theorem numbered_idem (turns : Transcript) : turns.numbered.numbered = turns.numbered := by
  apply List.ext_getElem
  · simp
  · intro index _ _
    simp [Transcript.numbered]

/-- Where an opening applies, neither the user nor the assistant has spoken first. -/
theorem not_ledBy_of_applies {plan : OpeningPlan} {session : String}
    (applies : plan.applies turns session = true) :
    ¬turns.LedBy .user ∧ ¬turns.LedBy .assistant := by
  simp only [OpeningPlan.applies, Bool.and_eq_true, List.all_eq_true, decide_eq_true_eq] at applies
  constructor
  · rintro ⟨first, isFirst, isUser⟩
    exact (applies.2 first (List.mem_of_head? isFirst)).1 isUser
  · rintro ⟨first, isFirst, isAssistant⟩
    exact (applies.2 first (List.mem_of_head? isFirst)).2 isAssistant

end Transcript

namespace ExchangeQuestion

/-- Whether a question asks for the system messages of a session. -/
def asksNotes : ExchangeQuestion C → Bool
  | .loadNotes _ => true
  | _ => false

/-- Whether a question is one of those that calls, and before each of them an opening, ask. -/
def isOfCall : ExchangeQuestion C → Bool
  | .isCancelled => true
  | .call _ => true
  | _ => false

end ExchangeQuestion

namespace Exchange

/-- Whether an exchange is past its opening: it has asked for the system messages. -/
def isPast (log : List (Asked (unfolded η H))) : Bool :=
  log.any fun asked => asked.question.asksNotes

/-- What is stored for a session, the openings that were saved for it, and what the exchange that
runs there has asked. -/
structure Minutes (η : Type) (H : Interface) where
  stored : Transcript
  openings : List Transcript
  log : List (Asked (unfolded η H))

/-- The openings stand at the head of some turns; where there is none, the user speaks first. -/
structure Seeded (openings : List Transcript) (turns : Transcript) : Prop where
  heads : ∀ opening ∈ openings, opening <+: turns
  unopened : openings = [] → turns = [] ∨ turns.LedBy .user

/-- At most one opening was saved for what is stored; it begins with a turn of the assistant, and
what is stored begins with it. -/
structure OpenedOnce (openings : List Transcript) (stored : Transcript) : Prop where
  single : openings.length ≤ 1
  opens : ∀ opening ∈ openings, opening.LedBy .assistant ∧ opening.numbered = opening
  seeded : Seeded openings stored

section Seeded

variable {openings : List Transcript} {turns whole stored : Transcript}

/-- Turns that are not empty may be followed by any others. -/
theorem Seeded.grow (seeded : Seeded openings turns) (nonempty : turns ≠ [])
    (starts : turns <+: whole) : Seeded openings whole where
  heads opening member := (seeded.heads opening member).trans starts
  unopened none := .inr (((seeded.unopened none).resolve_left nonempty).grow starts)

/-- A message of the user may follow. -/
theorem Seeded.message (seeded : Seeded openings turns.numbered) (content : String) :
    Seeded openings (turns ++ [Turn.plain .user content]).numbered := by
  have starts := Transcript.numbered_starts (List.prefix_append turns [Turn.plain .user content])
  constructor
  · exact fun opening member => (seeded.heads opening member).trans starts
  · intro none
    right
    cases turns with
    | nil => exact ⟨_, rfl, rfl⟩
    | cons first rest =>
        have nonempty : Transcript.numbered (first :: rest) ≠ [] := List.cons_ne_nil _ _
        exact ((seeded.unopened none).resolve_left nonempty).grow starts

theorem OpenedOnce.seeded_numbered (once : OpenedOnce openings stored) :
    Seeded openings stored.numbered where
  heads opening member := by
    rw [← (once.opens opening member).2]
    exact Transcript.numbered_starts (once.seeded.heads opening member)
  unopened none := (once.seeded.unopened none).imp (congrArg Transcript.numbered) (·.numbered)

/-- An opening applies to nothing but an empty transcript without an opening. -/
theorem OpenedOnce.blank (once : OpenedOnce openings stored) {plan : OpeningPlan}
    {session : String} (applies : plan.applies stored session = true) :
    stored = [] ∧ openings = [] := by
  obtain ⟨notUser, notAssistant⟩ := Transcript.not_ledBy_of_applies applies
  have none : openings = [] := by
    apply List.eq_nil_iff_forall_not_mem.2
    intro opening member
    exact notAssistant ((once.opens opening member).1.grow (once.seeded.heads opening member))
  exact ⟨(once.seeded.unopened none).resolve_right notUser, none⟩

theorem openedOnce_nil : OpenedOnce [] [] where
  single := Nat.zero_le 1
  opens _ member := absurd member List.not_mem_nil
  seeded :=
    { heads := fun _ member => absurd member List.not_mem_nil
      unopened := fun _ => .inl rfl }

/-- The opening of an empty session has been saved. -/
theorem openedOnce_saved (led : turns.LedBy .assistant) :
    OpenedOnce [turns.numbered] turns.numbered where
  single := Nat.le_refl 1
  opens opening member := by
    rw [List.mem_singleton.1 member]
    exact ⟨led.numbered, Transcript.numbered_idem turns⟩
  seeded :=
    { heads := fun opening member => List.mem_singleton.1 member ▸ List.prefix_refl _
      unopened := fun none => absurd none (List.cons_ne_nil _ _) }

end Seeded

/-! ### What an exchange may ask -/

section Seeding

variable (plan : Plan η) (tools : Toolset η) (chain : Chain η H) (session : String)

/-- The last part of a log is a run of the opening, and these are its turns, numbered. -/
def JustRun (log : List (Asked (unfolded η H))) (turns : Transcript) : Prop :=
  ∃ opening added before part,
    plan.opening = some opening ∧ added.LedBy .assistant ∧ turns = added.numbered ∧
      log = before ++ part ∧
      Runs (unfold plan.syntaxDetails tools chain (Opening.run opening tools session)).run part
        (.ok added)

/-- Before the system messages are loaded, calls are made only if no opening was saved, and nothing
is saved but the turns of an opening that has just been run.  After that, all that is saved keeps
the openings at its head, and so does all that the model is shown. -/
def Minutes.Permits (minutes : Minutes η H) : ExchangeQuestion C → Prop
  | .load other => other = session
  | .save other turns =>
      other = session ∧
        if isPast minutes.log then Seeded minutes.openings turns
        else minutes.openings = [] ∧ JustRun plan tools chain session minutes.log turns
  | .complete request => Seeded minutes.openings request.transcript.numbered
  | .isCancelled => minutes.openings = [] ∨ isPast minutes.log = true
  | .call _ => minutes.openings = [] ∨ isPast minutes.log = true
  | _ => True

/-- Loading gives what is stored, and saving succeeds; what is saved before the system messages are
loaded is an opening. -/
def Entered : (question : ExchangeQuestion C) → Minutes η H → question.Answer → Minutes η H → Prop
  | .load _, before, answer, after =>
      answer = .ok before.stored ∧ after.stored = before.stored ∧
        after.openings = before.openings
  | .save _ turns, before, answer, after =>
      answer = .ok () ∧ after.stored = turns ∧
        after.openings =
          if isPast before.log then before.openings else before.openings ++ [turns]
  | _, before, _, after => after.stored = before.stored ∧ after.openings = before.openings

/-- What an exchange of a session may ask, whatever it is answered, if its session is stored in
memory for ever. -/
def seeding : Contract (unfolded η H) (Minutes η H) where
  asks minutes question := minutes.Permits plan tools chain session question
  answers question before answer after :=
    Entered question before answer after ∧ after.log = before.log ++ [⟨question, answer⟩]

/-- The same where a whole call is one question: its part of the log is a run of the call. -/
def wholeSeeding : Contract (exchangeInterface wholeCalls) (Minutes η H) where
  asks minutes question := minutes.Permits plan tools chain session question
  answers question before answer after :=
    Entered question before answer after ∧
      ∃ part, after.log = before.log ++ part ∧
        Runs (unfoldQuestion plan.syntaxDetails tools chain question) part answer

end Seeding

/-! ### Parts -/

section Parts

variable {plan : Plan η} {tools : Toolset η} {chain : Chain η H} {session : String}
  {minutes before after : Minutes η H} {start : Transcript}

theorem isPast_append (first second : List (Asked (unfolded η H))) :
    isPast (first ++ second) = (isPast first || isPast second) := List.any_append

theorem isPast_embedCall {α : Type} {program : CallProgram η H α}
    {part : List (Asked (unfolded η H))} {result : α}
    (runs : Runs (embedCall program) part result) : isPast part = false := by
  induction program generalizing part with
  | done value =>
      obtain ⟨rfl, -⟩ := Program.runs_done_iff.1 runs
      rfl
  | ask question next ih =>
      obtain ⟨answer, rest, rfl, runsOn⟩ := Program.runs_ask_iff.1 runs
      have none : isPast rest = false := ih answer runsOn
      exact none

/-- Only the question for the system messages makes an exchange past its opening. -/
theorem isPast_part {question : ExchangeQuestion wholeCalls} {answer : question.Answer}
    {part : List (Asked (unfolded η H))}
    (runs : Runs (unfoldQuestion plan.syntaxDetails tools chain question) part answer) :
    isPast part = question.asksNotes := by
  cases question with
  | call call => exact isPast_embedCall runs
  | secure => rw [runs_query_iff.1 runs]; rfl
  | load => rw [runs_query_iff.1 runs]; rfl
  | save => rw [runs_query_iff.1 runs]; rfl
  | loadNotes => rw [runs_query_iff.1 runs]; rfl
  | report => rw [runs_query_iff.1 runs]; rfl
  | isCancelled => rw [runs_query_iff.1 runs]; rfl
  | today => rw [runs_query_iff.1 runs]; rfl
  | complete => rw [runs_query_iff.1 runs]; rfl

/-- What two minutes have in common between which nothing was saved. -/
structure Still (before after : Minutes η H) : Prop where
  stored : after.stored = before.stored
  openings : after.openings = before.openings

theorem still_of_entered {question : ExchangeQuestion C} {answer : question.Answer}
    (entered : Entered question before answer after) (notSave : question.asksToSave = false) :
    Still before after := by
  cases question with
  | load => exact ⟨entered.2.1, entered.2.2⟩
  | save => contradiction
  | _ => exact ⟨entered.1, entered.2⟩

/-- What is not a question to save changes nothing, and only one for the system messages makes an
exchange past its opening. -/
theorem still_of_answered {question : ExchangeQuestion wholeCalls} {answer : question.Answer}
    (answered : (wholeSeeding plan tools chain session).answers question before answer after)
    (notSave : question.asksToSave = false) :
    Still before after ∧ isPast after.log = (isPast before.log || question.asksNotes) := by
  obtain ⟨entered, part, logEq, runs⟩ := answered
  refine ⟨still_of_entered entered notSave, ?_⟩
  rw [logEq, isPast_append, isPast_part runs]

theorem unmoved_of_answered {question : ExchangeQuestion wholeCalls} {answer : question.Answer}
    (answered : (wholeSeeding plan tools chain session).answers question before answer after)
    (notSave : question.asksToSave = false) (notNotes : question.asksNotes = false) :
    Still before after ∧ isPast after.log = isPast before.log := by
  obtain ⟨still, past⟩ := still_of_answered answered notSave
  rw [notNotes, Bool.or_false] at past
  exact ⟨still, past⟩

/-- Calls may be made while a property holds under which they are permitted, and which looks only at
what they leave as it is. -/
theorem suffers_of {holds : Minutes η H → Prop}
    (permits : ∀ minutes, holds minutes → minutes.openings = [] ∨ isPast minutes.log = true)
    (keeps : ∀ before after, holds before → Still before after →
      isPast after.log = isPast before.log → holds after) :
    Suffers (wholeSeeding plan tools chain session) holds := by
  intro minutes question held isMinor
  have answered : question.asksToSave = false → question.asksNotes = false →
      ∀ answer after,
        (wholeSeeding plan tools chain session).answers question minutes answer after →
          holds after := by
    intro notSave notNotes answer after given
    obtain ⟨still, past⟩ := unmoved_of_answered given notSave notNotes
    exact keeps minutes after held still past
  cases question with
  | report => exact ⟨trivial, answered rfl rfl⟩
  | isCancelled => exact ⟨permits minutes held, answered rfl rfl⟩
  | call => exact ⟨permits minutes held, answered rfl rfl⟩
  | _ => contradiction

end Parts

/-! ### The opening -/

section Opening

variable {plan : Plan η} {tools : Toolset η} {chain : Chain η H} {session : String}
  {minutes before after : Minutes η H} {start : Transcript}

/-- Nothing is stored, and the exchange is not past its opening. -/
structure Blank (minutes : Minutes η H) : Prop where
  early : isPast minutes.log = false
  stored : minutes.stored = []
  openings : minutes.openings = []

/-- An exchange goes on with some turns, with the openings at their head. -/
structure Starts (turns : Transcript) (minutes : Minutes η H) : Prop where
  once : OpenedOnce minutes.openings minutes.stored
  seeded : Seeded minutes.openings turns.numbered

theorem Starts.still {turns : Transcript} (starts : Starts turns before)
    (still : Still before after) : Starts turns after := by
  constructor
  · rw [still.openings, still.stored]
    exact starts.once
  · rw [still.openings]
    exact starts.seeded

theorem suffers_blank : Suffers (wholeSeeding plan tools chain session) Blank := by
  apply suffers_of
  · exact fun _ blank => .inl blank.openings
  · intro before after blank still past
    exact ⟨past.trans blank.early, still.stored.trans blank.stored,
      still.openings.trans blank.openings⟩

/-- All that is asked is written down. -/
theorem keeps_written {α : Type} (program : ExchangeProgram wholeCalls α)
    (minutes : Minutes η H) :
    program.run.Keeps { wholeSeeding plan tools chain session with asks := fun _ _ => True }
      (fun result after => ∃ part, after.log = minutes.log ++ part ∧
        Runs (unfold plan.syntaxDetails tools chain program).run part result) minutes :=
  keeps_logged Minutes.log (fun _ _ _ _ answered => answered.2) program minutes

/-- The turns of an opening begin with one of the assistant. -/
theorem led_of_runs_opening {opening : OpeningPlan} {added : Transcript}
    {log : List (Asked (exchangeInterface wholeCalls))}
    (runs : Runs (Opening.run opening tools session).run log (.ok added)) :
    added = [] ∨ added.LedBy .assistant := by
  rw [Opening.run] at runs
  dsimp only at runs
  split at runs
  · obtain ⟨-, same⟩ := runs_run_pure runs
    cases same
    exact .inl rfl
  · rcases runs_run_bind runs with ⟨fault, same, -⟩ | ⟨before, made, after, -, -, rest⟩
    · contradiction
    · rcases runs_run_bind rest with ⟨fault, same, -⟩ | ⟨middle, _, last, -, -, ends⟩
      · contradiction
      · obtain ⟨-, same⟩ := runs_run_pure ends
        cases same
        exact .inr ⟨_, rfl, rfl⟩

theorem keeps_report_starts {turns : Transcript} (starts : Starts turns minutes) (event : Event) :
    (report event).run.Keeps (wholeSeeding plan tools chain session)
      (fun _ after => Starts turns after) minutes := by
  apply keeps_report.2
  refine ⟨trivial, ?_⟩
  intro answer after answered
  exact starts.still (still_of_answered answered rfl).1

/-- The turns of an opening that has just been run are saved. -/
theorem starts_saveTurns {added : Transcript} (blank : Blank minutes)
    (led : added.LedBy .assistant)
    (justRun : JustRun plan tools chain session minutes.log added.numbered) :
    (saveTurns session added).run.Keeps (wholeSeeding plan tools chain session)
      (fun _ after => Starts added after) minutes := by
  rw [saveTurns, keeps_run_bind]
  apply keeps_save.2
  constructor
  · refine ⟨rfl, ?_⟩
    rw [blank.early]
    exact ⟨blank.openings, justRun⟩
  · rintro answer after ⟨⟨saved, storedEq, openingsEq⟩, -⟩
    rw [blank.early, blank.openings] at openingsEq
    have openings : after.openings = [added.numbered] := openingsEq
    have starts : Starts added after := by
      constructor
      · rw [openings, storedEq]
        exact openedOnce_saved led
      · rw [openings]
        exact (openedOnce_saved led).seeded
    rw [saved]
    exact keeps_report_starts starts _

/-- An exchange starts with what it has found, or with the turns of an opening. -/
theorem starts_openSession (early : isPast minutes.log = false)
    (once : OpenedOnce minutes.openings minutes.stored) :
    (openSession plan tools session minutes.stored).run.Keeps
      (wholeSeeding plan tools chain session)
      (fun result after => ∀ turns, result = .ok turns → Starts turns after) minutes := by
  have unopened : Starts minutes.stored minutes := ⟨once, once.seeded_numbered⟩
  rw [openSession]
  split
  · rintro turns ⟨⟩
    exact unopened
  · next opening isPlanned =>
      split
      · next applies =>
          obtain ⟨isEmpty, none⟩ := once.blank applies
          have blank : Blank minutes := ⟨early, isEmpty, none⟩
          rw [isEmpty, keeps_run_bind]
          apply ((clean_opening suffers_blank opening tools session minutes blank).and
            (keeps_written _ minutes)).mono
          rintro result after ⟨blankAfter, part, logEq, runs⟩
          cases result with
          | error fault =>
              intro turns failed
              contradiction
          | ok added =>
              dsimp only
              split
              · rintro turns ⟨⟩
                constructor
                · rw [blankAfter.openings, blankAfter.stored]
                  exact openedOnce_nil
                · rw [blankAfter.openings]
                  exact openedOnce_nil.seeded_numbered
              · next nonempty =>
                  obtain ⟨log, runsWhole, -⟩ := runs_embed_iff.1 runs
                  have led := (led_of_runs_opening runsWhole).resolve_left
                    fun none => nonempty (List.isEmpty_iff.2 none)
                  rw [List.nil_append, keeps_run_bind]
                  apply (starts_saveTurns blankAfter led
                    ⟨opening, added, _, part, isPlanned, led, rfl, logEq, runs⟩).mono
                  intro saved final starts
                  cases saved with
                  | error fault =>
                      intro turns failed
                      contradiction
                  | ok _ =>
                      rintro turns ⟨⟩
                      exact starts
      · rintro turns ⟨⟩
        exact unopened

end Opening

/-! ### After the opening -/

section After

variable {plan : Plan η} {tools : Toolset η} {chain : Chain η H} {session : String}
  {minutes before after : Minutes η H} {start turns : Transcript}

/-- An exchange past its opening goes on from some turns. -/
structure GoesOn (start : Transcript) (minutes : Minutes η H) : Prop where
  past : isPast minutes.log = true
  nonempty : start ≠ []
  starts : Starts start minutes

theorem GoesOn.still (goesOn : GoesOn start before) (still : Still before after)
    (past : isPast after.log = isPast before.log) : GoesOn start after :=
  ⟨past.trans goesOn.past, goesOn.nonempty, goesOn.starts.still still⟩

theorem GoesOn.seeded (goesOn : GoesOn start minutes) (begins : start <+: turns) :
    Seeded minutes.openings turns.numbered := by
  apply goesOn.starts.seeded.grow
  · intro none
    exact goesOn.nonempty (List.eq_nil_of_length_eq_zero
      ((Transcript.length_numbered start).symm.trans (congrArg List.length none)))
  · exact Transcript.numbered_starts begins

theorem suffers_goesOn : Suffers (wholeSeeding plan tools chain session) (GoesOn start) :=
  suffers_of (fun _ goesOn => .inr goesOn.past) fun _ _ goesOn => goesOn.still

theorem clean_complete_goesOn {request : ModelRequest} (begins : start <+: request.transcript) :
    Clean (wholeSeeding plan tools chain session) (GoesOn start) (complete request) := by
  intro minutes goesOn
  apply keeps_complete.2
  refine ⟨goesOn.seeded begins, ?_⟩
  intro answer after answered
  obtain ⟨still, past⟩ := unmoved_of_answered answered rfl rfl
  exact goesOn.still still past

theorem clean_inFormat_goesOn (frame : Frame η) (begins : start <+: turns) (reply : Turn) :
    Clean (wholeSeeding plan tools chain session) (GoesOn start) (inFormat frame turns reply) := by
  rw [inFormat]
  split
  · exact .pure _
  · apply (clean_report suffers_goesOn _).bind
    intro _
    apply (clean_checkCancelled suffers_goesOn).bind
    intro _
    apply (clean_complete_goesOn (begins.trans (List.prefix_append _ _))).bind
    exact fun _ => .pure _

/-- What is saved keeps the openings at its head, so it can be what is stored. -/
theorem clean_saveTurns_goesOn (begins : start <+: turns) :
    Clean (wholeSeeding plan tools chain session) (GoesOn start) (saveTurns session turns) := by
  intro minutes goesOn
  rw [saveTurns, keeps_run_bind]
  apply keeps_save.2
  have seeded := goesOn.seeded begins
  constructor
  · refine ⟨rfl, ?_⟩
    rw [goesOn.past]
    exact seeded
  · rintro answer after ⟨⟨saved, storedEq, openingsEq⟩, part, logEq, -⟩
    rw [goesOn.past] at openingsEq
    have same : after.openings = minutes.openings := openingsEq
    have goesOnAfter : GoesOn start after := by
      refine ⟨?_, goesOn.nonempty, ?_, ?_⟩
      · rw [logEq, isPast_append, goesOn.past]
        rfl
      · rw [same, storedEq]
        exact ⟨goesOn.starts.once.single, goesOn.starts.once.opens, seeded⟩
      · rw [same]
        exact goesOn.starts.seeded
    rw [saved]
    exact clean_report suffers_goesOn _ after goesOnAfter

theorem clean_finish_goesOn {frame : Frame η} (isSession : frame.desk.session = session)
    (begins : start <+: turns) (text : String) (rounds : Nat) (fallback : Bool) :
    Clean (wholeSeeding plan tools chain session) (GoesOn start)
      (finish frame turns text rounds fallback) := by
  subst isSession
  apply (clean_saveTurns_goesOn begins).bind
  exact fun _ => .pure _

theorem clean_answer_goesOn {frame : Frame η} (isSession : frame.desk.session = session)
    (begins : start <+: turns) (rounds : Nat) (reply : Turn) :
    Clean (wholeSeeding plan tools chain session) (GoesOn start)
      (answer frame rounds turns reply) := by
  apply (clean_inFormat_goesOn frame begins reply).bind
  intro final
  exact clean_finish_goesOn isSession (begins.trans (List.prefix_append _ _)) _ _ _

/-- However many rounds there are, the turns of each begin with those at the start. -/
theorem clean_loop_goesOn {frame : Frame η} (isSession : frame.desk.session = session)
    (begins : start <+: turns) (rounds : Nat) (progress : Progress) (left : Nat) :
    Clean (wholeSeeding plan tools chain session) (GoesOn start)
      (loop frame rounds turns progress left) := by
  induction left generalizing rounds turns progress with
  | zero =>
      apply (clean_checkCancelled suffers_goesOn).bind
      intro _
      apply (clean_complete_goesOn begins).bind
      intro reply
      split
      · apply (clean_report suffers_goesOn _).bind
        exact fun _ => .throw _
      · exact clean_answer_goesOn isSession begins rounds reply
  | succ left ih =>
      apply (clean_checkCancelled suffers_goesOn).bind
      intro _
      apply (clean_complete_goesOn begins).bind
      intro reply
      split
      · apply (clean_runRound suffers_goesOn frame (rounds + 1) progress reply).bind
        intro added
        have grown : start <+: turns ++ added.1 := begins.trans (List.prefix_append _ _)
        dsimp only
        split
        · apply (clean_report suffers_goesOn _).bind
          intro _
          exact clean_finish_goesOn isSession (grown.trans (List.prefix_append _ _)) _ _ _
        · exact ih grown _ _
      · exact clean_answer_goesOn isSession begins rounds reply

end After

/-! ### A whole exchange -/

section Whole

variable {minutes : Minutes η H}

section Parts

variable {plan : Plan η} {tools : Toolset η} {chain : Chain η H} {session : String}

/-- Once the system messages are loaded, an exchange is past its opening. -/
theorem keeps_loadNotes_starts {turns : Transcript} (starts : Starts turns minutes) :
    (loadNotes session).run.Keeps (wholeSeeding plan tools chain session)
      (fun _ after => isPast after.log = true ∧ Starts turns after) minutes := by
  apply keeps_loadNotes.2
  refine ⟨trivial, ?_⟩
  intro answer after answered
  obtain ⟨still, past⟩ := still_of_answered answered rfl
  refine ⟨?_, starts.still still⟩
  rw [past]
  exact Bool.or_true _

theorem keeps_today_starts {turns : Transcript} (past : isPast minutes.log = true)
    (starts : Starts turns minutes) :
    today.run.Keeps (wholeSeeding plan tools chain session)
      (fun _ after => isPast after.log = true ∧ Starts turns after) minutes := by
  apply keeps_today.2
  refine ⟨trivial, ?_⟩
  intro answer after answered
  obtain ⟨still, same⟩ := unmoved_of_answered answered rfl rfl
  exact ⟨same.trans past, starts.still still⟩

/-- The rounds of an exchange start with the message of the user. -/
theorem keeps_loop_starts {turns : Transcript} (past : isPast minutes.log = true)
    (starts : Starts turns minutes) {frame : Frame η} (isSession : frame.desk.session = session)
    (message : String) (left : Nat) :
    (loop frame 0 (turns ++ [Turn.plain .user message]) .start left).run.Keeps
      (wholeSeeding plan tools chain session) (fun _ _ => True) minutes := by
  have goesOn : GoesOn (turns ++ [Turn.plain .user message]) minutes :=
    ⟨past, by simp, starts.once, starts.seeded.message message⟩
  apply (clean_loop_goesOn isSession (List.prefix_refl _) 0 .start left minutes goesOn).mono
  intro _ _ _
  trivial

/-- What has been found is what is stored. -/
theorem keeps_load_once (once : OpenedOnce minutes.openings minutes.stored) :
    (load session).run.Keeps (wholeSeeding plan tools chain session)
      (fun result after => result = .ok after.stored ∧ isPast after.log = isPast minutes.log ∧
        OpenedOnce after.openings after.stored) minutes := by
  apply keeps_load.2
  refine ⟨rfl, ?_⟩
  intro answer after answered
  obtain ⟨⟨storedEq, openingsEq⟩, past⟩ := unmoved_of_answered answered rfl rfl
  obtain ⟨⟨isStored, -⟩, -⟩ := answered
  refine ⟨?_, past, ?_⟩
  · rw [isStored, storedEq]
  · rw [openingsEq, storedEq]
    exact once

end Parts

/-- An exchange that has asked nothing yet asks only what is permitted. -/
theorem seeding_runWith (reuses : Bool) (plan : Plan η) (chain : Chain η H) (input : Input)
    (unasked : minutes.log = []) (once : OpenedOnce minutes.openings minutes.stored) :
    (runWith reuses plan input).run.Keeps
      (wholeSeeding plan (plan.catalog.toolset input.subset) chain input.session)
      (fun _ _ => True) minutes := by
  rw [runWith, keeps_run_bind]
  apply keeps_secure.2
  refine ⟨trivial, ?_⟩
  intro passed checked secured
  obtain ⟨⟨storedEq, openingsEq⟩, past⟩ := unmoved_of_answered secured rfl rfl
  have early : isPast checked.log = false := by
    rw [past, unasked]
    rfl
  rw [← openingsEq, ← storedEq] at once
  cases passed with
  | error fault => trivial
  | ok _ =>
      dsimp only
      rw [keeps_run_bind]
      apply (keeps_load_once once).mono
      rintro _ loaded ⟨rfl, pastLoaded, onceLoaded⟩
      dsimp only
      rw [keeps_run_bind]
      apply (starts_openSession (pastLoaded.trans early) onceLoaded).mono
      intro opened prepared starts
      cases opened with
      | error fault => trivial
      | ok turns =>
          dsimp only
          rw [keeps_run_bind]
          apply (keeps_loadNotes_starts (starts turns rfl)).mono
          rintro notes noted ⟨pastNoted, startsNoted⟩
          cases notes with
          | error fault => trivial
          | ok notes =>
              dsimp only
              rw [keeps_run_bind]
              apply (keeps_today_starts pastNoted startsNoted).mono
              rintro date dated ⟨pastDated, startsDated⟩
              cases date with
              | error fault => trivial
              | ok date =>
                  apply keeps_loop_starts pastDated startsDated
                  rfl

/-- So does an exchange whose calls are unfolded. -/
theorem seeding_unfold {α : Type} {plan : Plan η} {tools : Toolset η} {chain : Chain η H}
    {session : String} {program : ExchangeProgram wholeCalls α}
    {post : Except Fault α → Minutes η H → Prop}
    (keeps : program.run.Keeps (wholeSeeding plan tools chain session) post minutes) :
    (unfold plan.syntaxDetails tools chain program).run.Keeps (seeding plan tools chain session)
      post minutes := by
  apply keeps_unfold keeps
  intro question before asks
  cases question with
  | call call =>
      have answers : ∀ state question answer after,
          (before.openings = [] ∨ isPast state.log = true) ∧ Still before state →
          (seeding plan tools chain session).answers (.call question) state answer after →
            ((before.openings = [] ∨ isPast after.log = true) ∧ Still before after) ∧
              after.log = state.log ++ [⟨.call question, answer⟩] := by
        rintro state question answer after ⟨permitted, still⟩ ⟨⟨storedEq, openingsEq⟩, logEq⟩
        refine ⟨⟨permitted.imp_right fun past => ?_, ?_⟩, logEq⟩
        · rw [logEq, isPast_append, past]
          rfl
        · exact ⟨storedEq.trans still.stored, openingsEq.trans still.openings⟩
      have permits : ∀ state question,
          (before.openings = [] ∨ isPast state.log = true) ∧ Still before state →
            (seeding plan tools chain session).asks state (.call question) := by
        rintro state question ⟨permitted, still⟩
        exact permitted.imp_left still.openings.trans
      apply (keeps_embedCall_logged Minutes.log permits answers
        (Call.run plan.syntaxDetails tools chain call) before ⟨asks, rfl, rfl⟩).mono
      rintro outcome after ⟨⟨-, still⟩, recorded⟩
      exact ⟨⟨still.stored, still.openings⟩, recorded⟩
  | secure => exact ⟨asks, fun _ _ ⟨entered, log⟩ => ⟨entered, _, log, .ask (.done _)⟩⟩
  | load => exact ⟨asks, fun _ _ ⟨entered, log⟩ => ⟨entered, _, log, .ask (.done _)⟩⟩
  | save => exact ⟨asks, fun _ _ ⟨entered, log⟩ => ⟨entered, _, log, .ask (.done _)⟩⟩
  | loadNotes => exact ⟨asks, fun _ _ ⟨entered, log⟩ => ⟨entered, _, log, .ask (.done _)⟩⟩
  | report => exact ⟨asks, fun _ _ ⟨entered, log⟩ => ⟨entered, _, log, .ask (.done _)⟩⟩
  | isCancelled => exact ⟨asks, fun _ _ ⟨entered, log⟩ => ⟨entered, _, log, .ask (.done _)⟩⟩
  | today => exact ⟨asks, fun _ _ ⟨entered, log⟩ => ⟨entered, _, log, .ask (.done _)⟩⟩
  | complete => exact ⟨asks, fun _ _ ⟨entered, log⟩ => ⟨entered, _, log, .ask (.done _)⟩⟩

/-! ### One answer -/

/-- What has been permitted keeps the openings at the head of what is stored. -/
theorem OpenedOnce.entered {plan : Plan η} {tools : Toolset η} {chain : Chain η H}
    {session : String} {question : ExchangeQuestion C} {answer : question.Answer}
    {before after : Minutes η H} (once : OpenedOnce before.openings before.stored)
    (permits : before.Permits plan tools chain session question)
    (entered : Entered question before answer after) :
    OpenedOnce after.openings after.stored := by
  have still : Still before after → OpenedOnce after.openings after.stored := by
    rintro ⟨storedEq, openingsEq⟩
    rw [storedEq, openingsEq]
    exact once
  cases question with
  | save other turns =>
      obtain ⟨-, permits⟩ := permits
      obtain ⟨-, storedEq, openingsEq⟩ := entered
      rw [storedEq, openingsEq]
      split at permits
      · next past =>
          rw [if_pos past]
          exact ⟨once.single, once.opens, permits⟩
      · next early =>
          rw [if_neg early]
          obtain ⟨none, opening, added, earlier, part, -, led, isNumbered, -⟩ := permits
          rw [none, isNumbered]
          exact openedOnce_saved led
  | load => exact still (still_of_entered entered rfl)
  | secure => exact still (still_of_entered entered rfl)
  | loadNotes => exact still (still_of_entered entered rfl)
  | report => exact still (still_of_entered entered rfl)
  | isCancelled => exact still (still_of_entered entered rfl)
  | today => exact still (still_of_entered entered rfl)
  | complete => exact still (still_of_entered entered rfl)
  | call => exact still (still_of_entered entered rfl)

end Whole

end Exchange

end Parley
