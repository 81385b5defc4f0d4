/-
Module: Parley.Proofs.Office.Seeding
Layer: Proofs
Purpose: A session is opened at most once.  Exchanges of one session in an office, between one
  another and whatever their ends, save the turns of an opening only while nothing is stored; these
  then stay the first turns of what is stored, no exchange makes the calls of an opening again, and
  the model is shown nothing without them.  The invariant holds the minutes of the session against
  what the deeds so far say of it; the exchange that has the permit is the only one that adds to them.
Main exports: Office.askedBy, Office.openingsOf, Office.SavedOpening, Office.Tended,
  Office.Tended.move, Office.opened_once
-/
import Parley.Proofs.Exchange.Seeding
import Parley.Proofs.Office.Failure
import Parley.Proofs.Office.Protocol
import Parley.Proofs.Office.Serial

namespace Parley

open Backend (Permanent)
open Exchange (Entered JustRun Minutes OpenedOnce Seeded isPast isPast_append seeding)
open Program (Asked Runs keeps_bind)

variable {η : Type} {H : Interface}

/-- The question of the operation with a ticket that a deed answers. -/
def Deed.asked? (ticket : Nat) : Deed η H → Option (Asked (Exchange.unfolded η H))
  | .answer other asked => if other = ticket then some asked else none
  | _ => none

namespace Office

/-- What the operation with a ticket has asked, with the answers. -/
def askedBy (deeds : List (Deed η H)) (ticket : Nat) : List (Asked (Exchange.unfolded η H)) :=
  deeds.filterMap (Deed.asked? ticket)

end Office

/-- The turns that a deed saves for a session before the system messages are loaded, after some
earlier deeds. -/
def Deed.opening? (session : String) (earlier : List (Deed η H)) : Deed η H → Option Transcript
  | .answer ticket ⟨.save other turns, .ok _⟩ =>
      if other = session ∧ isPast (Office.askedBy earlier ticket) = false then some turns
      else none
  | _ => none

namespace Office

/-- The openings that are saved for a session by some deeds after others. -/
def openingsAfter (session : String) : List (Deed η H) → List (Deed η H) → List Transcript
  | _, [] => []
  | earlier, deed :: deeds =>
      (deed.opening? session earlier).toList ++ openingsAfter session (earlier ++ [deed]) deeds

/-- The openings that were saved for a session, earliest first. -/
def openingsOf (session : String) (deeds : List (Deed η H)) : List Transcript :=
  openingsAfter session [] deeds

/-- Some turns were saved for a session as those of an opening: an exchange of the session had just
run the opening, with the tools that it may call, and these are its turns, numbered. -/
def SavedOpening (plan : Exchange.Plan η) (chain : Chain η H) (session : String)
    (deeds : List (Deed η H)) (turns : Transcript) : Prop :=
  ∃ ticket input opening added earlier part since,
    operationOf? deeds ticket = some (.exchange input) ∧ input.session = session ∧
    plan.opening = some opening ∧ turns = added.numbered ∧
    Runs (Exchange.unfold plan.syntaxDetails (plan.catalog.toolset input.subset) chain
      (Opening.run opening (plan.catalog.toolset input.subset) session)).run part (.ok added) ∧
    askedBy deeds ticket = earlier ++ part ++ ⟨.save session turns, Except.ok ()⟩ :: since

/-! ### What deeds say -/

section Lookup

variable {deeds : List (Deed η H)} {deed : Deed η H} {ticket : Nat} {session : String}
  {before after : Office η H}

theorem askedBy_concat (deeds : List (Deed η H)) (deed : Deed η H) (ticket : Nat) :
    askedBy (deeds ++ [deed]) ticket = askedBy deeds ticket ++ (deed.asked? ticket).toList := by
  rw [askedBy, askedBy, List.filterMap_append]
  cases found : deed.asked? ticket <;> simp [found]

theorem askedBy_of_not_changes (deeds : List (Deed η H)) (still : ¬Changes ticket deed) :
    askedBy (deeds ++ [deed]) ticket = askedBy deeds ticket := by
  rw [askedBy_concat]
  cases deed with
  | answer other asked => simp [Deed.asked?, show other ≠ ticket from still]
  | _ => simp [Deed.asked?]

theorem askedBy_answer (deeds : List (Deed η H)) (ticket : Nat)
    (asked : Asked (Exchange.unfolded η H)) :
    askedBy (deeds ++ [.answer ticket asked]) ticket = askedBy deeds ticket ++ [asked] := by
  rw [askedBy_concat, Deed.asked?, if_pos rfl]
  rfl

theorem openingsAfter_concat (earlier deeds : List (Deed η H)) (deed : Deed η H) :
    openingsAfter session earlier (deeds ++ [deed]) =
      openingsAfter session earlier deeds ++
        (deed.opening? session (earlier ++ deeds)).toList := by
  induction deeds generalizing earlier with
  | nil => simp [openingsAfter]
  | cons first deeds ih => simp [openingsAfter, ih]

theorem openingsOf_concat (deeds : List (Deed η H)) (deed : Deed η H) :
    openingsOf session (deeds ++ [deed]) =
      openingsOf session deeds ++ (deed.opening? session deeds).toList :=
  openingsAfter_concat [] deeds deed

/-- Nothing has been asked under tickets that are not given out, nor by tasks that wait. -/
structure Unasked (deeds : List (Deed η H)) (office : Office η H) : Prop where
  fresh : ∀ ticket, office.locks.nextTicket ≤ ticket → askedBy deeds ticket = []
  waiting : ∀ task ∈ office.tasks, task.stage = .waiting → askedBy deeds task.ticket = []

theorem Unasked.move (unasked : Unasked deeds before) (attended : Attended before)
    (move : Move MayAnswer before deed after) : Unasked (deeds ++ [deed]) after := by
  constructor
  · intro ticket isNew
    have wasNew := Nat.le_trans (nextTicket_le_move id move) isNew
    rw [askedBy_concat, unasked.fresh ticket wasNew]
    cases move with
    | answer found stage given =>
        obtain ⟨member, same⟩ := mem_of_task? _ _ found
        have different := Nat.ne_of_lt (Nat.lt_of_lt_of_le (attended.issued member) wasNew)
        rw [same] at different
        simp [Deed.asked?, different]
    | _ => rfl
  · intro task member waits
    cases attended.mem_move id move member with
    | kept there still =>
        rw [askedBy_of_not_changes deeds still]
        exact unasked.waiting task there waits
    | started isStart isNew =>
        rw [askedBy_concat, unasked.fresh _ (Nat.le_of_eq isNew.symm), isStart]
        rfl
    | begun old token isCall there oldWaits holders begun =>
        subst begun
        contradiction
    | answered old token question next answer between isAnswer there stage given answered =>
        subst answered
        contradiction

theorem unasked_nil (plan : Exchange.Plan η) (chain : Chain η H) (ttl : Option Duration)
    (backend : Backend) (now : Int) : Unasked [] (Office.new plan chain ttl backend now) where
  fresh := fun _ _ => rfl
  waiting := fun _ _ _ => rfl

theorem SavedOpening.concat {plan : Exchange.Plan η} {chain : Chain η H} {turns : Transcript}
    (saved : SavedOpening plan chain session deeds turns) (deed : Deed η H) :
    SavedOpening plan chain session (deeds ++ [deed]) turns := by
  obtain ⟨ticket, input, opening, added, earlier, part, since, started, isSession, isPlanned,
    isNumbered, runs, log⟩ := saved
  refine ⟨ticket, input, opening, added, earlier, part, since ++ (deed.asked? ticket).toList, ?_,
    isSession, isPlanned, isNumbered, runs, ?_⟩
  · rw [operationOf?_concat, started]
    rfl
  · rw [askedBy_concat, log]
    simp

end Lookup

/-! ### One answer -/

section Answers

variable {session : String} {before after : Office η H}
  {question : ExchangeQuestion (callInterface η H)} {answer : question.Answer}

/-- An answer to a question about a session is written down in its minutes, and changes nothing for
another session. -/
theorem Effect.entered (effect : Effect before question answer after) (noTtl : before.ttl = none)
    (permanent : before.backend.Permanent) (isOf : question.IsOf session)
    (deeds : List (Deed η H)) (ticket : Nat) :
    let deed : Deed η H := .answer ticket ⟨question, answer⟩
    after.backend.Permanent ∧
      Entered question
        ⟨before.backend.stored session, openingsOf session deeds, askedBy deeds ticket⟩ answer
        ⟨after.backend.stored session, openingsOf session (deeds ++ [deed]),
          askedBy (deeds ++ [deed]) ticket⟩ ∧
      ∀ other, other ≠ session →
        after.backend.stored other = before.backend.stored other ∧
          deed.opening? other deeds = none := by
  intro deed
  cases effect with
  | load may =>
      cases isOf
      obtain ⟨rfl, rfl⟩ := permanent.mayLoad may
      refine ⟨permanent, ⟨rfl, rfl, ?_⟩, fun _ _ => ⟨rfl, rfl⟩⟩
      exact (openingsOf_concat deeds deed).trans (List.append_nil _)
  | @save asked turns given backend may =>
      cases isOf
      rw [noTtl] at may
      obtain ⟨rfl, permanentAfter, storedEq, others⟩ := permanent.maySave may
      refine ⟨permanentAfter, ⟨rfl, storedEq, ?_⟩,
        fun other different => ⟨others other different, ?_⟩⟩
      · dsimp only
        rw [openingsOf_concat]
        cases past : isPast (askedBy deeds ticket) <;> simp [deed, Deed.opening?, past]
      · exact if_neg fun both => different both.1.symm
  | loadNotes may =>
      obtain rfl := permanent.mayLoadNotes may
      refine ⟨permanent, ⟨rfl, ?_⟩, fun _ _ => ⟨rfl, rfl⟩⟩
      exact (openingsOf_concat deeds deed).trans (List.append_nil _)
  | other reports windows notStore =>
      cases question with
      | load => contradiction
      | save => contradiction
      | _ =>
          refine ⟨permanent, ⟨rfl, ?_⟩, fun _ _ => ⟨rfl, rfl⟩⟩
          exact (openingsOf_concat deeds deed).trans (List.append_nil _)

end Answers

/-! ### The invariant -/

/-- An exchange that runs in a session will ask only what its minutes permit. -/
def Permitted (plan : Exchange.Plan η) (chain : Chain η H) (session : String)
    (deeds : List (Deed η H)) (office : Office η H) (task : Task η H) : Prop :=
  ∃ input, task.operation = .exchange input ∧ ∀ token work, task.stage = .running token work →
    work.Keeps (seeding plan (plan.catalog.toolset input.subset) chain session) (fun _ _ => True)
      ⟨office.backend.stored session, openingsOf session deeds, askedBy deeds task.ticket⟩

/-- The office has a plan and a chain, and stores everything in memory for ever. -/
structure Settled (plan : Exchange.Plan η) (chain : Chain η H) (office : Office η H) : Prop where
  plan : office.plan = plan
  chain : office.chain = chain
  noTtl : office.ttl = none
  permanent : office.backend.Permanent

/-- The session has been opened at most once, and those who run there will not open it again. -/
structure Tended (plan : Exchange.Plan η) (chain : Chain η H) (session : String)
    (deeds : List (Deed η H)) (office : Office η H) : Prop where
  attended : Attended office
  recorded : Recorded deeds office
  unasked : Unasked deeds office
  allOwn : AllOwn office
  settled : Settled plan chain office
  once : OpenedOnce (openingsOf session deeds) (office.backend.stored session)
  saved : ∀ turns ∈ openingsOf session deeds, SavedOpening plan chain session deeds turns
  permitted : ∀ task ∈ office.tasks, task.operation.session = session →
    Permitted plan chain session deeds office task

section Tended

variable {plan : Exchange.Plan η} {chain : Chain η H} {session : String}
  {deeds : List (Deed η H)} {deed : Deed η H} {before after office : Office η H} {task : Task η H}

theorem seeding_work {minutes : Minutes η H} (input : Input) (unasked : minutes.log = [])
    (once : OpenedOnce minutes.openings minutes.stored) :
    (work plan chain (.exchange input)).Keeps
      (seeding plan (plan.catalog.toolset input.subset) chain input.session) (fun _ _ => True)
      minutes := by
  apply keeps_bind.2
  apply (Exchange.seeding_unfold (Exchange.seeding_runWith true plan chain input unasked once)).mono
  intro _ _ _
  trivial

/-- Deeds change what is stored, but not how. -/
theorem Settled.move (settled : Settled plan chain before)
    (move : Move MayAnswer before deed after) (permanent : after.backend.Permanent) :
    Settled plan chain after := by
  obtain ⟨planEq, chainEq, noTtl, -⟩ := settled
  cases move with
  | callIn ticket =>
      obtain ⟨-, ttlSame, planSame, chainSame, -⟩ := callIn_frame before ticket
      exact ⟨planSame.trans planEq, chainSame.trans chainEq, ttlSame.trans noTtl, permanent⟩
  | answer found stage given =>
      have frame := (effect_of_mayAnswer given).frame
      exact ⟨frame.plan.trans planEq, frame.chain.trans chainEq, frame.ttl.trans noTtl, permanent⟩
  | abandon ticket =>
      have same : (before.abandon ticket).2.plan = before.plan ∧
          (before.abandon ticket).2.chain = before.chain ∧
          (before.abandon ticket).2.ttl = before.ttl := by
        rw [Office.abandon]
        split
        · exact ⟨rfl, rfl, rfl⟩
        · dsimp only
          split
          · exact ⟨rfl, rfl, rfl⟩
          · exact ⟨rfl, rfl, rfl⟩
      exact ⟨same.1.trans planEq, same.2.1.trans chainEq, same.2.2.trans noTtl, permanent⟩
  | _ => exact ⟨planEq, chainEq, noTtl, permanent⟩

/-- What an exchange saves as an opening, where that is permitted, is one. -/
theorem savedOpening_of_answer {ticket : Nat} {input : Input} {stored turns : Transcript}
    {openings : List Transcript} {question : ExchangeQuestion (callInterface η H)}
    {answer : question.Answer} (started : operationOf? deeds ticket = some (.exchange input))
    (isSession : input.session = session)
    (permits : Minutes.Permits plan (plan.catalog.toolset input.subset) chain session
      ⟨stored, openings, askedBy deeds ticket⟩ question)
    (isOpening : Deed.opening? session deeds (.answer ticket ⟨question, answer⟩) = some turns) :
    SavedOpening plan chain session (deeds ++ [.answer ticket ⟨question, answer⟩]) turns := by
  cases question with
  | save other asked =>
      cases answer with
      | error fault => contradiction
      | ok _ =>
          obtain ⟨rfl, permits⟩ := permits
          rw [Deed.opening?] at isOpening
          split at isOpening
          · next both =>
              cases isOpening
              rw [both.2] at permits
              obtain ⟨-, opening, added, earlier, part, isPlanned, -, isNumbered, log, runs⟩ :=
                permits
              refine ⟨ticket, input, opening, added, earlier, part, [], ?_, isSession, isPlanned,
                isNumbered, runs, ?_⟩
              · rw [operationOf?_concat, started]
                rfl
              · exact (askedBy_answer deeds ticket _).trans (congrArg (· ++ [_]) log)
          · contradiction
  | _ => contradiction

/-- Minutes in which nothing has changed. -/
theorem Permitted.congr {more : List (Deed η H)}
    (permitted : Permitted plan chain session deeds before task)
    (stored : after.backend.stored session = before.backend.stored session)
    (openings : openingsOf session more = openingsOf session deeds)
    (asked : askedBy more task.ticket = askedBy deeds task.ticket) :
    Permitted plan chain session more after task := by
  rw [Permitted, stored, openings, asked]
  exact permitted

/-- A deed that answers no question of the session and stores nothing for it. -/
theorem Tended.aside (tended : Tended plan chain session deeds before)
    (move : Move MayAnswer before deed after)
    (notDeletion : ∀ ticket position, deed ≠ .start ticket (.deletion session position))
    (elsewhere : ∀ task ∈ before.tasks, task.operation.session = session →
      deed.asked? task.ticket = none)
    (permanent : after.backend.Permanent)
    (stored : after.backend.stored session = before.backend.stored session)
    (noOpening : deed.opening? session deeds = none) :
    Tended plan chain session (deeds ++ [deed]) after := by
  have openings : openingsOf session (deeds ++ [deed]) = openingsOf session deeds := by
    rw [openingsOf_concat, noOpening]
    exact List.append_nil _
  constructor
  · exact tended.attended.move move
  · exact tended.recorded.move tended.attended id move
  · exact tended.unasked.move tended.attended move
  · exact tended.allOwn.move tended.attended id move
  · exact tended.settled.move move permanent
  · rw [openings, stored]
    exact tended.once
  · rw [openings]
    exact fun turns member => (tended.saved turns member).concat deed
  · intro task member here
    cases tended.attended.mem_move id move member with
    | kept there still =>
        exact (tended.permitted task there here).congr stored openings
          (askedBy_of_not_changes deeds still)
    | started isStart isNew waits =>
        subst isStart
        cases operation : task.operation with
        | deletion other position =>
            rw [operation] at here notDeletion
            exact absurd rfl (here ▸ notDeletion task.ticket position)
        | exchange input =>
            refine ⟨input, operation, ?_⟩
            intro token work stage
            rw [waits] at stage
            contradiction
    | begun old token isCall there waits holders begun =>
        subst begun isCall
        obtain ⟨input, isExchange, -⟩ := tended.permitted old there here
        refine ⟨input, isExchange, ?_⟩
        rintro token work ⟨⟩
        have isSession : input.session = session := by
          rw [← here, Task.at, isExchange]
          rfl
        subst isSession
        rw [isExchange, tended.settled.plan, tended.settled.chain, openings, stored]
        apply seeding_work input _ tended.once
        exact (askedBy_of_not_changes deeds id).trans (tended.unasked.waiting old there waits)
    | answered old token question next answer between isAnswer there stage given answered =>
        subst answered isAnswer
        have asks := elsewhere old there here
        rw [Deed.asked?, if_pos rfl] at asks
        contradiction

/-- An answer to the exchange that runs in the session. -/
theorem Tended.answer (tended : Tended plan chain session deeds before) {token : Option Nat}
    {question : ExchangeQuestion (callInterface η H)} {next : question.Answer → Work η H}
    {answer : question.Answer} {answered : Office η H} (member : task ∈ before.tasks)
    (here : task.operation.session = session)
    (stage : task.stage = .running token (.ask question next))
    (given : MayAnswer token question before answer answered) :
    Tended plan chain session (deeds ++ [.answer task.ticket ⟨question, answer⟩])
      (answered.putTask (task.at token (next answer))) := by
  have move : Move MayAnswer before (.answer task.ticket ⟨question, answer⟩)
      (answered.putTask (task.at token (next answer))) :=
    .answer (tended.attended.task?_eq member) stage given
  have effect := effect_of_mayAnswer given
  have isOf : question.IsOf session := here ▸ (tended.allOwn task member token _ stage).1
  obtain ⟨permanent, entered, -⟩ := effect.entered tended.settled.noTtl
    tended.settled.permanent isOf deeds task.ticket
  obtain ⟨input, isExchange, keeps⟩ := tended.permitted task member here
  obtain ⟨permits, goesOn⟩ := keeps token _ stage
  have isSession : input.session = session := by
    rw [← here, isExchange]
    rfl
  constructor
  · exact tended.attended.move move
  · exact tended.recorded.move tended.attended id move
  · exact tended.unasked.move tended.attended move
  · exact tended.allOwn.move tended.attended id move
  · exact tended.settled.move move permanent
  · exact tended.once.entered permits entered
  · intro turns isOpening
    rw [openingsOf_concat, List.mem_append] at isOpening
    rcases isOpening with early | new
    · exact (tended.saved turns early).concat _
    · have started := tended.recorded.started task member
      rw [isExchange] at started
      exact savedOpening_of_answer started isSession permits (Option.mem_toList.1 new)
  · intro other otherMember otherHere
    rcases (mem_putTask_iff _ _).1 otherMember with isNew | ⟨there, different⟩
    · subst isNew
      refine ⟨input, isExchange, ?_⟩
      rintro otherToken work ⟨⟩
      exact goesOn answer _ ⟨entered, askedBy_answer deeds task.ticket _⟩
    · -- Whoever else is there waits, since this exchange has the permit.
      rw [effect.frame.tasks] at there
      obtain ⟨otherInput, otherExchange, -⟩ := tended.permitted other there otherHere
      refine ⟨otherInput, otherExchange, ?_⟩
      intro otherToken work otherStage
      have same := tended.attended.runsIn_unique ⟨member, here, Task.runs_of_stage stage⟩
        ⟨there, otherHere, Task.runs_of_stage otherStage⟩
      exact absurd (congrArg Task.ticket same) different

/-- Every deed but a deletion keeps the session opened at most once. -/
theorem Tended.move (tended : Tended plan chain session deeds before)
    (move : Move MayAnswer before deed after)
    (notDeletion : ∀ ticket position, deed ≠ .start ticket (.deletion session position)) :
    Tended plan chain session (deeds ++ [deed]) after := by
  have permanent := tended.settled.permanent
  have whole := move
  cases move with
  | @answer answered ticket task token question next answer found stage given =>
      obtain ⟨member, sameTicket⟩ := mem_of_task? _ _ found
      subst sameTicket
      by_cases here : task.operation.session = session
      · exact tended.answer member here stage given
      · obtain ⟨permanentAfter, -, others⟩ := (effect_of_mayAnswer given).entered
          tended.settled.noTtl permanent (tended.allOwn task member token _ stage).1 deeds
          task.ticket
        obtain ⟨stored, noOpening⟩ := others session (Ne.symm here)
        apply tended.aside whole notDeletion _ permanentAfter stored noOpening
        intro other otherMember otherHere
        apply if_neg
        intro same
        have isTask := tended.attended.eq_of_ticket member otherMember same.symm
        exact here (isTask ▸ otherHere)
  | callIn ticket =>
      have backendSame := (callIn_frame before ticket).1
      apply tended.aside whole notDeletion (fun _ _ _ => rfl) _ _ rfl
      · rw [backendSame]
        exact permanent
      · rw [backendSame]
  | abandon ticket =>
      have backendSame := abandon_backend before ticket
      apply tended.aside whole notDeletion (fun _ _ _ => rfl) _ _ rfl
      · rw [backendSame]
        exact permanent
      · rw [backendSame]
  | read asked =>
      have loaded := permanent.load_eq asked before.now
      have backendSame : (before.transcript asked).2.backend = before.backend := by
        simp only [transcript, loaded]
      apply tended.aside whole notDeletion (fun _ _ _ => rfl) _ _ rfl
      · rw [backendSame]
        exact permanent
      · rw [backendSame]
  | setNotes asked messages result backend may =>
      rw [tended.settled.noTtl] at may
      obtain ⟨permanentAfter, stored⟩ := permanent.maySaveNotes may
      exact tended.aside whole notDeletion (fun _ _ _ => rfl) permanentAfter (stored session)
        rfl
  | start => exact tended.aside whole notDeletion (fun _ _ _ => rfl) permanent rfl rfl
  | rest => exact tended.aside whole notDeletion (fun _ _ _ => rfl) permanent rfl rfl
  | conclude => exact tended.aside whole notDeletion (fun _ _ _ => rfl) permanent rfl rfl
  | cancel => exact tended.aside whole notDeletion (fun _ _ _ => rfl) permanent rfl rfl
  | clock => exact tended.aside whole notDeletion (fun _ _ _ => rfl) permanent rfl rfl

theorem tended_new {backend : Backend} (permanent : backend.Permanent)
    (isEmpty : backend.stored session = []) (now : Int) :
    Tended plan chain session [] (Office.new plan chain none backend now) where
  attended := attended_new plan chain none backend now
  recorded := recorded_nil plan chain none backend now
  unasked := unasked_nil plan chain none backend now
  allOwn := fun _ member => absurd member List.not_mem_nil
  settled := ⟨rfl, rfl, rfl, permanent⟩
  once := by
    have stored : (Office.new plan chain none backend now).backend.stored session = [] := isEmpty
    rw [stored]
    exact Exchange.openedOnce_nil
  saved := fun _ member => absurd member List.not_mem_nil
  permitted := fun _ member => absurd member List.not_mem_nil

theorem Tended.run {deeds : List (Deed η H)} {start : Office η H}
    (tended : Tended plan chain session [] start) (run : Run MayAnswer start deeds office)
    (notDeletion : ∀ ticket position, .start ticket (.deletion session position) ∉ deeds) :
    Tended plan chain session deeds office := by
  induction run with
  | nil => exact tended
  | snoc _ move ih =>
      have before := ih fun ticket position member =>
        notDeletion ticket position (List.mem_append_left _ member)
      apply before.move move
      rintro ticket position rfl
      exact notDeletion ticket position (List.mem_append_right _ (List.mem_singleton_self _))

/-- Do in an office that stores everything in memory for ever whatever can be done, answered in any
way, cancelled or abandoned anywhere; only, nothing is deleted from a session that is empty at
first.  At most one opening is saved for the session, and while there is none, what is stored there
is empty or begins with the user.  The turns of an opening are those that the opening gave in the
exchange that saved them; from then on, what is stored begins with them, no exchange of the session
makes a call, or asks before one whether it has been cancelled, before it has loaded the system
messages, and whatever the model is asked to continue begins with them as well. -/
theorem opened_once {backend : Backend} {now : Int} (permanent : backend.Permanent)
    (isEmpty : backend.stored session = [])
    (run : Run MayAnswer (Office.new plan chain none backend now) deeds office)
    (notDeletion : ∀ ticket position, .start ticket (.deletion session position) ∉ deeds) :
    (openingsOf session deeds).length ≤ 1 ∧
    (openingsOf session deeds = [] →
      office.backend.stored session = [] ∨ (office.backend.stored session).LedBy .user) ∧
    ∀ turns ∈ openingsOf session deeds,
      SavedOpening plan chain session deeds turns ∧
      turns <+: office.backend.stored session ∧
      ∀ task ∈ office.tasks, task.operation.session = session →
        ∀ token question next, task.stage = .running token (.ask question next) →
          (question.isOfCall = true → isPast (askedBy deeds task.ticket) = true) ∧
          ∀ request, question = .complete request → turns <+: request.transcript.numbered := by
  have tended := (tended_new permanent isEmpty now).run run notDeletion
  refine ⟨tended.once.single, tended.once.seeded.unopened, ?_⟩
  intro turns isOpening
  refine ⟨tended.saved turns isOpening, tended.once.seeded.heads turns isOpening, ?_⟩
  intro task member here token question next stage
  obtain ⟨input, -, keeps⟩ := tended.permitted task member here
  have permits := (keeps token _ stage).1
  have opened : openingsOf session deeds ≠ [] := List.ne_nil_of_mem isOpening
  constructor
  · intro isOfCall
    cases question with
    | isCancelled => exact permits.resolve_left opened
    | call => exact permits.resolve_left opened
    | _ => contradiction
  · rintro request rfl
    exact permits.heads turns isOpening

end Tended

/-! ### A session that is visited twice -/

/-- Every message may pass, and the lamp works.  The model is asleep when it is asked at first, and
does not answer when it is asked again. -/
def drowsy : Surroundings Unit noQuestions Bool where
  secure := fun _ _ _ _ => pure (some (.ok ()))
  complete := fun _ _ hasSlept =>
    if hasSlept then pure (none, true)
    else pure (some (.error (.model "dim" "asleep")), true)
  handle := fun _ _ _ => pure (some (.ok (.str "on")))
  host := fun _ question => nomatch question

/-- An exchange in a session that is opened by calling for the lamp has failed after its opening,
and another waits for the model. -/
def revisited : Office Unit noQuestions :=
  let started := ((Office.new lampPlan [] none (.memory .empty) 0).start (.exchange entering)).2
  let both := (started.start (.exchange entering)).2
  (poll drowsy 1 (poll drowsy 0 (both, false)).2).2.1

/-- A deed that starts no deletion. -/
def NotDeletion (deed : Deed η H) : Prop :=
  ∀ ticket session position, deed ≠ .start ticket (.deletion session position)

theorem opened_once_revisited :
    (revisited.tasks.filterMap shown?).map (·.transcript.length) = [3] ∧
      ∃ deeds turns,
        Run MayAnswer (Office.new lampPlan [] none (.memory .empty) 0) deeds revisited ∧
        openingsOf "hall" deeds = [turns] ∧ SavedOpening lampPlan [] "hall" deeds turns ∧
        ∀ task ∈ revisited.tasks, ∀ request, shown? task = some request →
          turns <+: request.transcript.numbered := by
  refine ⟨by decide +kernel, ?_⟩
  have polls : ∀ ticket office state,
      Reaches MayAnswer NotDeletion office (poll drowsy ticket (office, state)).2.1 :=
    poll_reaches (admits_of_cancels (by rintro _ isPolling _ _ _ rfl; contradiction)
      (fun _ _ _ _ => nofun) drowsy)
  have starts : ∀ office : Office Unit noQuestions,
      Reaches MayAnswer NotDeletion office (office.start (.exchange entering)).2 := by
    intro office
    refine .single ?_ (.start office _)
    intro ticket session position same
    injection same with _ isDeletion
    contradiction
  have reached : Reaches MayAnswer NotDeletion (Office.new lampPlan [] none (.memory .empty) 0)
      revisited :=
    (starts _).trans ((starts _).trans ((polls 0 _ false).trans (polls 1 _ _)))
  obtain ⟨deeds, notDeletions, run⟩ := reached
  have permanent : (Backend.memory .empty).Permanent :=
    ⟨fun _ member => absurd member List.not_mem_nil, fun _ member => absurd member List.not_mem_nil⟩
  obtain ⟨single, unopened, opened⟩ := opened_once permanent rfl run
    fun ticket position member => notDeletions _ member ticket "hall" position rfl
  have nonempty : openingsOf "hall" deeds ≠ [] := by
    intro none
    have roles : (revisited.backend.stored "hall").map (·.role) = [.assistant, .tool] := by
      decide +kernel
    rcases unopened none with isEmpty | ⟨first, isFirst, isUser⟩
    · rw [isEmpty] at roles
      contradiction
    · have leads := congrArg List.head? roles
      rw [List.head?_map, isFirst, Option.map_some, isUser] at leads
      contradiction
  obtain ⟨turns, isSingle⟩ := List.length_eq_one_iff.1
    (Nat.le_antisymm single (List.length_pos_iff.2 nonempty))
  obtain ⟨saved, -, seen⟩ := opened turns (isSingle ▸ List.mem_singleton_self turns)
  refine ⟨deeds, turns, run, isSingle, saved, ?_⟩
  intro task member request shows
  have sessions : revisited.tasks.map (·.operation.session) = ["hall"] := by decide +kernel
  have here : task.operation.session = "hall" :=
    List.mem_singleton.1 (sessions ▸ List.mem_map_of_mem member)
  rw [shown?] at shows
  split at shows
  · next token request next stage =>
      cases shows
      exact (seen task member here token _ next stage).2 _ rfl
  · contradiction

end Office

end Parley
