/-
Module: Parley.Proofs.Office.Serial
Layer: Proofs
Purpose: Operations that interleave in any way end as if those of each session were performed one
  after another, in the order in which they obtain its permit.  The invariant compares the store of
  the office, as far as it concerns one session, with the store after all operations that have
  ended: they agree while none runs, and while one does, what is left of it leads from the one store
  to where the whole operation leads from the other.
Main exports: Office.jobsOf, Office.Standing, Office.InTurn, Office.InTurn.move,
  Office.served_serially
-/
import Parley.Proofs.Office.Line

namespace Parley.Office

open Backend (Alike Permanent)
open Exchange (own)
open Oracle (Calm Job)
open Program (keeps_bind)

variable {η : Type} {H : Interface}

/-- The operation that was started under a ticket, with all it has read. -/
def jobOf? (deeds : List (Deed η H)) (ticket : Nat) : Option Job :=
  (operationOf? deeds ticket).map fun operation =>
    { operation := operation, readings := readingsOf deeds ticket }

/-- The operations that were started under some tickets. -/
def jobsOf (deeds : List (Deed η H)) (tickets : List Nat) : List Job :=
  (tickets.map (jobOf? deeds)).filterMap id

/-! ### Operations ask about their own session -/

/-- Some work asks the store about one session only. -/
def Own (session : String) (work : Work η H) : Prop :=
  work.Keeps (own (callInterface η H) session) (fun _ _ => True) ()

theorem own_work (plan : Exchange.Plan η) (chain : Chain η H) (operation : Operation) :
    Own operation.session (work plan chain operation) := by
  cases operation with
  | exchange input =>
      apply keeps_bind.2
      apply (Exchange.own_unfold (Exchange.own_runWith true plan input)).mono
      intro _ _ _
      trivial
  | deletion session position =>
      apply keeps_bind.2
      apply (Exchange.own_delete position).mono
      intro _ _ _
      trivial

/-- Every task that runs asks the store about its own session only. -/
def AllOwn (office : Office η H) : Prop :=
  ∀ task ∈ office.tasks, ∀ token work, task.stage = .running token work →
    Own task.operation.session work

section Steps

variable {oracle : Oracle η H} {deeds : List (Deed η H)} {deed : Deed η H}
  {before after : Office η H} {session : String}

theorem AllOwn.move {answers : Answering η H} (allOwn : AllOwn before) (attended : Attended before)
    (allowed : ∀ {token question before answer after},
      answers token question before answer after → MayAnswer token question before answer after)
    (move : Move answers before deed after) : AllOwn after := by
  intro task member token left stage
  cases attended.mem_move allowed move member with
  | kept there still => exact allOwn task there token left stage
  | started isStart isNew waits =>
      rw [waits] at stage
      contradiction
  | begun old oldToken isCall there waits holders begun =>
      subst begun
      cases stage
      exact own_work before.plan before.chain old.operation
  | answered old oldToken question next answer between isAnswer there oldStage given answered =>
      subst answered
      cases stage
      exact (allOwn old there _ _ oldStage).2 answer () trivial

/-- An office in which everything is stored in memory for ever, nothing is cancelled and tasks mind
their own sessions, with a plan and a chain. -/
structure Quiet (plan : Exchange.Plan η) (chain : Chain η H) (office : Office η H) : Prop where
  plan : office.plan = plan
  chain : office.chain = chain
  calm : Calm office
  allOwn : AllOwn office

theorem Quiet.move {plan : Exchange.Plan η} {chain : Chain η H} (quiet : Quiet plan chain before)
    (attended : Attended before) (move : Move oracle.answering before deed after)
    (ordinary : deed.isOrdinary = true) : Quiet plan chain after := by
  have allOwn := quiet.allOwn.move attended Oracle.mayAnswer_of_answering move
  obtain ⟨planEq, chainEq, ⟨untripped, ttl, permanent⟩, wereOwn⟩ := quiet
  cases move with
  | start operation => exact ⟨planEq, chainEq, ⟨untripped, ttl, permanent⟩, allOwn⟩
  | callIn ticket =>
      obtain ⟨backendSame, ttlSame, planSame, chainSame, trippedSame⟩ :=
        callIn_frame before ticket
      refine ⟨planSame.trans planEq, chainSame.trans chainEq, ⟨?_, ttlSame.trans ttl, ?_⟩, allOwn⟩
      · rw [trippedSame]
        exact untripped
      · rw [backendSame]
        exact permanent
  | @answer answered ticket task token question next answer found stage given =>
      have frame := (effect_of_mayAnswer (Oracle.mayAnswer_of_answering given)).frame
      obtain ⟨member, -⟩ := mem_of_task? _ _ found
      have isOf := (wereOwn task member token _ stage).1
      obtain ⟨-, permanentAfter, -⟩ := Oracle.alone_of_answering ⟨untripped, ttl, permanent⟩ isOf
        given permanent (.refl _ _)
      refine ⟨frame.plan.trans planEq, frame.chain.trans chainEq, ⟨?_, frame.ttl.trans ttl, ?_⟩,
        allOwn⟩
      · exact (congrArg _ frame.cancels).trans untripped
      · exact permanentAfter
  | rest found => exact ⟨planEq, chainEq, ⟨untripped, ttl, permanent⟩, allOwn⟩
  | conclude found stage =>
      refine ⟨planEq, chainEq, ⟨?_, ttl, permanent⟩, allOwn⟩
      simp only [conclude, dropTask, finish]
      split
      · exact untripped
      · exact untripped
  | abandon ticket => contradiction
  | cancel session => contradiction
  | read session =>
      have loaded := permanent.load_eq session before.now
      refine ⟨planEq, chainEq, ⟨untripped, ttl, ?_⟩, allOwn⟩
      simp only [transcript, loaded]
      exact permanent
  | setNotes => contradiction
  | clock now => exact ⟨planEq, chainEq, ⟨untripped, ttl, permanent⟩, allOwn⟩

end Steps

/-! ### Against the operations one after another -/

/-- What has become of the one store, as far as it concerns a session, and where operations one after
another lead on another: the same, while none of the session runs; and while one does, what is left
of it leads from a store like the one to where the whole operation leads from the other. -/
inductive Standing (oracle : Oracle η H) (plan : Exchange.Plan η) (chain : Chain η H)
    (session : String) (deeds : List (Deed η H)) (reached : Backend) (office : Office η H) :
    Prop where
  | idle : (∀ task, ¬RunsIn session office task) → Alike session office.backend reached →
      Standing oracle plan chain session deeds reached office
  | busy {task : Task η H} {token : Option Nat} {left : Work η H} {backend : Backend} :
      RunsIn session office task → task.stage = .running token left → backend.Permanent →
      Alike session office.backend backend →
      (∀ more, oracle.finish (work plan chain task.operation) reached
          (readingsOf deeds task.ticket ++ more) = oracle.finish left backend more) →
      Standing oracle plan chain session deeds reached office

section Standing

variable {oracle : Oracle η H} {plan : Exchange.Plan η} {chain : Chain η H} {session : String}
  {deeds : List (Deed η H)} {deed : Deed η H} {reached : Backend} {before after : Office η H}

/-- Where those who run in the session, what is stored for it and what they have read stay, nothing
else matters. -/
theorem Standing.congr {more : List (Deed η H)}
    (standing : Standing oracle plan chain session deeds reached before)
    (runs : ∀ task, RunsIn session after task ↔ RunsIn session before task)
    (alike : Alike session after.backend before.backend)
    (reads : ∀ task, RunsIn session before task →
      readingsOf more task.ticket = readingsOf deeds task.ticket) :
    Standing oracle plan chain session more reached after := by
  cases standing with
  | idle nobody same =>
      apply Standing.idle
      · exact fun task running => nobody task ((runs task).1 running)
      · exact alike.trans same
  | busy running stage permanent same leads =>
      apply Standing.busy ((runs _).2 running) stage permanent (alike.trans same)
      rw [reads _ running]
      exact leads

/-- A deed about no task of the session, which lets none of them begin. -/
theorem Standing.elsewhere (standing : Standing oracle plan chain session deeds reached before)
    (attended : Attended before) (move : Move oracle.answering before deed after)
    (noCall : ∀ ticket, deed ≠ .callIn ticket)
    (elsewhere : ∀ task ∈ before.tasks, task.operation.session = session →
      ¬Changes task.ticket deed)
    (alike : Alike session after.backend before.backend) :
    Standing oracle plan chain session (deeds ++ [deed]) reached after := by
  apply standing.congr
  · intro task
    exact attended.runsIn_iff Oracle.mayAnswer_of_answering move noCall elsewhere
  · exact alike
  · intro task running
    exact (lookups_of_not_changes deeds (elsewhere task running.member running.session)).2.1

/-- A task of the session that is called in may begin, with all its work before it. -/
theorem Standing.callIn (standing : Standing oracle plan chain session deeds reached before)
    (attended : Attended before) (recorded : Recorded deeds before)
    (quiet : Quiet plan chain before) (permanent : reached.Permanent) (ticket : Nat) :
    Standing oracle plan chain session (deeds ++ [.callIn ticket]) reached
      (before.callIn ticket) := by
  have reads : ∀ other, readingsOf (deeds ++ [.callIn ticket]) other = readingsOf deeds other :=
    fun other => (lookups_of_not_changes deeds id).2.1
  rcases callIn_eq before ticket with same | ⟨task, found, waits, looked | ⟨held, begun⟩⟩
  · rw [same]
    exact standing.congr (fun _ => Iff.rfl) (.refl _ _) fun task _ => reads task.ticket
  · rw [looked]
    exact standing.congr (fun _ => ⟨fun running => ⟨running.1, running.2, running.3⟩,
      fun running => ⟨running.1, running.2, running.3⟩⟩) (.refl _ _) fun task _ =>
      reads task.ticket
  · obtain ⟨member, sameTicket⟩ := mem_of_task? _ _ found
    subst sameTicket
    rw [begun]
    have holders := attended.holders_of_poll member held
    by_cases here : task.operation.session = session
    · rw [here] at holders
      cases standing with
      | busy running _ _ _ _ =>
          -- Whoever runs has the permit, but this task has it and waits.
          have holdersToo := attended.holders_of_runs running.member running.runs
          rw [running.session, holders] at holdersToo
          have same := attended.eq_of_ticket running.member member (List.cons.inj holdersToo).1
          exact absurd waits (same ▸ running.runs)
      | idle nobody same =>
          apply Standing.busy
          · exact ⟨(mem_putTask_iff _ _).2 (.inl rfl), here, Task.runs_of_stage rfl⟩
          · rfl
          · exact permanent
          · exact same
          · intro more
            rw [reads, Task.at, recorded.unread task member waits, quiet.plan, quiet.chain]
            rfl
    · apply standing.congr
      · intro other
        constructor
        · rintro ⟨otherMember, same, runs⟩
          rcases mem_putTask _ _ otherMember with isNew | there
          · subst isNew
            exact absurd same here
          · exact ⟨there, same, runs⟩
        · rintro ⟨otherMember, same, runs⟩
          refine ⟨(mem_putTask_iff _ _).2 (.inr ⟨otherMember, fun sameTicket => ?_⟩), same, runs⟩
          have isTask := attended.eq_of_ticket member otherMember sameTicket
          exact here (isTask ▸ same)
      · exact .refl _ _
      · exact fun other _ => reads other.ticket

/-- An answer to a task of the session is the answer it would have on its own; an answer to another
changes nothing for the session. -/
theorem Standing.answer (standing : Standing oracle plan chain session deeds reached before)
    (attended : Attended before) (quiet : Quiet plan chain before) {task : Task η H}
    {token : Option Nat} {question : ExchangeQuestion (callInterface η H)}
    {next : question.Answer → Work η H} {answer : question.Answer} {answered : Office η H}
    (member : task ∈ before.tasks) (stage : task.stage = .running token (.ask question next))
    (given : oracle.answering token question before answer answered) :
    Standing oracle plan chain session (deeds ++ [.answer task.ticket ⟨question, answer⟩]) reached
      (answered.putTask (task.at token (next answer))) := by
  have move : Move oracle.answering before _ _ :=
    .answer (attended.task?_eq member) stage given
  have isOf := (quiet.allOwn task member token _ stage).1
  have runs := Task.runs_of_stage stage
  by_cases here : task.operation.session = session
  · subst here
    have running : RunsIn task.operation.session before task := ⟨member, rfl, runs⟩
    cases standing with
    | idle nobody _ => exact absurd running (nobody task)
    | busy wasRunning wasStage permanent alike leads =>
        have isTask := attended.runsIn_unique wasRunning running
        subst isTask
        rw [stage] at wasStage
        cases wasStage
        obtain ⟨⟨store, storePermanent, storeAlike, alone⟩, -, -⟩ :=
          Oracle.alone_of_answering quiet.calm isOf given permanent alike
        apply Standing.busy
        · exact ⟨(mem_putTask_iff _ _).2 (.inl rfl), rfl, Task.runs_of_stage rfl⟩
        · rfl
        · exact storePermanent
        · exact storeAlike
        · intro more
          have readingsEq : readingsOf (deeds ++ [.answer task.ticket ⟨question, answer⟩])
              task.ticket = readingsOf deeds task.ticket ++ (question.reading? answer).toList := by
            rw [readingsOf_concat, Deed.readingOf?, if_pos rfl]
          rw [Task.at, readingsEq, List.append_assoc, leads]
          exact Oracle.finish_ask (alone more)
  · obtain ⟨-, -, others⟩ :=
      Oracle.alone_of_answering quiet.calm isOf given quiet.calm.permanent (.refl _ _)
    apply standing.elsewhere attended move
    · intro _ same
      contradiction
    · intro other otherMember same changes
      have isTask := attended.eq_of_ticket otherMember member changes
      exact here (isTask ▸ same)
    · exact (others session (Ne.symm here)).symm

/-- When a task of the session ends, the operations that have ended lead to what is stored. -/
theorem Standing.conclude (standing : Standing oracle plan chain session deeds reached before)
    (attended : Attended before) {task : Task η H} {token : Option Nat}
    {result : Except Fault Result} (member : task ∈ before.tasks)
    (stage : task.stage = .running token (.done result))
    (here : task.operation.session = session) :
    let job : Job := ⟨task.operation, readingsOf deeds task.ticket⟩
    let performed := oracle.perform plan chain job reached
    performed.1 = result ∧ performed.2.Permanent ∧
      Standing oracle plan chain session (deeds ++ [.conclude task.ticket result]) performed.2
        (before.conclude task token) := by
  intro job performed
  have runs := Task.runs_of_stage stage
  have running : RunsIn session before task := ⟨member, here, runs⟩
  cases standing with
  | idle nobody _ => exact absurd running (nobody task)
  | @busy _ _ _ store wasRunning wasStage permanent alike leads =>
      have isTask := attended.runsIn_unique wasRunning running
      subst isTask
      rw [stage] at wasStage
      cases wasStage
      have ends : performed = (result, store) := by
        have whole := leads []
        rw [List.append_nil] at whole
        exact whole
      rw [ends]
      refine ⟨rfl, permanent, .idle ?_ alike⟩
      rintro other ⟨otherMember, same, otherRuns⟩
      obtain ⟨there, different⟩ := (mem_dropTask_iff _).1 otherMember
      have isTask := attended.runsIn_unique running ⟨there, same, otherRuns⟩
      exact different (congrArg Task.ticket isTask)

end Standing

/-! ### All together -/

/-- The operations of a session that have ended, in the order in which they obtained the permit, gave
what they give one after another, and what goes on continues them. -/
structure Matched (oracle : Oracle η H) (plan : Exchange.Plan η) (chain : Chain η H)
    (session : String) (initial : Backend) (deeds : List (Deed η H)) (office : Office η H)
    (order done : List Nat) : Prop where
  lined : Lined session deeds office order done
  results : done.map (resultOf? deeds) =
    (oracle.serially plan chain (jobsOf deeds done) initial).1.map some
  permanent : (oracle.serially plan chain (jobsOf deeds done) initial).2.Permanent
  standing : Standing oracle plan chain session deeds
    (oracle.serially plan chain (jobsOf deeds done) initial).2 office

section Matched

variable {oracle : Oracle η H} {plan : Exchange.Plan η} {chain : Chain η H} {session : String}
  {initial : Backend} {deeds : List (Deed η H)} {deed : Deed η H} {before after : Office η H}
  {order done : List Nat}

/-- What is said of the operations that have ended stays so. -/
theorem Matched.settled
    (matched : Matched oracle plan chain session initial deeds before order done)
    (recorded : Recorded deeds before) (move : Move oracle.answering before deed after) :
    jobsOf (deeds ++ [deed]) done = jobsOf deeds done ∧
      done.map (resultOf? (deeds ++ [deed])) = done.map (resultOf? deeds) := by
  have lookups := fun ticket member =>
    recorded.settled move (matched.lined.ended ticket member)
  constructor
  · apply congrArg (List.filterMap id)
    apply List.map_congr_left
    intro ticket member
    simp only [jobOf?, lookups ticket member]
  · apply List.map_congr_left
    exact fun ticket member => (lookups ticket member).2.2

/-- Nothing of the session ends. -/
theorem Matched.goOn (matched : Matched oracle plan chain session initial deeds before order done)
    (recorded : Recorded deeds before) (move : Move oracle.answering before deed after)
    {served : List Nat} (lined : Lined session (deeds ++ [deed]) after served done)
    (standing : Standing oracle plan chain session (deeds ++ [deed])
      (oracle.serially plan chain (jobsOf deeds done) initial).2 after) :
    Matched oracle plan chain session initial (deeds ++ [deed]) after served done := by
  obtain ⟨jobs, results⟩ := matched.settled recorded move
  constructor
  · exact lined
  · rw [results, jobs]
    exact matched.results
  · rw [jobs]
    exact matched.permanent
  · rw [jobs]
    exact standing

theorem Matched.conclude
    (matched : Matched oracle plan chain session initial deeds before order done)
    (attended : Attended before) (recorded : Recorded deeds before) {task : Task η H}
    {token : Option Nat} {result : Except Fault Result} (member : task ∈ before.tasks)
    (stage : task.stage = .running token (.done result))
    (here : task.operation.session = session) :
    let after := before.conclude task token
    Matched oracle plan chain session initial (deeds ++ [.conclude task.ticket result]) after
      (order ++ (after.locks.holders session).filter fun ticket => ticket ∉ order)
      (done ++ [task.ticket]) := by
  intro after
  have move : Move oracle.answering before (.conclude task.ticket result) after :=
    .conclude (attended.task?_eq member) stage
  obtain ⟨jobs, results⟩ := matched.settled recorded move
  obtain ⟨gives, permanent, standing⟩ :=
    matched.standing.conclude attended member stage here
  have job : jobOf? (deeds ++ [.conclude task.ticket result]) task.ticket =
      some ⟨task.operation, readingsOf deeds task.ticket⟩ := by
    rw [jobOf?, operationOf?_concat, recorded.started task member, readingsOf_concat]
    simp [Deed.readingOf?]
  have allJobs : jobsOf (deeds ++ [.conclude task.ticket result]) (done ++ [task.ticket]) =
      jobsOf deeds done ++ [⟨task.operation, readingsOf deeds task.ticket⟩] := by
    rw [jobsOf, List.map_append, List.filterMap_append, List.map_cons, job]
    exact congrArg (· ++ _) jobs
  have lastResult : resultOf? (deeds ++ [.conclude task.ticket result]) task.ticket =
      some result := by
    rw [resultOf?_concat, recorded.going task member]
    simp [Deed.resultOf?]
  constructor
  · exact matched.lined.conclude attended recorded member stage here
  · rw [allJobs, Oracle.serially_concat, List.map_append, results, matched.results, List.map_append,
      gives]
    simp only [List.map_cons, List.map_nil, lastResult]
  · rw [allJobs, Oracle.serially_concat]
    exact permanent
  · rw [allJobs, Oracle.serially_concat]
    exact standing

/-- A deed that is about no task and leaves the locks and what is stored. -/
theorem Matched.aside (matched : Matched oracle plan chain session initial deeds before order done)
    (attended : Attended before) (recorded : Recorded deeds before)
    (move : Move oracle.answering before deed after) (locks : after.locks = before.locks)
    (noCall : ∀ ticket, deed ≠ .callIn ticket) (noTask : ∀ ticket, ¬Changes ticket deed)
    (noEnd : ∀ ticket, deed.resultOf? ticket = none)
    (alike : Alike session after.backend before.backend) :
    Matched oracle plan chain session initial (deeds ++ [deed]) after
      (order ++ (after.locks.holders session).filter fun ticket => ticket ∉ order) done := by
  apply matched.goOn recorded move
  · apply matched.lined.unmoved recorded move
    · exact Nat.le_of_eq (congrArg LockTable.nextTicket locks).symm
    · exact congrArg (LockTable.holders · session) locks
    · exact congrArg (LockTable.queue · session) locks
    · exact fun ticket ends => absurd (noEnd ticket) ends
  · exact matched.standing.elsewhere attended move noCall (fun task _ _ => noTask task.ticket) alike

/-- Every ordinary deed keeps the operations that have ended in order. -/
theorem Matched.move (matched : Matched oracle plan chain session initial deeds before order done)
    (attended : Attended before) (recorded : Recorded deeds before)
    (quiet : Quiet plan chain before) (move : Move oracle.answering before deed after)
    (ordinary : deed.isOrdinary = true) :
    ∃ doneAfter, Matched oracle plan chain session initial (deeds ++ [deed]) after
      (order ++ (after.locks.holders session).filter fun ticket => ticket ∉ order) doneAfter := by
  have lined := matched.lined
  have standing := matched.standing
  cases move with
  | start operation =>
      have move : Move oracle.answering before _ _ := .start before operation
      refine ⟨done, matched.goOn recorded move (lined.start attended recorded operation) ?_⟩
      apply standing.elsewhere attended move
      · intro _ same
        contradiction
      · intro task member _ changes
        rw [start_eq] at changes
        exact Nat.ne_of_gt (attended.issued member) changes
      · exact .refl _ _
  | callIn ticket =>
      have move : Move oracle.answering before _ _ := .callIn before ticket
      refine ⟨done, matched.goOn recorded move (lined.callIn attended recorded ticket) ?_⟩
      exact standing.callIn attended recorded quiet matched.permanent ticket
  | @answer answered ticket task token question next answer found stage given =>
      have move : Move oracle.answering before _ _ := .answer found stage given
      obtain ⟨member, sameTicket⟩ := mem_of_task? _ _ found
      subst sameTicket
      have frame := (effect_of_mayAnswer (Oracle.mayAnswer_of_answering given)).frame
      refine ⟨done, matched.goOn recorded move ?_ ?_⟩
      · apply lined.unmoved recorded move
        · exact nextTicket_le_move Oracle.mayAnswer_of_answering move
        · exact congrArg (LockTable.holders · session) frame.locks
        · exact congrArg (LockTable.queue · session) frame.locks
        · exact fun ticket ends => absurd rfl ends
      · exact standing.answer attended quiet member stage given
  | @rest ticket task found =>
      have move : Move oracle.answering before (.rest ticket) _ := .rest found
      exact ⟨done, matched.aside attended recorded move rfl (by simp)
        (fun _ => id) (fun _ => rfl) (.refl _ _)⟩
  | @conclude ticket task token result found stage =>
      obtain ⟨member, sameTicket⟩ := mem_of_task? _ _ found
      subst sameTicket
      have move : Move oracle.answering before (.conclude task.ticket result) _ :=
        .conclude found stage
      by_cases here : task.operation.session = session
      · exact ⟨_, matched.conclude attended recorded member stage here⟩
      · refine ⟨done, matched.goOn recorded move
          (lined.conclude_elsewhere attended recorded member stage here) ?_⟩
        apply standing.elsewhere attended move
        · intro _ same
          contradiction
        · intro other otherMember same changes
          have isTask := attended.eq_of_ticket otherMember member changes
          exact here (isTask ▸ same)
        · exact .refl _ _
  | abandon ticket => contradiction
  | cancel session => contradiction
  | read asked =>
      have move : Move oracle.answering before (.read asked) _ := .read before asked
      have loaded := quiet.calm.permanent.load_eq asked before.now
      have alike : Alike session (before.transcript asked).2.backend before.backend := by
        simp only [transcript, loaded]
        exact .refl _ _
      exact ⟨done, matched.aside attended recorded move rfl (by simp)
        (fun _ => id) (fun _ => rfl) alike⟩
  | setNotes => contradiction
  | clock now =>
      have move : Move oracle.answering before (.clock now) _ := .clock before now
      exact ⟨done, matched.aside attended recorded move rfl (by simp)
        (fun _ => id) (fun _ => rfl) (.refl _ _)⟩

end Matched

/-- What every ordinary deed keeps, for one session. -/
structure InTurn (oracle : Oracle η H) (plan : Exchange.Plan η) (chain : Chain η H)
    (session : String) (initial : Backend) (deeds : List (Deed η H)) (office : Office η H)
    (order : List Nat) : Prop where
  attended : Attended office
  recorded : Recorded deeds office
  quiet : Quiet plan chain office
  matched : ∃ done, Matched oracle plan chain session initial deeds office order done

section InTurn

variable {oracle : Oracle η H} {plan : Exchange.Plan η} {chain : Chain η H} {session : String}
  {initial : Backend} {now : Int} {deeds : List (Deed η H)} {deed : Deed η H}
  {before after office : Office η H} {order : List Nat}

theorem InTurn.move (inTurn : InTurn oracle plan chain session initial deeds before order)
    (move : Move oracle.answering before deed after) (ordinary : deed.isOrdinary = true) :
    InTurn oracle plan chain session initial (deeds ++ [deed]) after
      (order ++ (after.locks.holders session).filter fun ticket => ticket ∉ order) := by
  obtain ⟨attended, recorded, quiet, done, matched⟩ := inTurn
  have allowed : Move MayAnswer before deed after :=
    move.mono fun _ _ _ _ _ => Oracle.mayAnswer_of_answering
  constructor
  · exact attended.move allowed
  · exact recorded.move attended id allowed
  · exact quiet.move attended move ordinary
  · exact matched.move attended recorded quiet move ordinary

theorem inTurn_new (oracle : Oracle η H) (plan : Exchange.Plan η) (chain : Chain η H)
    (session : String) (now : Int) (permanent : initial.Permanent) :
    InTurn oracle plan chain session initial [] (Office.new plan chain none initial now) [] where
  attended := attended_new plan chain none initial now
  recorded := recorded_nil plan chain none initial now
  quiet := ⟨rfl, rfl, ⟨rfl, rfl, permanent⟩, fun _ member => absurd member List.not_mem_nil⟩
  matched := by
    refine ⟨[], ?_, rfl, permanent, ?_⟩
    · constructor
      · rfl
      · exact List.nodup_nil
      · exact fun _ member => absurd member List.not_mem_nil
      · exact fun _ member => absurd member List.not_mem_nil
      · exact fun _ member => absurd member List.not_mem_nil
      · exact fun _ member => absurd member List.not_mem_nil
      · exact fun _ _ isStarted => nomatch isStarted
    · apply Standing.idle
      · exact fun _ running => absurd running.member List.not_mem_nil
      · exact .refl _ _

theorem Served.inTurn (permanent : initial.Permanent)
    (served : Served oracle.answering session (Office.new plan chain none initial now) deeds office
      order)
    (ordinary : ∀ deed ∈ deeds, deed.isOrdinary = true) :
    InTurn oracle plan chain session initial deeds office order := by
  induction served with
  | nil => exact inTurn_new oracle plan chain session now permanent
  | snoc _ move ih =>
      have before := ih fun deed member => ordinary deed (List.mem_append_left _ member)
      exact before.move move (ordinary _ (List.mem_append_right _ (List.mem_singleton_self _)))

/-- Let exchanges and deletions be started in an office that stores everything in memory for ever,
any number of them on any sessions, and let their questions be answered one at a time in any order
while the clock moves as it likes; those outside answer by functions of what they are asked.  For
each session, all operations that obtained its permit have ended but at most the last; the results
are those of performing them one after another in that order, each reading of the clock and of the
rate limits what it has read; and when nobody has the permit, the stored transcript is the one that
they lead to one after another. -/
theorem served_serially (permanent : initial.Permanent)
    (served : Served oracle.answering session (Office.new plan chain none initial now) deeds office
      order)
    (ordinary : ∀ deed ∈ deeds, deed.isOrdinary = true) :
    ∃ done,
      order = done ++ office.locks.holders session ∧ order.Nodup ∧
      (office.locks.holders session).length ≤ 1 ∧
      (∀ ticket ∈ office.locks.holders session, resultOf? deeds ticket = none) ∧
      (∀ ticket operation, operationOf? deeds ticket = some operation →
        operation.session = session → resultOf? deeds ticket ≠ none → ticket ∈ done) ∧
      done.map (resultOf? deeds) =
        (oracle.serially plan chain (jobsOf deeds done) initial).1.map some ∧
      (office.locks.holders session = [] →
        office.backend.stored session =
          (oracle.serially plan chain (jobsOf deeds done) initial).2.stored session) := by
  obtain ⟨attended, -, -, done, lined, results, -, standing⟩ := served.inTurn permanent ordinary
  refine ⟨done, lined.order_eq, lined.nodup, attended.sound.single session, lined.going,
    lined.complete, results, ?_⟩
  intro free
  cases standing with
  | idle _ alike => exact alike.stored
  | busy running =>
      have holders := attended.holders_of_runs running.member running.runs
      rw [running.session, free] at holders
      contradiction

end InTurn

/-! ### An exchange and a deletion at once -/

/-- Every message may pass, and the model always says the same. -/
def courteous : Oracle Unit noQuestions where
  secure := fun _ _ _ => .ok ()
  complete := fun _ => .ok (Turn.plain .assistant "welcome")
  handle := fun _ _ => .error "there is no intent"
  host := fun question => nomatch question

/-- Nothing can be called in the house. -/
def house : Exchange.Plan Unit :=
  { catalog := [], settings := .standard, opening := none, syntaxDetails := id }

/-- While somebody is greeted, another asks to delete the answer; they are polled out of turn. -/
def visited : Office Unit noQuestions :=
  let greeting : Operation :=
    .exchange { session := "hall", user := none, message := "hello", subset := none }
  let started := ((Office.new house [] none (.memory .empty) 0).start greeting).2
  let both := (started.start (.deletion "hall" 2)).2
  let polled := fun ticket office => (poll courteous.surroundings ticket (office, ())).2.1
  polled 1 (polled 0 (polled 1 both))

theorem served_serially_visited :
    (visited.backend.stored "hall").length = 1 ∧
      ∃ deeds order jobs,
        Served courteous.answering "hall" (Office.new house [] none (.memory .empty) 0) deeds
          visited order ∧
        (courteous.serially house [] jobs (.memory .empty)).2.stored "hall" =
          visited.backend.stored "hall" := by
  have polls : ∀ ticket office,
      Reaches courteous.answering (fun deed => deed.isOrdinary = true) office
        (poll courteous.surroundings ticket (office, ())).2.1 := fun ticket office =>
    poll_reaches courteous.follows_surroundings.admits ticket office ()
  have starts : ∀ operation (office : Office Unit noQuestions),
      Reaches courteous.answering (fun deed => deed.isOrdinary = true) office
        (office.start operation).2 := fun operation office =>
    .single rfl (.start office operation)
  have reached : Reaches courteous.answering (fun deed => deed.isOrdinary = true)
      (Office.new house [] none (.memory .empty) 0) visited :=
    (starts _ _).trans ((starts _ _).trans ((polls 1 _).trans ((polls 0 _).trans (polls 1 _))))
  obtain ⟨deeds, ordinary, run⟩ := reached
  obtain ⟨order, served⟩ := run.served "hall"
  have permanent : (Backend.memory .empty).Permanent :=
    ⟨fun _ member => absurd member List.not_mem_nil, fun _ member => absurd member List.not_mem_nil⟩
  obtain ⟨done, -, -, -, -, -, -, stored⟩ := served_serially permanent served ordinary
  have free : visited.locks.holders "hall" = [] := by decide +kernel
  exact ⟨by decide +kernel, deeds, order, jobsOf deeds done, served, (stored free).symm⟩

end Parley.Office
