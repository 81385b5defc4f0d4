/-
Module: Parley.Proofs.Office.Stopping
Layer: Proofs
Purpose: Cancelled exchanges.  From the moment at which the token of an exchange is tripped, whoever
  trips it and whatever the exchange is at then, it begins no request to the model and no call.  As
  soon as the step in flight is answered it ends when it is looked after: it is cancelled, unless the
  store fails or the step that it had begun last ends it by itself.
Main exports: Office.Remains, Office.Traced, Office.leftOver_obedient, Office.stops_when_cancelled
-/
import Parley.Proofs.Exchange.Stopped
import Parley.Proofs.Office.Seeding
import Parley.Proofs.Office.Tokens

namespace Parley.Office

open Exchange (Log Restrains Stopped StopsWith obedient stopped_of_after obedient_of_after)
open Program (After Asked EndsIn Stands runs_iff_after)

variable {η : Type} {H : Interface} {σ : Type}

/-! ### What is left of a task -/

/-- A task that ran under a token, with some work before it, has been answered since, and some work is
left of it; if it has ended, nothing is left but its result. -/
structure Remains (task : Task η H) (token : Option Nat) (work : Work η H) (more : List (Deed η H))
    (office : Office η H) (left : Work η H) : Prop where
  issued : task.ticket < office.locks.nextTicket
  asked : After work (askedBy more task.ticket) left
  still : ∀ other ∈ office.tasks, other.ticket = task.ticket → other = task.at token left
  ended : ∀ result, .conclude task.ticket result ∈ more → left = .done result

section Remains

variable {task : Task η H} {token : Option Nat} {work left : Work η H} {more : List (Deed η H)}
  {deed : Deed η H} {before after office : Office η H}

/-- What holds of the results with which a task has ended, and of the one with which it ends next,
holds of all of them. -/
theorem ended_concat {ticket : Nat} {holds : Except Fault Result → Prop}
    (earlier : ∀ result, .conclude ticket result ∈ more → holds result)
    (next : ∀ result, deed = .conclude ticket result → holds result) :
    ∀ result, .conclude ticket result ∈ more ++ [deed] → holds result := by
  intro result member
  rcases List.mem_append.1 member with early | late
  · exact earlier result early
  · exact next result (List.mem_singleton.1 late).symm

theorem Remains.kept (remains : Remains task token work more before left)
    (issued : task.ticket < after.locks.nextTicket) (still : ¬Changes task.ticket deed)
    (origin : ∀ other ∈ after.tasks, TaskOrigin MayAnswer before deed other) :
    Remains task token work (more ++ [deed]) after left where
  issued := issued
  asked := askedBy_of_not_changes more still ▸ remains.asked
  still := by
    intro other member same
    cases origin other member with
    | kept there _ => exact remains.still other there same
    | started _ isNew _ => exact absurd (same ▸ isNew) (Nat.ne_of_lt remains.issued)
    | begun old _ _ there waits _ begun =>
        subst begun
        rw [remains.still old there same] at waits
        contradiction
    | answered old _ question next answer _ isAnswer there _ _ answered =>
        subst answered isAnswer
        exact absurd same still
  ended := by
    apply ended_concat remains.ended
    rintro result rfl
    exact absurd rfl still

/-- Whatever is done next, some work is left. -/
theorem Remains.move (remains : Remains task token work more before left)
    (attended : Attended before) (move : Move MayAnswer before deed after) :
    ∃ rest, Remains task token work (more ++ [deed]) after rest := by
  have issued : task.ticket < after.locks.nextTicket :=
    Nat.lt_of_lt_of_le remains.issued (nextTicket_le_move id move)
  have origin : ∀ other ∈ after.tasks, TaskOrigin MayAnswer before deed other :=
    fun _ member => attended.mem_move id move member
  -- a deed that is not about the task leaves it alone, whichever deed it is
  by_cases still : ¬Changes task.ticket deed
  · exact ⟨left, remains.kept issued still origin⟩
  · have changes := Classical.not_not.1 still
    cases move with
    | start operation =>
        rw [start_eq] at changes
        exact absurd changes.symm (Nat.ne_of_lt remains.issued)
    | @answer answered ticket old oldToken question next answer found stage given =>
        obtain ⟨member, sameTicket⟩ := mem_of_task? _ _ found
        cases changes
        have isTask := remains.still old member sameTicket
        subst isTask
        cases stage
        refine ⟨next answer, issued, ?_, ?_, ?_⟩
        · rw [askedBy_answer]
          exact remains.asked.snoc answer
        · intro other isOther same
          rcases (mem_putTask_iff _ _).1 isOther with here | ⟨-, different⟩
          · exact here
          · exact absurd same different
        · apply ended_concat
          · intro result early
            cases remains.ended result early
          · intro result same
            cases same
    | @conclude ticket old oldToken result found stage =>
        obtain ⟨member, sameTicket⟩ := mem_of_task? _ _ found
        cases changes
        have isTask := remains.still old member sameTicket
        subst isTask
        cases stage
        refine ⟨.done result, issued, ?_, ?_, ?_⟩
        · rw [askedBy_concat]
          simpa [Deed.asked?] using remains.asked
        · intro other isOther same
          exact absurd same ((mem_dropTask_iff _).1 isOther).2
        · apply ended_concat remains.ended
          intro other same
          cases same
          rfl
    | abandon ticket =>
        cases changes
        refine ⟨left, issued, ?_, ?_, ?_⟩
        · rw [askedBy_concat]
          simpa [Deed.asked?] using remains.asked
        · intro other isOther same
          cases origin other isOther with
          | kept _ kept => exact absurd same.symm kept
          | started isStart => contradiction
          | begun _ _ isCall => contradiction
          | answered _ _ _ _ _ _ isAnswer => contradiction
        · apply ended_concat remains.ended
          intro result same
          cases same
    | callIn => exact changes.elim
    | rest => exact changes.elim
    | cancel => exact changes.elim
    | read => exact changes.elim
    | setNotes => exact changes.elim
    | clock => exact changes.elim

/-- Whatever is done after a task has begun to run, some work is left of it. -/
theorem Attended.remains (attended : Attended office) (member : task ∈ office.tasks)
    (stage : task.stage = .running token work) (run : Run MayAnswer office more after) :
    ∃ left, Remains task token work more after left := by
  induction run with
  | nil =>
      refine ⟨work, attended.issued member, .refl work, ?_, by simp⟩
      intro other isOther same
      rw [attended.eq_of_ticket member isOther same, Task.at, ← stage]
  | snoc run move ih =>
      obtain ⟨left, remains⟩ := ih
      exact remains.move (attended.run run) move

end Remains

/-! ### Whether an exchange has been cancelled -/

section Tripped

variable {office after : Office η H} {more : List (Deed η H)} {task : Task η H} {token : Nat}
  {work : Work η H}

/-- Tokens that have been tripped stay so. -/
theorem Run.still_tripped (run : Run MayAnswer office more after)
    (tripped : token ∈ office.cancels.tripped) : token ∈ after.cancels.tripped := by
  obtain ⟨actions, acts⟩ := run.acts
  exact acts.still_tripped tripped

theorem answer_of_tripped {before : Office η H} {answer : Bool}
    (tripped : token ∈ before.cancels.tripped)
    (answered : MayAnswer (some token) (.isCancelled : ExchangeQuestion (callInterface η H)) before
      answer after) : answer = true := by
  rcases answered with may | exact
  · exact may.elim
  · cases exact
    exact isTripped_iff.2 tripped

/-- Once its token is tripped, an exchange is told so whenever it asks. -/
theorem Attended.told_of_tripped (attended : Attended office) (member : task ∈ office.tasks)
    (stage : task.stage = .running (some token) work) (tripped : token ∈ office.cancels.tripped)
    (run : Run MayAnswer office more after) {answer : Bool}
    (asked : ⟨.isCancelled, answer⟩ ∈ askedBy more task.ticket) : answer = true := by
  induction run with
  | nil => exact absurd asked List.not_mem_nil
  | @snoc deeds deed before after run move ih =>
      rw [askedBy_concat] at asked
      rcases List.mem_append.1 asked with early | late
      · exact ih early
      · rw [Option.mem_toList] at late
        cases move with
        | @answer answered ticket other otherToken question next given found otherStage answers =>
            rw [Deed.asked?] at late
            split at late
            · next same =>
                cases late
                obtain ⟨isThere, sameTicket⟩ := mem_of_task? _ _ found
                obtain ⟨left, remains⟩ := attended.remains member stage run
                have isTask := remains.still other isThere (sameTicket.trans same)
                subst isTask
                cases otherStage
                exact answer_of_tripped (run.still_tripped tripped) answers
            · contradiction
        | _ => contradiction

end Tripped

/-! ### Where an exchange stands -/

section Traced

variable {plan : Exchange.Plan η} {chain : Chain η H} {input : Input} {log : Log}
  {left : Program (exchangeInterface wholeCalls) (Except Fault Reply)}
  {asked : List (Asked (Exchange.unfolded η H))} {work : Work η H}

/-- So far has an exchange come.  If each call is one question, those in `log` have been answered and
`left` is left; in the office those in `asked` have been answered, the last of which may be a part of
what a call asks, and `work` is left. -/
def Traced (plan : Exchange.Plan η) (chain : Chain η H) (input : Input) (log : Log)
    (left : Program (exchangeInterface wholeCalls) (Except Fault Reply))
    (asked : List (Asked (Exchange.unfolded η H))) (work : Work η H) : Prop :=
  ∃ now,
    Stands (Exchange.unfoldQuestion plan.syntaxDetails (plan.catalog.toolset input.subset) chain)
      (Exchange.run plan input).run log left asked now ∧
    work = now >>= fun reply => .done (reply.map .reply)

theorem Traced.after (traced : Traced plan chain input log left asked work) :
    After (Exchange.run plan input).run log left := by
  obtain ⟨now, stands, -⟩ := traced
  exact stands.after

theorem traced_work (plan : Exchange.Plan η) (chain : Chain η H) (input : Input) :
    ∃ log left, Traced plan chain input log left [] (Office.work plan chain (.exchange input)) := by
  obtain ⟨log, left, stands⟩ := Program.stands_embed
    (Exchange.unfoldQuestion plan.syntaxDetails (plan.catalog.toolset input.subset) chain)
    (Exchange.run plan input).run
  exact ⟨log, left, _, stands, rfl⟩

/-- An exchange goes on from where it stands. -/
theorem Traced.later {answers : List (Asked (Exchange.unfolded η H))} {rest : Work η H}
    (traced : Traced plan chain input log left asked work) (after : After work answers rest) :
    ∃ more final, Traced plan chain input (log ++ more) final (asked ++ answers) rest ∧
      ∀ one ∈ more,
        EndsIn
          (Exchange.unfoldQuestion plan.syntaxDetails (plan.catalog.toolset input.subset) chain)
          answers one := by
  obtain ⟨now, stands, rfl⟩ := traced
  obtain ⟨inner, goesOn, rfl⟩ := after.of_bind_done
  obtain ⟨more, final, standsThen, endsIn⟩ := stands.later goesOn
  exact ⟨more, final, ⟨inner, standsThen, rfl⟩, endsIn⟩

/-- If the office has said whenever it was asked that the exchange is cancelled, so has it been told. -/
theorem restrains_of_endsIn {answers : List (Asked (Exchange.unfolded η H))}
    {one : Asked (exchangeInterface wholeCalls)} {details : String → String} {tools : Toolset η}
    (endsIn : EndsIn (Exchange.unfoldQuestion details tools chain) answers one)
    (told : ∀ answer : Bool, ⟨.isCancelled, answer⟩ ∈ answers → answer = true) :
    Restrains one.question one.answer := by
  obtain ⟨question, answer⟩ := one
  cases question with
  | isCancelled =>
      obtain ⟨part, runs, isLast⟩ := endsIn
      have isPart := Program.runs_query_iff.1 runs
      subst isPart
      exact told answer (isLast _ rfl)
  | _ => exact trivial

/-- An exchange that has ended is done, and its work with it. -/
theorem Traced.done {result : Except Fault Result}
    (traced : Traced plan chain input log left asked (.done result)) :
    ∃ reply : Except Fault Reply, left = .done reply ∧ result = reply.map .reply := by
  obtain ⟨now, ⟨-, before, part, -, -, inside⟩, same⟩ := traced
  cases now with
  | ask question next => contradiction
  | done reply =>
      cases same
      cases left with
      | done other =>
          obtain ⟨-, isReply⟩ := inside
          cases isReply
          exact ⟨reply, rfl, rfl⟩
      | ask question next =>
          obtain ⟨inner, -, notDone, isNow⟩ := inside
          cases inner with
          | done _ => contradiction
          | ask _ _ => contradiction

end Traced

/-! ### Where tasks stand -/

/-- The office has a plan and a chain, and each task that runs is answered as the deeds say. -/
structure Begun (plan : Exchange.Plan η) (chain : Chain η H) (deeds : List (Deed η H))
    (office : Office η H) : Prop where
  attended : Attended office
  unasked : Unasked deeds office
  isPlan : office.plan = plan
  isChain : office.chain = chain
  asked : ∀ task ∈ office.tasks, ∀ token work, task.stage = .running token work →
    After (Office.work plan chain task.operation) (askedBy deeds task.ticket) work

section Begun

variable {plan : Exchange.Plan η} {chain : Chain η H} {deeds : List (Deed η H)} {deed : Deed η H}
  {before after office : Office η H}

theorem Begun.move (begun : Begun plan chain deeds before)
    (move : Move MayAnswer before deed after) : Begun plan chain (deeds ++ [deed]) after where
  attended := begun.attended.move move
  unasked := begun.unasked.move begun.attended move
  isPlan := move.settings.1.trans begun.isPlan
  isChain := move.settings.2.1.trans begun.isChain
  asked := by
    intro task member token work stage
    cases begun.attended.mem_move id move member with
    | kept there still =>
        rw [askedBy_of_not_changes deeds still]
        exact begun.asked task there token work stage
    | started _ _ waits =>
        rw [waits] at stage
        contradiction
    | begun old token isCall there waits _ begins =>
        subst begins isCall
        cases stage
        rw [askedBy_of_not_changes deeds id, begun.isPlan, begun.isChain]
        have none : askedBy deeds (old.at token (Office.work plan chain old.operation)).ticket = [] :=
          begun.unasked.waiting old there waits
        rw [none]
        exact .refl _
    | answered old token question next answer between isAnswer there oldStage given answered =>
        subst answered isAnswer
        cases stage
        have goesOn := (begun.asked old there _ _ oldStage).snoc answer
        rwa [← askedBy_answer deeds old.ticket] at goesOn

theorem Begun.run {ttl : Option Duration} {backend : Backend} {now : Int}
    (run : Run MayAnswer (.new plan chain ttl backend now) deeds office) :
    Begun plan chain deeds office := by
  induction run with
  | nil =>
      exact ⟨attended_new plan chain ttl backend now, unasked_nil plan chain ttl backend now, rfl,
        rfl, fun _ member => absurd member List.not_mem_nil⟩
  | snoc _ move ih => exact ih.move move

end Begun

/-! ### The end of a cancelled exchange -/

section Ending

variable {surroundings : Surroundings η H σ} {task : Task η H} {token : Nat} {office : Office η H}
  {state : σ}

/-- What the office itself answers goes on. -/
theorem leftOver_inside {token : Option Nat} {question : ExchangeQuestion (callInterface η H)}
    {act : StateM (Office η H) question.Answer} (isInside : inside? token question = some act)
    (next : question.Answer → Work η H) :
    leftOver surroundings task token (.ask question next) office state =
      leftOver surroundings task token (next (act office).1) (act office).2 state := by
  have responds : respond surroundings task.ticket token question (office, state) =
      (some (act office).1, (act office).2, state) := by
    simp only [respond, isInside]
    rfl
  have asks := leftOver_ask surroundings task token question next office state
  rw [responds] at asks
  exact asks

/-- A question of a cancelled exchange that is not for those outside is answered by the office. -/
theorem leftOver_unfoldQuestion (surroundings : Surroundings η H σ) (task : Task η H) (state : σ)
    {question : ExchangeQuestion wholeCalls} (notOutside : question.asksOutside = false)
    (tripped : token ∈ office.cancels.tripped) (tools : Toolset η) (chain : Chain η H) :
    ∃ (given : question.Answer) (after : Office η H),
      (∀ next : question.Answer → Work η H,
        leftOver surroundings task (some token)
            (Exchange.unfoldQuestion details tools chain question >>= next) office state =
          leftOver surroundings task (some token) (next given) after state) ∧
      Restrains question given ∧ after.cancels = office.cancels := by
  have goesOn : ∀ (asked : ExchangeQuestion (callInterface η H))
      {act : StateM (Office η H) asked.Answer} (_ : inside? (some token) asked = some act)
      (next : asked.Answer → Work η H),
      leftOver surroundings task (some token) (Exchange.askUnfolded asked >>= next) office state =
        leftOver surroundings task (some token) (next (act office).1) (act office).2 state :=
    fun _ _ isInside next => leftOver_inside isInside next
  cases question with
  | secure => contradiction
  | complete => contradiction
  | call => contradiction
  | load session => exact ⟨_, _, goesOn (.load session) rfl, trivial, rfl⟩
  | save session turns => exact ⟨_, _, goesOn (.save session turns) rfl, trivial, rfl⟩
  | loadNotes session => exact ⟨_, _, goesOn (.loadNotes session) rfl, trivial, rfl⟩
  | report event => exact ⟨_, _, goesOn (.report event) rfl, trivial, rfl⟩
  | isCancelled => exact ⟨_, _, goesOn .isCancelled rfl, isTripped_iff.2 tripped, rfl⟩
  | today => exact ⟨_, _, goesOn .today rfl, trivial, rfl⟩

/-- A cancelled exchange that asks nobody outside is run to its end. -/
theorem leftOver_obedient (surroundings : Surroundings η H σ) (task : Task η H) (state : σ)
    {program : Program (exchangeInterface wholeCalls) (Except Fault Reply)} {log : Log}
    (keeps : program.Keeps obedient (fun _ _ => True) log) (tools : Toolset η) (chain : Chain η H)
    (tripped : token ∈ office.cancels.tripped) :
    ∃ more reply, After program more (.done reply) ∧
      (∀ asked ∈ more, Restrains asked.question asked.answer) ∧
      (leftOver surroundings task (some token)
        (Program.embed (J := Exchange.unfolded η H)
          (Exchange.unfoldQuestion details tools chain) program >>=
          fun reply => .done (reply.map .reply)) office state).1 = .done (reply.map .reply) := by
  -- it is still told that it is cancelled, as none of its own questions changes its token
  induction program generalizing log office with
  | done reply => exact ⟨[], reply, .refl _, by simp, rfl⟩
  | ask question next ih =>
      obtain ⟨notOutside, goesOn⟩ := keeps
      obtain ⟨given, after, answered, restrains, sameCancels⟩ :=
        leftOver_unfoldQuestion surroundings task state notOutside tripped tools chain
      rw [← sameCancels] at tripped
      obtain ⟨more, reply, afterMore, allRestrain, ended⟩ :=
        ih given (goesOn given _ ⟨rfl, restrains⟩) tripped
      refine ⟨⟨question, given⟩ :: more, reply, .ask afterMore, ?_, ?_⟩
      · intro asked member
        rcases List.mem_cons.1 member with here | there
        · rw [here]
          exact restrains
        · exact allRestrain asked there
      · have goesThrough := answered fun given =>
          Program.embed (J := Exchange.unfolded η H) (Exchange.unfoldQuestion details tools chain)
            (next given) >>= fun reply => .done (reply.map .reply)
        rw [← ended, ← goesThrough, ← Program.bind_assoc]
        rfl

/-- A task that is run to its end has its result when it is looked after. -/
theorem poll_of_leftOver {work : Work η H} {result : Except Fault Result}
    (found : office.task? task.ticket = some task) (stage : task.stage = .running (some token) work)
    (ended : (leftOver surroundings task (some token) work office state).1 = .done result) :
    (poll surroundings task.ticket (office, state)).1 = some result := by
  have runs : office.callIn task.ticket = office := by simp only [callIn, found, stage]
  simp only [poll, runs, found, stage, advance]
  generalize leftOver surroundings task (some token) work office state = left at ended
  obtain ⟨left, after, outside⟩ := left
  cases ended
  rfl

/-- An exchange whose next question is not for those outside stands before that question. -/
theorem Traced.work_eq {plan : Exchange.Plan η} {chain : Chain η H} {input : Input} {log : Log}
    {left : Program (exchangeInterface wholeCalls) (Except Fault Reply)}
    {asked : List (Asked (Exchange.unfolded η H))} {work : Work η H}
    (traced : Traced plan chain input log left asked work)
    (quiet : ∀ question next, left = .ask question next → question.asksOutside = false) :
    work = (Program.embed (J := Exchange.unfolded η H)
      (Exchange.unfoldQuestion plan.syntaxDetails (plan.catalog.toolset input.subset) chain) left >>=
        fun reply => .done (reply.map .reply)) := by
  obtain ⟨now, ⟨-, before, part, -, -, inside⟩, rfl⟩ := traced
  cases left with
  | done reply => rw [inside.2]; rfl
  | ask question next =>
      obtain ⟨inner, after, notDone, rfl⟩ := inside
      have whole : ∀ (asked : ExchangeQuestion (callInterface η H))
          {inner : Program (Exchange.unfolded η H) asked.Answer},
          After (Exchange.askUnfolded asked) part inner → inner.isDone = false →
            inner = Exchange.askUnfolded asked := by
        intro asked inner after notDone
        cases after with
        | refl => rfl
        | ask more =>
            cases more
            contradiction
      have notOutside := quiet question next rfl
      cases question with
      | secure => contradiction
      | complete => contradiction
      | call => contradiction
      | load session => rw [whole (.load session) after notDone]; rfl
      | save session turns => rw [whole (.save session turns) after notDone]; rfl
      | loadNotes session => rw [whole (.loadNotes session) after notDone]; rfl
      | report event => rw [whole (.report event) after notDone]; rfl
      | isCancelled => rw [whole .isCancelled after notDone]; rfl
      | today => rw [whole .today after notDone]; rfl

end Ending

/-- The exchange of a task is told to stop after some deeds, when `early` has been answered and some
work is left of it; after some more deeds `early ++ late` has been, and `rest` is left. -/
structure StopsFrom (plan : Exchange.Plan η) (chain : Chain η H) (input : Input) (task : Task η H)
    (token : Nat) (work : Work η H) (deeds more : List (Deed η H)) (office : Office η H)
    (early late : Log) (left : Program (exchangeInterface wholeCalls) (Except Fault Reply))
    (rest : Work η H) : Prop where
  before : ∃ there, Traced plan chain input early there (askedBy deeds task.ticket) work
  since : Traced plan chain input (early ++ late) left (askedBy (deeds ++ more) task.ticket) rest
  still : ∀ other ∈ office.tasks, other.ticket = task.ticket → other = task.at (some token) rest
  /-- It has begun nothing since, and if it is done, it has ended as it may. -/
  stopped : Stopped plan early late left
  /-- So it is with the result with which its task ended. -/
  concluded : ∀ result, .conclude task.ticket result ∈ more → ∃ reply : Except Fault Reply,
    result = reply.map .reply ∧ StopsWith plan early (early ++ late) reply
  /-- Once the step in flight is over, it ends when it is looked after, whoever is outside. -/
  ends : late ≠ [] → ∀ other ∈ office.tasks, other.ticket = task.ticket →
    ∀ (σ : Type) (surroundings : Surroundings η H σ) (state : σ),
      ∃ (final : Log) (reply : Except Fault Reply),
        (poll surroundings task.ticket (office, state)).1 = some (reply.map .reply) ∧
          StopsWith plan early (early ++ (late ++ final)) reply

/-- Let the token of an exchange that runs in an office be tripped, after whatever has been done there.
Whatever is done then, the exchange begins no request to the model and no call: in what it asks
there is at most the rest of the step in flight, and after that nothing for those outside.  When this
step has been answered, looking after the exchange ends it, however those outside are.  It is then
cancelled; or the store has failed; or the step that it had begun last ends it by itself. -/
theorem stops_when_cancelled {plan : Exchange.Plan η} {chain : Chain η H} {ttl : Option Duration}
    {backend : Backend} {now : Int} {deeds more : List (Deed η H)} {middle after : Office η H}
    {task : Task η H} {token : Nat} {input : Input} {work : Work η H}
    (run : Run MayAnswer (.new plan chain ttl backend now) deeds middle)
    (member : task ∈ middle.tasks) (isExchange : task.operation = .exchange input)
    (stage : task.stage = .running (some token) work)
    (tripped : middle.cancels.isTripped token = true) (runOn : Run MayAnswer middle more after) :
    ∃ early late left rest,
      StopsFrom plan chain input task token work deeds more after early late left rest := by
  have begun := Begun.run run
  have isTripped := isTripped_iff.1 tripped
  obtain ⟨log, first, traced⟩ := traced_work plan chain input
  have askedWork := begun.asked task member _ _ stage
  rw [isExchange] at askedWork
  obtain ⟨early, there, before, -⟩ := traced.later askedWork
  rw [List.nil_append] at before
  obtain ⟨rest, remains⟩ := begun.attended.remains member stage runOn
  obtain ⟨late, left, since, endsIn⟩ := before.later remains.asked
  have restrains : ∀ asked ∈ late, Restrains asked.question asked.answer := by
    intro asked isLate
    apply restrains_of_endsIn (endsIn asked isLate)
    intro answer isAsked
    exact begun.attended.told_of_tripped member stage isTripped runOn isAsked
  have stopped := stopped_of_after since.after restrains
  have together : askedBy (deeds ++ more) task.ticket =
      askedBy deeds task.ticket ++ askedBy more task.ticket := List.filterMap_append
  refine ⟨log ++ early, late, left, rest, ⟨there, before⟩, together ▸ since, remains.still, stopped,
    ?_, ?_⟩
  · intro result ended
    have isDone := remains.ended result ended
    subst isDone
    obtain ⟨reply, isReply, same⟩ := since.done
    exact ⟨reply, same, stopped.ends reply isReply⟩
  · intro nonempty other isThere same σ surroundings state
    have isOther := remains.still other isThere same
    have runsOn : other.stage = .running (some token) rest := by rw [isOther]; rfl
    have found := (begun.attended.run runOn).task?_eq isThere
    have obeys := obedient_of_after since.after nonempty restrains
    obtain ⟨final, reply, goesOn, allRestrain, ended⟩ := leftOver_obedient surroundings other state
      obeys (plan.catalog.toolset input.subset) chain (runOn.still_tripped isTripped)
    rw [← since.work_eq (stopped.asks nonempty)] at ended
    refine ⟨final, reply, ?_, ?_⟩
    · rw [← same]
      exact poll_of_leftOver found runsOn ended
    · have whole := since.after.trans goesOn
      rw [List.append_assoc] at whole
      apply (stopped_of_after whole ?_).ends reply rfl
      intro asked isAsked
      rcases List.mem_append.1 isAsked with isLate | isFinal
      · exact restrains asked isLate
      · exact allRestrain asked isFinal

/-! ### Visitors who are turned away -/

section Visitors

/-- The fault with which a task has ended. -/
def faultOf? : Option (Except Fault Result) → Option Fault
  | some (.error fault) => some fault
  | _ => none

theorem eq_of_faultOf? {ended : Option (Except Fault Result)} {fault : Fault}
    (same : faultOf? ended = some fault) : ended = some (.error fault) := by
  cases ended with
  | none => contradiction
  | some result =>
      cases result with
      | ok result => contradiction
      | error other =>
          cases same
          rfl

/-- Every message may pass, but neither the lamp nor the model answers. -/
def silent : Surroundings Unit noQuestions Unit where
  secure := fun _ _ _ _ => pure (some (.ok ()))
  complete := fun _ _ => pure none
  handle := fun _ _ _ => pure none
  host := fun _ question => nomatch question

/-- Somebody enters the hall and waits for the lamp; then the visit is cancelled. -/
def heldUp : Office Unit noQuestions :=
  ((poll silent 0 ((hallOffice.start (.exchange entering)).2, ())).2.1.cancel "hall").2

/-- The lamp goes on after that. -/
def turnedAway : Option (Except Fault Result) × Office Unit noQuestions × Unit :=
  poll gloomy 0 (heldUp, ())

theorem stops_when_cancelled_turnedAway :
    turnedAway.1 = some (.error .cancelled) ∧
      (turnedAway.2.1.backend.stored "hall").map (·.role) = [.assistant, .tool] ∧
      ∃ deeds more task work early late left rest, Run MayAnswer hallOffice deeds heldUp ∧
        Run MayAnswer heldUp more turnedAway.2.1 ∧ heldUp.tasks = [task] ∧
        StopsFrom lampPlan [] entering task 0 work deeds more turnedAway.2.1 early late left rest := by
  refine ⟨eq_of_faultOf? (by decide +kernel), by decide +kernel, ?_⟩
  have started : Reaches MayAnswer (fun _ => True) hallOffice
      (hallOffice.start (.exchange entering)).2 := .single trivial (.start _ _)
  have waits := started.trans (poll_reaches (admits_mayAnswer silent) 0 _ ())
  obtain ⟨deeds, -, run⟩ := waits.trans (.single trivial (.cancel _ "hall"))
  obtain ⟨more, -, runOn⟩ := poll_reaches (admits_mayAnswer gloomy) 0 heldUp ()
  have one : (heldUp.tasks.map fun task => (task.operation, task.token?)) =
      [(.exchange entering, some 0)] := by decide +kernel
  obtain ⟨task, isTask, same⟩ := List.map_eq_singleton_iff.1 one
  obtain ⟨isExchange, isToken⟩ := Prod.mk.inj same
  cases stage : task.stage with
  | waiting =>
      rw [Task.token?, stage] at isToken
      contradiction
  | running token work =>
      rw [Task.token?, stage] at isToken
      subst isToken
      obtain ⟨early, late, left, rest, stops⟩ := stops_when_cancelled run
        (isTask ▸ List.mem_singleton_self task) isExchange stage (by decide +kernel) runOn
      exact ⟨deeds, more, task, work, early, late, left, rest, run, runOn, isTask, stops⟩

/-- Each session is opened by calling for the lamp, and not at all if this fails. -/
def strictPlan : Exchange.Plan Unit :=
  { lampPlan with
    opening := some { OpeningPlan.standard with calls := [⟨"lamp", .obj []⟩], policy := .strict } }

/-- Runs the handler, but denies that there was one. -/
def denying : Layer Unit noQuestions where
  name := "denying"
  priority := 100
  targets := []
  handle := fun next context => do
    let (_, after) ← next context
    pure (.error (.toolNotFound context.intent), after)

/-- Every message may pass; the lamp cancels the visit while it goes on, and the model never answers. -/
def defiant : Surroundings Unit noQuestions Unit where
  secure := fun _ _ _ _ => pure (some (.ok ()))
  complete := fun _ _ => pure none
  handle := fun _ _ _ state =>
    Program.ask (I := officeInterface) (.cancel "hall") fun _ => .done (some (.ok (.str "on")), state)
  host := fun _ question => nomatch question

/-- Somebody enters the hall, whose opening is strict. -/
def spoiled : Option (Except Fault Result) × Office Unit noQuestions × Unit :=
  poll defiant 0
    (((Office.new strictPlan [denying] none (.memory .empty) 0).start (.exchange entering)).2, ())

/-- What is asked there: the last is the call for the lamp, and the model could correct its error. -/
def spoiledLog : Log :=
  [⟨.secure none "hall" "hello", .ok ()⟩, ⟨.load "hall", .ok []⟩, ⟨.isCancelled, false⟩,
    ⟨.call (Opening.callFor "hall" [] (Opening.request ⟨"lamp", .obj []⟩ 0)),
      .error (.toolNotFound "lamp")⟩]

/-- An exchange that is cancelled while a call of a strict opening goes on may end with the failure of
the opening, though the store does not fail, the model is not asked and the call does not fail with
an error that would end another exchange. -/
theorem not_cancelled_spoiled :
    spoiled.1 = some (.error (.openingFailed "lamp" (CallError.toolNotFound "lamp").message)) ∧
      spoiled.2.1.cancels.isTripped 0 = true ∧
      Program.Runs (Exchange.run strictPlan entering).run spoiledLog
        (.error (.openingFailed "lamp" (CallError.toolNotFound "lamp").message)) ∧
      (∀ asked ∈ spoiledLog, Exchange.storeFault? asked = none ∧
        ∀ request, asked.question ≠ .complete request) ∧
      (CallError.toolNotFound "lamp").isRecoverable = true := by
  refine ⟨eq_of_faultOf? (by decide +kernel), by decide +kernel, .ask (.ask (.ask (.ask (.done _)))),
    ?_, rfl⟩
  simp only [spoiledLog, List.forall_mem_cons]
  exact ⟨⟨rfl, nofun⟩, ⟨rfl, nofun⟩, ⟨rfl, nofun⟩, ⟨rfl, nofun⟩, fun _ member => nomatch member⟩

end Visitors

end Parley.Office
