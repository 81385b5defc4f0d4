/-
Module: Parley.Proofs.Office.Isolation
Layer: Proofs
Purpose: Sessions do not see one another.  Take two offices with the same plan, layers and time to live,
  whatever has happened in each, in which the same is stored for a session and the same calls of it are
  in the windows of the rate limits.  Answer one message for that session in both, at the same times.
  The results are the same, so are the events and what is then stored for the session, and no other
  session can tell that the message was answered.
Main exports: Office.Lockstep, Office.Lockstep.leftOverAt, Office.Begins, Office.Unnoticed,
  Office.Isolated, Office.sessions_isolated
-/
import Parley.Proofs.Office.Neighbours
import Parley.Proofs.Office.Timed
import Parley.Proofs.Office.Tokens

namespace Parley.Office

open Program (Asked Runs)

variable {η : Type} {H : Interface} {session : String}

/-! ### Side by side -/

/-- Two exchanges of one session have come equally far, each in its office. -/
structure Lockstep (session : String) (oneToken twoToken : Option Nat)
    (oneBefore twoBefore one two : Office η H) : Prop where
  twins : Twins session one two
  ttl : one.ttl = two.ttl
  oneOrdered : Ordered one
  twoOrdered : Ordered two
  /-- They are told the same if they ask whether they have been cancelled. -/
  told : oneToken.any one.cancels.isTripped = twoToken.any two.cancels.isTripped
  oneSpares : Spares session oneBefore one
  twoSpares : Spares session twoBefore two
  reported : Reported oneBefore twoBefore one two

section Lockstep

variable {oneToken twoToken : Option Nat} {oneBefore twoBefore one two oneAfter twoAfter : Office η H}
  {oracle : Oracle η H}

/-- The clock moves on for both. -/
theorem Lockstep.tick
    (lockstep : Lockstep session oneToken twoToken oneBefore twoBefore one two)
    {now : Int} (forward : one.now ≤ now) :
    Lockstep session oneToken twoToken oneBefore twoBefore
      { one with now := now } { two with now := now } where
  twins := lockstep.twins.congr rfl rfl rfl rfl forward rfl
  ttl := lockstep.ttl
  oneOrdered := lockstep.oneOrdered
  twoOrdered := lockstep.twoOrdered
  told := lockstep.told
  oneSpares := lockstep.oneSpares.congr rfl rfl forward
  twoSpares := lockstep.twoSpares.congr rfl rfl (lockstep.twins.now ▸ forward)
  reported := lockstep.reported

/-- Both put a question about the session, and are answered alike. -/
theorem Lockstep.answer {question : ExchangeQuestion (callInterface η H)}
    {oneAnswer twoAnswer : question.Answer}
    (lockstep : Lockstep session oneToken twoToken oneBefore twoBefore one two)
    (minds : question.Minds session)
    (oneAnswered : oracle.answering oneToken question one oneAnswer oneAfter)
    (twoAnswered : oracle.answering twoToken question two twoAnswer twoAfter) :
    oneAnswer = twoAnswer ∧
      Lockstep session oneToken twoToken oneBefore twoBefore oneAfter twoAfter := by
  have oneMay := Oracle.mayAnswer_of_answering oneAnswered
  have twoMay := Oracle.mayAnswer_of_answering twoAnswered
  have oneFrame := (effect_of_mayAnswer oneMay).frame
  have twoFrame := (effect_of_mayAnswer twoMay).frame
  obtain ⟨same, twins, events, oneEvents, twoEvents⟩ := lockstep.twins.answer lockstep.ttl
    lockstep.oneOrdered lockstep.twoOrdered lockstep.told minds oneAnswered twoAnswered
  refine ⟨same, twins, ?_, lockstep.oneOrdered.answer oneMay, lockstep.twoOrdered.answer twoMay, ?_,
    lockstep.oneSpares.answer lockstep.oneOrdered minds oneAnswered,
    lockstep.twoSpares.answer lockstep.twoOrdered minds twoAnswered, ?_⟩
  · rw [oneFrame.ttl, twoFrame.ttl, lockstep.ttl]
  · rw [oneFrame.cancels, twoFrame.cancels, lockstep.told]
  · obtain ⟨earlier, oneEarlier, twoEarlier⟩ := lockstep.reported
    refine ⟨events ++ earlier, ?_, ?_⟩
    · rw [oneEvents, oneEarlier, List.append_assoc]
    · rw [twoEvents, twoEarlier, List.append_assoc]

/-- The office and the oracle answer every question at once. -/
theorem respond_surroundings (oracle : Oracle η H) (ticket : Nat) (token : Option Nat)
    (question : ExchangeQuestion (callInterface η H)) (office : Office η H) :
    ∃ answer after, respond oracle.surroundings ticket token question (office, ()) =
      (some answer, after, ()) ∧ oracle.answering token question office answer after := by
  cases question with
  | secure => exact ⟨_, _, rfl, rfl, rfl⟩
  | complete => exact ⟨_, _, rfl, rfl, rfl⟩
  | call question =>
      cases question with
      | handle => exact ⟨_, _, rfl, rfl, rfl⟩
      | host => exact ⟨_, _, rfl, rfl, rfl⟩
      | _ => exact ⟨_, _, rfl, rfl⟩
  | _ => exact ⟨_, _, rfl, rfl⟩

/-- All work can be run to an end. -/
theorem exists_runs (oracle : Oracle η H) (work : Work η H) : ∃ log result, Runs work log result := by
  obtain ⟨log, -, runs⟩ := Program.runs_recording (I := Exchange.unfolded η H) oracle.alone work
    (.memory .empty, []) []
  exact ⟨log, _, runs⟩

/-- Work that asks about the session only comes to the same end in both. -/
theorem Lockstep.leftOverAt {clock : Nat → Int} (forward : ∀ asked, clock asked ≤ clock (asked + 1))
    (oracle : Oracle η H) (oneTicket twoTicket : Nat) {work : Work η H} {asked : Nat}
    (minds : ∀ log result, Runs work log result →
      ∀ one ∈ log, one.question.Minds session)
    (lockstep : Lockstep session oneToken twoToken oneBefore twoBefore one two)
    (begins : one.now ≤ clock asked) :
    ∃ result oneAfter twoAfter,
      leftOverAt clock oracle.surroundings oneTicket oneToken work asked one () =
        (.done result, oneAfter, ()) ∧
      leftOverAt clock oracle.surroundings twoTicket twoToken work asked two () =
        (.done result, twoAfter, ()) ∧
      Lockstep session oneToken twoToken oneBefore twoBefore oneAfter twoAfter := by
  induction work generalizing asked one two with
  | done result => exact ⟨result, one, two, rfl, rfl, lockstep⟩
  | ask question next ih =>
      obtain ⟨oneAnswer, oneThen, oneResponds, oneAnswered⟩ :=
        respond_surroundings oracle oneTicket oneToken question { one with now := clock asked }
      obtain ⟨twoAnswer, twoThen, twoResponds, twoAnswered⟩ :=
        respond_surroundings oracle twoTicket twoToken question { two with now := clock asked }
      have isMinded : ExchangeQuestion.Minds session question := by
        obtain ⟨log, result, runs⟩ := exists_runs oracle (next oneAnswer)
        exact minds _ result (.ask runs) _ List.mem_cons_self
      -- both are given the same answer, so the work that is left is the same again
      obtain ⟨rfl, answered⟩ := (lockstep.tick begins).answer isMinded oneAnswered twoAnswered
      have still : oneThen.now = clock asked :=
        (effect_of_mayAnswer (Oracle.mayAnswer_of_answering oneAnswered)).frame.now
      obtain ⟨result, oneAfter, twoAfter, oneEnds, twoEnds, ended⟩ := ih oneAnswer
        (fun log result runs one member => minds _ result (.ask runs) one
          (List.mem_cons_of_mem _ member))
        answered (still ▸ forward asked)
      refine ⟨result, oneAfter, twoAfter, ?_, ?_, ended⟩
      · rw [Office.leftOverAt, oneResponds]
        exact oneEnds
      · rw [Office.leftOverAt, twoResponds]
        exact twoEnds

end Lockstep

/-! ### From the start to the end -/

section Whole

variable {office before after : Office η H} {input : Input}

/-- An office with a plan, layers and a time to live, after whatever has happened in it. -/
structure Seasoned (plan : Exchange.Plan η) (chain : Chain η H) (ttl : Option Duration)
    (office : Office η H) : Prop where
  tokened : Tokened office
  ordered : Ordered office
  isPlan : office.plan = plan
  isChain : office.chain = chain
  isTtl : office.ttl = ttl

theorem seasoned_run {plan : Exchange.Plan η} {chain : Chain η H} {ttl : Option Duration}
    {backend : Backend} {began : Int} {deeds : List (Deed η H)}
    (run : Run MayAnswer (.new plan chain ttl backend began) deeds office) :
    Seasoned plan chain ttl office := by
  obtain ⟨actions, acts⟩ := run.acts
  obtain ⟨isPlan, isChain, isTtl⟩ := run.settings
  exact ⟨(tokened_new plan chain ttl backend began).acts acts, ordered_run run, isPlan, isChain,
    isTtl⟩

/-- Two offices hold the same at the same time, and have reported the same. -/
structure SameHoldings (before after : Office η H) : Prop where
  backend : after.backend = before.backend
  windows : after.windows = before.windows
  now : after.now = before.now
  ttl : after.ttl = before.ttl
  reports : after.reports = before.reports

/-- An exchange that has begun: it runs under a token that is not tripped, and nothing that is stored
or reported has changed. -/
structure Begins (office begun : Office η H) (input : Input) (token : Nat) : Prop where
  runs : ∃ task, begun.task? office.locks.nextTicket = some task ∧
    task.ticket = office.locks.nextTicket ∧
    task.stage = .running (some token) (work office.plan office.chain (.exchange input))
  untripped : begun.cancels.isTripped token = false
  holds : SameHoldings office begun

/-- A message has been taken in: its exchange waits. -/
theorem started_exchange (office : Office η H) (input : Input) :
    (office.start (.exchange input)).1 = office.locks.nextTicket ∧
      SameHoldings office (office.start (.exchange input)).2 ∧
      (office.start (.exchange input)).2.task? office.locks.nextTicket =
        some { ticket := office.locks.nextTicket, operation := .exchange input
               stage := .waiting } := by
  rw [start_eq]
  exact ⟨rfl, ⟨rfl, rfl, rfl, rfl, rfl⟩, task?_putTask _ _⟩

/-- An exchange of a session whose permit is free begins at once. -/
theorem Tokened.begins_start (tokened : Tokened office)
    (free : office.locks.holders input.session = []) :
    Begins office ((office.start (.exchange input)).2.callIn office.locks.nextTicket) input
      office.cancels.next := by
  let waiting : Task η H :=
    { ticket := office.locks.nextTicket, operation := .exchange input, stage := .waiting }
  have attended := tokened.attended
  have found : (office.start (.exchange input)).2.task? waiting.ticket = some waiting :=
    (started_exchange office input).2.2
  have started : (office.start (.exchange input)).2 =
      { office with locks := (office.locks.acquire input.session).2 }.putTask waiting := by
    rw [start_eq]
    rfl
  have holders : (office.start (.exchange input)).2.locks.holders input.session =
      [waiting.ticket] := by
    rw [started]
    exact (attended.sound.holders_acquire _ _).trans (if_pos ⟨rfl, free⟩)
  have held := (attended.start (.exchange input)).held_of_holders (mem_of_task? _ _ found).1 holders
  have begun := callIn_of_held found rfl held
  rw [begun, started]
  refine ⟨⟨_, task?_putTask _ _, rfl, rfl⟩, ?_, rfl, rfl, rfl, rfl, rfl⟩
  rw [Bool.eq_false_iff, ne_eq, isTripped_iff]
  exact fun tripped => Nat.lt_irrefl _ (tokened.tripped _ tripped)

/-- Once the work of an exchange has come to its end, so has the answer to its message. -/
theorem Begins.handleAt {token : Nat} {σ : Type} {surroundings : Surroundings η H σ}
    {outside left : σ} {clock : Nat → Int} {result : Except Fault Result}
    (begins : Begins office
      ((office.start (.exchange input)).2.callIn office.locks.nextTicket) input token)
    (ended : Office.leftOverAt clock surroundings office.locks.nextTicket (some token)
      (work office.plan office.chain (.exchange input)) 0
      ((office.start (.exchange input)).2.callIn office.locks.nextTicket) outside =
        (.done result, after, left)) :
    ∃ concluded, Office.handleAt clock surroundings input (office, outside) =
        (some result, concluded, left) ∧ SameHoldings after concluded := by
  obtain ⟨task, found, sameTicket, stage⟩ := begins.runs
  rw [← sameTicket] at found ended
  have polled := pollAt_of_done found stage ended
  refine ⟨after.conclude task (some token), ?_, rfl, rfl, rfl, rfl, rfl⟩
  rw [← polled, sameTicket, ← (started_exchange office input).1]
  rfl

/-- A message for a session whose permit is in use waits. -/
theorem Attended.handleAt_of_held (attended : Attended office)
    (inUse : office.locks.holders input.session ≠ []) {σ : Type}
    (surroundings : Surroundings η H σ) (clock : Nat → Int) (outside : σ) :
    ∃ waits, Office.handleAt clock surroundings input (office, outside) = (none, waits, outside) ∧
      SameHoldings office waits := by
  let waiting : Task η H :=
    { ticket := office.locks.nextTicket, operation := .exchange input, stage := .waiting }
  obtain ⟨ticketEq, holds, found⟩ := started_exchange office input
  have holders : (office.start (.exchange input)).2.locks.holders input.session =
      office.locks.holders input.session := by
    rw [start_eq]
    exact (attended.sound.holders_acquire _ _).trans (if_neg fun both => inUse both.2)
  have notHeld : ((office.start (.exchange input)).2.locks.poll waiting.ticket).1 = false := by
    rw [Bool.eq_false_iff]
    intro held
    have member := (mem_of_task? _ _ found).1
    have isHolder : (office.start (.exchange input)).2.locks.holders input.session =
        [office.locks.nextTicket] :=
      (attended.start (.exchange input)).holders_of_poll member held
    -- its ticket has only just been issued, so nobody can have held the permit with it
    have held : office.locks.nextTicket ∈ office.locks.holders input.session := by
      rw [← holders, isHolder]
      exact List.mem_singleton_self _
    obtain ⟨claim, claimMember, -, -, sameTicket⟩ := LockTable.mem_holdingIn.1 held
    exact absurd sameTicket (Nat.ne_of_lt (attended.sound.issued claim claimMember))
  have called := callIn_of_not_held found rfl notHeld
  have stays : ((office.start (.exchange input)).2.callIn waiting.ticket).task? waiting.ticket =
      some waiting := by
    rw [called]
    exact found
  refine ⟨(office.start (.exchange input)).2.callIn waiting.ticket, ?_, ?_⟩
  · rw [Office.handleAt]
    dsimp only
    rw [ticketEq]
    exact pollAt_of_waits stays rfl
  · rw [called]
    exact ⟨holds.backend, holds.windows, holds.now, holds.ttl, holds.reports⟩

/-- No session but one can tell what has happened: the same can be read of all others, and their
calls are admitted as before, from then on. -/
structure Unnoticed (session : String) (before after : Office η H) : Prop
    extends Spares session before after where
  admission : ∀ limit other later, other ≠ session → after.now ≤ later →
    (({ after with now := later } : Office η H).grant limit other).1 =
      (({ before with now := later } : Office η H).grant limit other).1

theorem Spares.unnoticed (spares : Spares session before after)
    (ordered : Ordered before) (orderedAfter : Ordered after) :
    Unnoticed session before after where
  toSpares := spares
  admission := by
    intro limit other later different isLater
    have calls := spares.calls limit other later different isLater
    have admitted : (RateWindow.grant limit later other (after.window limit)).1 =
        (RateWindow.grant limit later other (before.window limit)).1 := by
      rw [RateWindow.grant_fst (orderedAfter _), RateWindow.grant_fst (ordered _), calls]
    exact admitted

/-- Calls of other sessions are admitted as before at once. -/
theorem Unnoticed.grant_eq (unnoticed : Unnoticed session before after)
    (now : after.now = before.now) (limit : RateLimit) (other : String)
    (different : other ≠ session) : (after.grant limit other).1 = (before.grant limit other).1 := by
  have same := unnoticed.admission limit other after.now different (Int.le_refl _)
  have still : { before with now := after.now } = before := by rw [now]
  rwa [still] at same

/-- A message for a session has been taken in two offices. -/
structure Isolated (session : String) (one two oneAfter twoAfter : Office η H) : Prop where
  /-- The same events have been reported. -/
  reported : Reported one two oneAfter twoAfter
  /-- The same can be read of the session, and the same calls of it are in the windows. -/
  twins : Twins session oneAfter twoAfter
  /-- No other session notices. -/
  oneUnnoticed : Unnoticed session one oneAfter
  twoUnnoticed : Unnoticed session two twoAfter

section Isolated

variable {plan : Exchange.Plan η} {chain : Chain η H} {ttl : Option Duration}
  {one two oneEnd twoEnd oneAfter twoAfter : Office η H} {oneToken twoToken : Option Nat}

/-- Two offices in which nothing has been done for a session yet. -/
theorem Seasoned.lockstep (oneSeasoned : Seasoned plan chain ttl one)
    (twoSeasoned : Seasoned plan chain ttl two) (twins : Twins session one two) :
    Lockstep session none none one two one two where
  twins := twins
  ttl := oneSeasoned.isTtl.trans twoSeasoned.isTtl.symm
  oneOrdered := oneSeasoned.ordered
  twoOrdered := twoSeasoned.ordered
  told := rfl
  oneSpares := .refl one
  twoSpares := .refl two
  reported := ⟨[], rfl, rfl⟩

/-- Other tokens do not matter as long as they have not been tripped, nor does anything else but what
the offices hold and have reported. -/
theorem Lockstep.congr
    (lockstep : Lockstep session oneToken twoToken one two oneEnd twoEnd)
    (oneSame : SameHoldings oneEnd oneAfter) (twoSame : SameHoldings twoEnd twoAfter)
    {oneOther twoOther : Option Nat}
    (told : oneOther.any oneAfter.cancels.isTripped = twoOther.any twoAfter.cancels.isTripped) :
    Lockstep session oneOther twoOther one two oneAfter twoAfter where
  twins := lockstep.twins.congr oneSame.backend twoSame.backend oneSame.windows twoSame.windows
    (Int.le_of_eq oneSame.now.symm) (by rw [oneSame.now, twoSame.now, lockstep.twins.now])
  ttl := by rw [oneSame.ttl, twoSame.ttl, lockstep.ttl]
  oneOrdered := lockstep.oneOrdered.congr oneSame.windows
  twoOrdered := lockstep.twoOrdered.congr twoSame.windows
  told := told
  oneSpares := lockstep.oneSpares.congr oneSame.backend oneSame.windows
    (Int.le_of_eq oneSame.now.symm)
  twoSpares := lockstep.twoSpares.congr twoSame.backend twoSame.windows
    (Int.le_of_eq twoSame.now.symm)
  reported := by
    obtain ⟨events, oneEvents, twoEvents⟩ := lockstep.reported
    exact ⟨events, oneSame.reports.trans oneEvents, twoSame.reports.trans twoEvents⟩

theorem Lockstep.isolated
    (lockstep : Lockstep session oneToken twoToken one two oneAfter twoAfter)
    (oneOrdered : Ordered one) (twoOrdered : Ordered two) :
    Isolated session one two oneAfter twoAfter where
  reported := lockstep.reported
  twins := lockstep.twins
  oneUnnoticed := lockstep.oneSpares.unnoticed oneOrdered lockstep.oneOrdered
  twoUnnoticed := lockstep.twoSpares.unnoticed twoOrdered lockstep.twoOrdered

/-- All that the work of an exchange asks is about its session. -/
theorem minds_work {log : List (Asked _)} {result : Except Fault Result}
    (layers : ∀ layer ∈ chain, layer.KeepsSession)
    (runs : Runs (work plan chain (.exchange input)) log result) :
    ∀ asked ∈ log, asked.question.Minds input.session := by
  obtain ⟨first, reply, rest, rfl, runsExchange, runsRest⟩ := Program.runs_bind_iff.1 runs
  cases runsRest
  rw [List.append_nil]
  exact Exchange.minds_of_runs layers runsExchange

/-- If the permit of the session is free in both, a message for it is answered alike. -/
theorem Lockstep.answers {oracle : Oracle η H} {clock : Nat → Int}
    (lockstep : Lockstep input.session none none one two one two)
    (oneSeasoned : Seasoned plan chain ttl one) (twoSeasoned : Seasoned plan chain ttl two)
    (layers : ∀ layer ∈ chain, layer.KeepsSession)
    (oneFree : one.locks.holders input.session = [])
    (twoFree : two.locks.holders input.session = [])
    (begins : one.now ≤ clock 0) (forward : ∀ asked, clock asked ≤ clock (asked + 1)) :
    ∃ result oneAfter twoAfter,
      handleAt clock oracle.surroundings input (one, ()) = (some result, oneAfter, ()) ∧
      handleAt clock oracle.surroundings input (two, ()) = (some result, twoAfter, ()) ∧
      Lockstep input.session none none one two oneAfter twoAfter := by
  have oneBegins := oneSeasoned.tokened.begins_start oneFree
  have twoBegins := twoSeasoned.tokened.begins_start twoFree
  have begun := lockstep.congr oneBegins.holds twoBegins.holds
    (show (some _).any _ = (some _).any _ from oneBegins.untripped.trans twoBegins.untripped.symm)
  obtain ⟨result, oneEnd, twoEnd, oneEnds, twoEnds, ended⟩ := begun.leftOverAt forward oracle
    one.locks.nextTicket two.locks.nextTicket
    (fun _ _ (runs : Runs (work plan chain (.exchange input)) _ _) => minds_work layers runs)
    (oneBegins.holds.now ▸ begins)
  rw [← oneSeasoned.isPlan, ← oneSeasoned.isChain] at oneEnds
  rw [← twoSeasoned.isPlan, ← twoSeasoned.isChain] at twoEnds
  obtain ⟨oneAfter, oneHandled, oneSame⟩ := oneBegins.handleAt oneEnds
  obtain ⟨twoAfter, twoHandled, twoSame⟩ := twoBegins.handleAt twoEnds
  exact ⟨result, oneAfter, twoAfter, oneHandled, twoHandled, ended.congr oneSame twoSame rfl⟩

end Isolated

/-- Whatever has happened in two offices with one plan, one time and the same layers: if the same can
be read of a session in both, the same calls of it are in the windows, and its permit is free in both
or in use in both, a message for it is answered alike in both, or waits in both.  Those outside answer
by functions of what they are asked, the layers leave the session of a context as they find it, and the
clock moves on in the same way.  No other session notices. -/
theorem sessions_isolated {plan : Exchange.Plan η} {chain : Chain η H} {ttl : Option Duration}
    {oneStore twoStore : Backend} {oneBegan twoBegan : Int} {oneDeeds twoDeeds : List (Deed η H)}
    {one two : Office η H}
    (oneRun : Run MayAnswer (.new plan chain ttl oneStore oneBegan) oneDeeds one)
    (twoRun : Run MayAnswer (.new plan chain ttl twoStore twoBegan) twoDeeds two)
    (oracle : Oracle η H) (clock : Nat → Int) (input : Input)
    (layers : ∀ layer ∈ chain, layer.KeepsSession)
    (permits : one.locks.holders input.session = [] ↔ two.locks.holders input.session = [])
    (twins : Twins input.session one two)
    (begins : one.now ≤ clock 0) (forward : ∀ asked, clock asked ≤ clock (asked + 1)) :
    ∃ result oneAfter twoAfter,
      handleAt clock oracle.surroundings input (one, ()) = (result, oneAfter, ()) ∧
      handleAt clock oracle.surroundings input (two, ()) = (result, twoAfter, ()) ∧
      (result.isSome = true ↔ one.locks.holders input.session = []) ∧
      Isolated input.session one two oneAfter twoAfter := by
  have oneSeasoned := seasoned_run oneRun
  have twoSeasoned := seasoned_run twoRun
  have lockstep := oneSeasoned.lockstep twoSeasoned twins
  by_cases free : one.locks.holders input.session = []
  · obtain ⟨result, oneAfter, twoAfter, oneHandled, twoHandled, answered⟩ :=
      lockstep.answers oneSeasoned twoSeasoned layers free (permits.1 free) begins forward
    exact ⟨some result, oneAfter, twoAfter, oneHandled, twoHandled, iff_of_true rfl free,
      answered.isolated oneSeasoned.ordered twoSeasoned.ordered⟩
  · obtain ⟨oneAfter, oneHandled, oneSame⟩ := oneSeasoned.tokened.attended.handleAt_of_held free
      oracle.surroundings clock ()
    obtain ⟨twoAfter, twoHandled, twoSame⟩ := twoSeasoned.tokened.attended.handleAt_of_held
      (fun twoFree => free (permits.2 twoFree)) oracle.surroundings clock ()
    have waits : Lockstep input.session none none one two oneAfter twoAfter :=
      lockstep.congr oneSame twoSame rfl
    exact ⟨none, oneAfter, twoAfter, oneHandled, twoHandled, iff_of_false Bool.false_ne_true free,
      waits.isolated oneSeasoned.ordered twoSeasoned.ordered⟩

end Whole

/-! ### A hall and a kitchen -/

section House

/-- Every message may pass, and the lamp works.  The model asks for the lamp when the user has spoken,
and then answers. -/
def obliging : Oracle Unit noQuestions where
  secure := fun _ _ _ => .ok ()
  complete := fun request =>
    match request.transcript.getLast? with
    | some turn =>
        if turn.role = .user then
          .ok (Turn.asking "" [{ id := "", tool := "lamp", arguments := "\x7b\x7d" }])
        else .ok (Turn.plain .assistant "there is light")
    | none => .error (.model "dim" "nothing was said")
  handle := fun _ _ => .ok (.str "on")
  host := fun question => nomatch question

/-- Two calls in a minute. -/
def perMinute : RateLimit :=
  { number := 0, maxCalls := 2, window := .ofSeconds 60, targets := [] }

/-- Puts what the user said among the arguments of each call. -/
def quoting : Layer Unit noQuestions where
  name := "quoting"
  priority := 5
  targets := []
  handle := fun next context =>
    let arguments := Dictionary.insert "said" (.str context.message) context.arguments
    next { context with arguments := arguments }

/-- A house with a lamp in each room, in which nothing has happened. -/
def houseWith (layers : Chain Unit noQuestions) : Office Unit noQuestions :=
  .new lampPlan layers none (.memory .empty) 0

/-- A house whose layers leave the session of a context as they find it. -/
def quietHouse : Office Unit noQuestions := houseWith [.logging, quoting, .rateLimit perMinute]

/-- Somebody enters the kitchen. -/
def cooking : Input := { entering with session := "kitchen" }

/-- The house after that. -/
def busyHouse : Office Unit noQuestions :=
  (handleAt (fun _ => 0) obliging.surroundings cooking (quietHouse, ())).2.1

theorem keepsSession_house :
    ∀ layer ∈ ([.logging, quoting, .rateLimit perMinute] : Chain Unit noQuestions),
      layer.KeepsSession := by
  have quotes : quoting.KeepsSession := fun _ _ rest _ isSession => rest _ isSession
  intro layer member
  rcases List.mem_cons.1 member with here | there
  · rw [here]
    exact Layer.keepsSession_logging
  · rcases List.mem_cons.1 there with here | last
    · rw [here]
      exact quotes
    · rw [List.mem_singleton.1 last]
      exact Layer.keepsSession_rateLimit perMinute

theorem twins_houseWith (layers : Chain Unit noQuestions) (session : String) :
    Twins session (houseWith layers) (houseWith layers) :=
  ⟨rfl, ⟨rfl, fun _ _ => rfl⟩, fun _ => rfl⟩

/-- In the hall nobody can tell that the kitchen has had its calls, nor the other way round. -/
theorem sessions_isolated_house :
    (quietHouse.grant perMinute "kitchen").1 = true ∧
      (busyHouse.grant perMinute "kitchen").1 = false ∧
      ∃ result quietAfter busyAfter,
        handleAt (fun asked => asked) obliging.surroundings entering (quietHouse, ()) =
          (result, quietAfter, ()) ∧
        handleAt (fun asked => asked) obliging.surroundings entering (busyHouse, ()) =
          (result, busyAfter, ()) ∧
        result.isSome = true ∧ Isolated "hall" quietHouse busyHouse quietAfter busyAfter := by
  have quietRun : Run MayAnswer quietHouse [] quietHouse := .nil
  have free : ∀ session, quietHouse.locks.holders session = [] := fun _ => rfl
  have notices : Unnoticed "kitchen" quietHouse busyHouse := by
    obtain ⟨result, after, afterToo, handled, -, -, isolated⟩ :=
      sessions_isolated quietRun quietRun obliging (fun _ => 0) cooking keepsSession_house
        Iff.rfl (twins_houseWith _ "kitchen") (Int.le_refl 0) fun _ => Int.le_refl 0
    have isAfter : busyHouse = after := by rw [busyHouse, handled]
    rw [isAfter]
    exact isolated.oneUnnoticed
  have busyRun : ∃ deeds, Run MayAnswer quietHouse deeds busyHouse := by
    obtain ⟨deeds, -, run⟩ := handleAt_reaches (admits_mayAnswer obliging.surroundings)
      (fun _ => trivial) (fun _ _ => trivial) (fun _ => 0) cooking quietHouse ()
    exact ⟨deeds, run⟩
  have busyNow : busyHouse.now = 0 := by decide +kernel
  have busyFree : busyHouse.locks.holders "hall" = [] := by decide +kernel
  have twins : Twins "hall" quietHouse busyHouse := by
    refine ⟨busyNow.symm, ⟨by decide +kernel, ?_⟩, ?_⟩
    · intro later _
      exact (notices.reads "hall" (by decide) later).symm
    · intro limit
      exact (notices.calls limit "hall" 0 (by decide) (Int.le_of_eq busyNow)).symm
  obtain ⟨deeds, busyRun⟩ := busyRun
  obtain ⟨result, quietAfter, busyAfter, quietHandled, busyHandled, answered, isolated⟩ :=
    sessions_isolated quietRun busyRun obliging (fun asked => asked) entering keepsSession_house
      (iff_of_true (free _) busyFree) twins (Int.le_refl 0) fun asked => by omega
  exact ⟨by decide +kernel, by decide +kernel, result, quietAfter, busyAfter, quietHandled,
    busyHandled, answered.2 (free _), isolated⟩

/-- Puts each call on the account of the kitchen. -/
def rerouting : Layer Unit noQuestions where
  name := "rerouting"
  priority := 5
  targets := []
  handle := fun next context => next { context with session := "kitchen" }

/-- How long the transcript of a session is once a message for it has been answered. -/
def lengthAfter : Option (Except Fault Result) → Option Nat
  | some (.ok (.reply reply)) => some reply.length
  | _ => none

/-- The layers and the permit have to be as they are required to be.  Where a layer gives a context
another session, a message for the hall is answered or fails, as the kitchen has calls left or not; and
once it has been answered, the kitchen has none left.  And where an exchange of the hall is under way,
a message for the hall waits for it, and is answered after what it has left in the transcript. -/
theorem not_isolated_rerouted_busy :
    (let house := houseWith [rerouting, .rateLimit perMinute]
      let crowded := ((house.grant perMinute "kitchen").2.grant perMinute "kitchen").2
      let answered := handleAt (fun _ => 0) obliging.surroundings entering (house, ())
      let refused := handleAt (fun _ => 0) obliging.surroundings entering (crowded, ())
      (Twins "hall" house crowded ∧ house.locks.holders "hall" = [] ∧
        crowded.locks.holders "hall" = [] ∧
        answered.1.map Except.isOk = some true ∧ refused.1.map Except.isOk = some false) ∧
      (house.grant perMinute "kitchen").1 = true ∧
        (answered.2.1.grant perMinute "kitchen").1 = false ∧
        ¬Isolated "hall" house house answered.2.1 answered.2.1) ∧
    (let house := houseWith []
      let begun := (house.start (.exchange entering)).2
      let alone := handleAt (fun _ => 0) obliging.surroundings entering (house, ())
      let waits := handleAt (fun _ => 0) obliging.surroundings entering (begun, ())
      let first := pollAt (fun _ => 0) obliging.surroundings 0 waits.2
      let second := pollAt (fun _ => 0) obliging.surroundings 1 first.2
      Twins "hall" house begun ∧ lengthAfter alone.1 = some 6 ∧
        waits.1.isNone = true ∧ lengthAfter second.1 = some 10) := by
  refine ⟨?rerouted, ?busy⟩
  case rerouted =>
    intro house crowded answered refused
    have ordered : Ordered house := fun _ => List.Pairwise.nil
    have spares : Spares "kitchen" house crowded :=
      ((Spares.refl house).grant ordered perMinute).grant (ordered.grant perMinute "kitchen") perMinute
    have twins : Twins "hall" house crowded :=
      ⟨rfl, ⟨rfl, fun _ _ => rfl⟩,
        fun limit => (spares.calls limit "hall" 0 (by decide) (Int.le_refl 0)).symm⟩
    have before : (house.grant perMinute "kitchen").1 = true := by decide +kernel
    have after : (answered.2.1.grant perMinute "kitchen").1 = false := by decide +kernel
    have now : answered.2.1.now = house.now := by decide +kernel
    refine ⟨⟨twins, rfl, rfl, by decide +kernel, by decide +kernel⟩, before, after, ?_⟩
    intro isolated
    have same := isolated.oneUnnoticed.grant_eq now perMinute "kitchen" (by decide)
    exact Bool.false_ne_true (after.symm.trans (same.trans before))
  case busy =>
    intro house begun alone waits first second
    have twins : Twins "hall" house begun := ⟨rfl, ⟨rfl, fun _ _ => rfl⟩, fun _ => rfl⟩
    exact ⟨twins, by decide +kernel, by decide +kernel, by decide +kernel⟩

end House

end Parley.Office
