/-
Module: Parley.Proofs.Office.Tokens
Layer: Proofs
Purpose: Cancel tokens.  An operation forgets its token before it gives its permit back.  In this order
  the token registered for a session is at all times that of the one exchange which runs there with
  the permit, so cancelling reaches this exchange and no other, and an exchange that ends takes no
  token but its own away.
Main exports: Office.Underway, Office.Tokened, Office.Tokened.act, Office.TokenStep,
  Office.CancelledWhile, Office.TokensInOrder, Office.tokens_in_order
-/
import Parley.Proofs.Office.Actions
import Parley.Proofs.Office.Failure

namespace Parley

variable {η : Type} {H : Interface}

namespace Office

/-! ### Exchanges under way -/

/-- The exchange with a ticket runs for a session under a token. -/
def Underway (office : Office η H) (session : String) (ticket token : Nat) : Prop :=
  ∃ task ∈ office.tasks, task.ticket = ticket ∧
    (∃ input, task.operation = .exchange input ∧ input.session = session) ∧
    ∃ work, task.stage = .running (some token) work

section Underway

variable {answers : Answering η H} {office before after : Office η H} {session : String}
  {ticket token : Nat}

/-- What is under way depends on the list of tasks alone. -/
theorem underway_congr (same : ∀ task, task ∈ after.tasks ↔ task ∈ before.tasks) :
    Underway after session ticket token ↔ Underway before session ticket token := by
  constructor
  · rintro ⟨task, member, runs⟩
    exact ⟨task, (same task).1 member, runs⟩
  · rintro ⟨task, member, runs⟩
    exact ⟨task, (same task).2 member, runs⟩

/-- A task that is not an exchange with a token is put in the place of one that is neither. -/
theorem underway_putTask_of_not {task : Task η H}
    (isNot : ∀ token work, task.stage = .running (some token) work → False)
    (wasNot : ¬Underway office session task.ticket token) :
    Underway (office.putTask task) session ticket token ↔
      Underway office session ticket token := by
  constructor
  · rintro ⟨other, member, sameTicket, isExchange, work, stage⟩
    rcases mem_putTask _ _ member with here | there
    · rw [here] at stage
      exact (isNot _ _ stage).elim
    · exact ⟨other, there, sameTicket, isExchange, work, stage⟩
  · rintro ⟨other, member, sameTicket, isExchange, work, stage⟩
    refine ⟨other, (mem_putTask_iff _ _).2 (.inr ⟨member, ?_⟩), sameTicket, isExchange, work, stage⟩
    intro same
    exact wasNot ⟨other, member, same, isExchange, work, stage⟩

/-- The exchange under way with a ticket is the task with that ticket. -/
theorem Attended.stage_of_underway (attended : Attended office)
    (underway : Underway office session ticket token) {task : Task η H}
    (member : task ∈ office.tasks) (same : task.ticket = ticket) :
    (∃ input, task.operation = .exchange input ∧ input.session = session) ∧
      ∃ work, task.stage = .running (some token) work := by
  obtain ⟨other, otherMember, otherTicket, isExchange, work, stage⟩ := underway
  have isTask := attended.eq_of_ticket otherMember member (same.trans otherTicket.symm)
  subst isTask
  exact ⟨isExchange, work, stage⟩

/-- An exchange that is under way has the permit of its session, and nobody else has it. -/
theorem Attended.holders_of_underway (attended : Attended office)
    (underway : Underway office session ticket token) :
    office.locks.holders session = [ticket] := by
  obtain ⟨task, member, rfl, ⟨input, isExchange, rfl⟩, work, stage⟩ := underway
  have holders := attended.holders_of_runs member (Task.runs_of_stage stage)
  rwa [isExchange] at holders

/-- At most one exchange of a session is under way. -/
theorem Attended.underway_unique (attended : Attended office) {other otherToken : Nat}
    (one : Underway office session ticket token)
    (two : Underway office session other otherToken) : other = ticket ∧ otherToken = token := by
  have same := (attended.holders_of_underway two).symm.trans (attended.holders_of_underway one)
  have sameTicket := (List.cons.inj same).1
  obtain ⟨task, member, isTicket, -, work, stage⟩ := one
  obtain ⟨-, otherWork, otherStage⟩ :=
    attended.stage_of_underway two member (isTicket.trans sameTicket.symm)
  rw [stage] at otherStage
  cases otherStage
  exact ⟨sameTicket, rfl⟩

/-- A deed that neither ends an operation nor lets one begin leaves what is under way. -/
theorem Attended.underway_move (attended : Attended before) {deed : Deed η H}
    (move : Move MayAnswer before deed after) (endsNone : deed.endsNone = true)
    (noCall : ∀ called, deed ≠ .callIn called) :
    Underway after session ticket token ↔ Underway before session ticket token := by
  cases move with
  | start operation =>
      rw [start_eq]
      dsimp only
      apply underway_putTask_of_not
      · intro token work stage
        cases stage
      · rintro ⟨task, member, sameTicket, -⟩
        exact absurd sameTicket (Nat.ne_of_lt (attended.issued member))
  | callIn called => exact absurd rfl (noCall called)
  | @answer answered asked task under question next answer found stage given =>
      obtain ⟨member, isAsked⟩ := mem_of_task? _ _ found
      have tasks := (effect_of_mayAnswer given).frame.tasks
      constructor
      · rintro ⟨other, otherMember, sameTicket, isExchange, work, otherStage⟩
        rcases mem_putTask _ _ otherMember with here | there
        · subst here
          cases otherStage
          exact ⟨task, member, sameTicket, isExchange, _, stage⟩
        · exact ⟨other, tasks ▸ there, sameTicket, isExchange, work, otherStage⟩
      · rintro ⟨other, otherMember, sameTicket, isExchange, work, otherStage⟩
        by_cases same : other.ticket = task.ticket
        · have isTask := attended.eq_of_ticket member otherMember same
          subst isTask
          rw [stage] at otherStage
          cases otherStage
          exact ⟨_, (mem_putTask_iff _ _).2 (.inl rfl), sameTicket, isExchange, _, rfl⟩
        · exact ⟨other, (mem_putTask_iff _ _).2 (.inr ⟨tasks ▸ otherMember, same⟩), sameTicket,
            isExchange, work, otherStage⟩
  | @rest asked task found =>
      obtain ⟨member, -⟩ := mem_of_task? _ _ found
      apply underway_congr
      intro other
      rw [mem_putTask_iff]
      constructor
      · rintro (here | ⟨there, -⟩)
        · exact here ▸ member
        · exact there
      · intro there
        by_cases same : other.ticket = task.ticket
        · exact .inl (attended.eq_of_ticket member there same)
        · exact .inr ⟨there, same⟩
  | conclude => contradiction
  | abandon => contradiction
  | cancel => exact underway_congr fun _ => Iff.rfl
  | read => exact underway_congr fun _ => Iff.rfl
  | setNotes => exact underway_congr fun _ => Iff.rfl
  | clock => exact underway_congr fun _ => Iff.rfl

/-- An operation that ends is not under way any more, and all others are as before. -/
theorem underway_withdraw {task : Task η H} :
    Underway (office.withdraw task) session ticket token ↔
      Underway office session ticket token ∧ ticket ≠ task.ticket := by
  constructor
  · rintro ⟨other, member, rfl, runs⟩
    obtain ⟨there, different⟩ := (mem_dropTask_iff office).1 member
    exact ⟨⟨other, there, rfl, runs⟩, different⟩
  · rintro ⟨⟨other, member, rfl, runs⟩, different⟩
    exact ⟨other, (mem_dropTask_iff office).2 ⟨member, different⟩, rfl, runs⟩

/-- A task that is called in does not begin, or it begins as a deletion; or it begins as an exchange,
under a new token. -/
theorem Attended.callIn_underway (attended : Attended office) (called : Nat) :
    ((office.callIn called).cancels = office.cancels ∧
      ∀ session ticket token, Underway (office.callIn called) session ticket token ↔
        Underway office session ticket token) ∨
      ∃ input : Input, office.locks.holders input.session = [called] ∧
        (∀ session token, ¬Underway office session called token) ∧
        (office.callIn called).cancels = (office.cancels.register input.session).2 ∧
        ∀ session ticket token, Underway (office.callIn called) session ticket token ↔
          Underway office session ticket token ∨
            session = input.session ∧ ticket = called ∧ token = office.cancels.next := by
  rcases callIn_eq office called with same | ⟨task, found, waits, looked | ⟨held, begun⟩⟩
  · rw [same]
    exact .inl ⟨rfl, fun _ _ _ => Iff.rfl⟩
  · rw [looked]
    exact .inl ⟨rfl, fun _ _ _ => Iff.rfl⟩
  · obtain ⟨member, isCalled⟩ := mem_of_task? _ _ found
    subst isCalled
    have notYet : ∀ session token, ¬Underway office session task.ticket token := by
      intro session token underway
      obtain ⟨-, work, stage⟩ := attended.stage_of_underway underway member rfl
      rw [waits] at stage
      contradiction
    have holders := attended.holders_of_poll member held
    rw [begun]
    cases isOperation : task.operation with
    | deletion session position =>
        left
        refine ⟨rfl, ?_⟩
        intro other ticket token
        apply underway_putTask_of_not
        · intro token work stage
          cases stage
        · exact notYet other token
    | exchange input =>
        right
        rw [isOperation] at holders
        refine ⟨input, holders, notYet, rfl, ?_⟩
        intro session ticket token
        constructor
        · rintro ⟨other, otherMember, sameTicket, ⟨otherInput, isExchange, isSession⟩, work, stage⟩
          rcases mem_putTask _ _ otherMember with here | there
          · subst here
            cases stage
            cases isOperation.symm.trans isExchange
            exact .inr ⟨isSession.symm, sameTicket.symm, rfl⟩
          · exact .inl ⟨other, there, sameTicket, ⟨otherInput, isExchange, isSession⟩, work, stage⟩
        · rintro (⟨other, otherMember, sameTicket, isExchange, work, stage⟩ | ⟨rfl, rfl, rfl⟩)
          · refine ⟨other, (mem_putTask_iff _ _).2 (.inr ⟨otherMember, ?_⟩), sameTicket,
              isExchange, work, stage⟩
            intro same
            exact notYet session token ⟨other, otherMember, same, isExchange, work, stage⟩
          · exact ⟨_, (mem_putTask_iff _ _).2 (.inl rfl), rfl, ⟨input, isOperation, rfl⟩, _, rfl⟩

end Underway

/-! ### The token of each session -/

/-- A task runs under a token if and only if it is an exchange. -/
def Suited (task : Task η H) : Prop :=
  ∀ token work, task.stage = .running token work →
    (token.isSome = true ↔ ∃ input, task.operation = .exchange input)

/-- Tokens and exchanges belong together: each token that is registered is that of the exchange under
way in its session, no two exchanges share a token, and no token has been tripped before it was
given out. -/
structure Tokened (office : Office η H) : Prop where
  attended : Attended office
  suited : ∀ task ∈ office.tasks, Suited task
  registered : ∀ session token,
    Dictionary.find? office.cancels.registered session = some token ↔
      ∃ ticket, Underway office session ticket token
  issued : ∀ session ticket token, Underway office session ticket token →
    token < office.cancels.next
  tripped : ∀ token ∈ office.cancels.tripped, token < office.cancels.next
  apart : ∀ session other ticket otherTicket token, Underway office session ticket token →
    Underway office other otherTicket token → other = session

section Tokened

variable {office before after : Office η H} {session : String} {ticket token : Nat}

theorem suited_begun {task : Task η H} (cancels : CancelTable) (work : Work η H) :
    Suited (task.at (tokenFor cancels task.operation).1 work) := by
  intro token left stage
  cases stage
  rw [show (task.at (tokenFor cancels task.operation).1 work).operation = task.operation from rfl]
  cases task.operation with
  | exchange input => simp [tokenFor]
  | deletion session position => simp [tokenFor]

/-- Tasks stay suited to their operations. -/
theorem Tokened.suited_move (tokened : Tokened before) {deed : Deed η H}
    (move : Move MayAnswer before deed after) : ∀ task ∈ after.tasks, Suited task := by
  intro task member
  have origin := tokened.attended.mem_move (fun answered => answered) move member
  cases origin with
  | kept there still => exact tokened.suited task there
  | started isStart isNew waits =>
      intro token work stage
      rw [waits] at stage
      contradiction
  | begun old token isCall there waits holders begun =>
      -- The inversion does not say which token it is, so the call itself is looked at.
      cases isCall
      cases move with
      | callIn =>
          rcases callIn_eq before old.ticket with same | ⟨found, -, -, looked | ⟨-, begun⟩⟩
          · rw [same] at member
            exact tokened.suited task member
          · rw [looked] at member
            exact tokened.suited task member
          · rw [begun] at member
            rcases mem_putTask _ _ member with here | there
            · rw [here]
              exact suited_begun _ _
            · exact tokened.suited task there
  | answered old under question next answer between isAnswer there stage given answered =>
      subst answered
      intro token work stageAfter
      cases stageAfter
      exact tokened.suited old there _ _ stage

/-- An action that neither registers nor forgets a token and leaves what is under way keeps tokens and
exchanges together, whatever registered tokens it trips. -/
theorem Tokened.congr (tokened : Tokened before) (attended : Attended after)
    (suited : ∀ task ∈ after.tasks, Suited task)
    (registered : after.cancels.registered = before.cancels.registered)
    (next : after.cancels.next = before.cancels.next)
    (tripped : ∀ token ∈ after.cancels.tripped, token ∈ before.cancels.tripped ∨
      ∃ session, Dictionary.find? before.cancels.registered session = some token)
    (same : ∀ session ticket token, Underway after session ticket token ↔
      Underway before session ticket token) : Tokened after where
  attended := attended
  suited := suited
  registered := by
    intro session token
    simp only [registered, same]
    exact tokened.registered session token
  issued := by
    intro session ticket token underway
    rw [next]
    exact tokened.issued session ticket token ((same _ _ _).1 underway)
  tripped := by
    intro token member
    rw [next]
    rcases tripped token member with already | ⟨session, found⟩
    · exact tokened.tripped token already
    · obtain ⟨ticket, underway⟩ := (tokened.registered session token).1 found
      exact tokened.issued session ticket token underway
  apart := by
    intro session other ticket otherTicket token one two
    exact tokened.apart session other ticket otherTicket token ((same _ _ _).1 one)
      ((same _ _ _).1 two)

/-- An exchange begins in a session in which none is under way, under a token of its own. -/
theorem Tokened.register (tokened : Tokened before) (attended : Attended after)
    (suited : ∀ task ∈ after.tasks, Suited task) {input : Input} {called : Nat}
    (holders : before.locks.holders input.session = [called])
    (notYet : ∀ session token, ¬Underway before session called token)
    (cancels : after.cancels = (before.cancels.register input.session).2)
    (begins : ∀ session ticket token, Underway after session ticket token ↔
      Underway before session ticket token ∨
        session = input.session ∧ ticket = called ∧ token = before.cancels.next) :
    Tokened after := by
  have next : after.cancels.next = before.cancels.next + 1 := by
    rw [cancels]
    rfl
  have free : ∀ ticket token, ¬Underway before input.session ticket token := by
    intro ticket token underway
    have same := (tokened.attended.holders_of_underway underway).symm.trans holders
    rw [(List.cons.inj same).1] at underway
    exact notYet _ _ underway
  have unused : ∀ session ticket, ¬Underway before session ticket before.cancels.next :=
    fun session ticket underway => Nat.lt_irrefl _ (tokened.issued session ticket _ underway)
  constructor
  · exact attended
  · exact suited
  · intro session token
    rw [cancels]
    simp only [begins]
    by_cases here : session = input.session
    · subst here
      constructor
      · intro found
        have isNext := (Dictionary.find?_insert_self _ _ _).symm.trans found
        exact ⟨called, .inr ⟨rfl, rfl, (Option.some.inj isNext).symm⟩⟩
      · rintro ⟨ticket, earlier | ⟨-, -, rfl⟩⟩
        · exact absurd earlier (free _ _)
        · exact Dictionary.find?_insert_self _ _ _
    · have elsewhere : Dictionary.find? (before.cancels.register input.session).2.registered
          session = Dictionary.find? before.cancels.registered session :=
        Dictionary.find?_insert_of_ne _ _ (Ne.symm here)
      rw [elsewhere, tokened.registered session token]
      simp [here]
  · intro session ticket token underway
    rw [next]
    rcases (begins _ _ _).1 underway with earlier | ⟨-, -, rfl⟩
    · exact Nat.lt_succ_of_lt (tokened.issued _ _ _ earlier)
    · exact Nat.lt_succ_self _
  · intro token member
    rw [next]
    rw [cancels] at member
    exact Nat.lt_succ_of_lt (tokened.tripped token member)
  · intro session other ticket otherTicket token one two
    rcases (begins _ _ _).1 one with oneEarlier | ⟨rfl, -, rfl⟩
    · rcases (begins _ _ _).1 two with twoEarlier | ⟨rfl, -, rfl⟩
      · exact tokened.apart _ _ _ _ _ oneEarlier twoEarlier
      · exact absurd oneEarlier (unused _ _)
    · rcases (begins _ _ _).1 two with twoEarlier | ⟨isOther, -, -⟩
      · exact absurd twoEarlier (unused _ _)
      · exact isOther

/-- A task with a token is an exchange under way. -/
theorem Tokened.underway_of_token (tokened : Tokened office) {task : Task η H}
    (member : task ∈ office.tasks) (has : task.token?.isSome = true) :
    ∃ own, Underway office task.operation.session task.ticket own := by
  cases stage : task.stage with
  | waiting => simp [Task.token?, stage] at has
  | running under work =>
      cases under with
      | none => simp [Task.token?, stage] at has
      | some own =>
          obtain ⟨input, isExchange⟩ := (tokened.suited task member _ _ stage).1 rfl
          exact ⟨own, task, member, rfl, ⟨input, isExchange, by rw [isExchange]; rfl⟩, work, stage⟩

/-- Whoever ends leaves the tripped tokens and those not yet given out as they are. -/
theorem tripped_withdraw (office : Office η H) (task : Task η H) :
    (office.withdraw task).cancels.tripped = office.cancels.tripped ∧
      (office.withdraw task).cancels.next = office.cancels.next := by
  rw [Office.withdraw]
  split
  · exact ⟨rfl, rfl⟩
  · exact ⟨rfl, rfl⟩

/-- An exchange that ends forgets the token of its session; a deletion, and whoever has not begun,
forgets none. -/
theorem find?_withdraw (office : Office η H) (task : Task η H) (session : String) :
    Dictionary.find? (office.withdraw task).cancels.registered session =
      if task.token?.isSome = true ∧ task.operation.session = session then none
      else Dictionary.find? office.cancels.registered session := by
  rw [Office.withdraw]
  by_cases has : task.token?.isSome = true
  · rw [if_pos has]
    by_cases here : task.operation.session = session
    · rw [if_pos ⟨has, here⟩, ← here]
      exact Dictionary.find?_erase_self _ _
    · rw [if_neg fun both => here both.2]
      exact Dictionary.find?_erase_of_ne _ here
  · rw [if_neg has, if_neg fun both => has both.1]

/-- An operation that ends forgets no token but its own. -/
theorem Tokened.registered_withdraw (tokened : Tokened office) {task : Task η H}
    (member : task ∈ office.tasks) (underway : Underway office session ticket token)
    (different : ticket ≠ task.ticket) :
    Dictionary.find? (office.withdraw task).cancels.registered session = some token := by
  rw [find?_withdraw, if_neg]
  · exact (tokened.registered session token).2 ⟨ticket, underway⟩
  · rintro ⟨has, rfl⟩
    obtain ⟨own, underTask⟩ := tokened.underway_of_token member has
    exact different (tokened.attended.underway_unique underTask underway).1

theorem Tokened.withdraw (tokened : Tokened office) {task : Task η H}
    (member : task ∈ office.tasks) : Tokened (office.withdraw task) := by
  obtain ⟨sameTripped, sameNext⟩ := tripped_withdraw office task
  constructor
  · exact tokened.attended.withdraw task
  · exact fun other there => tokened.suited other (mem_dropTask office there)
  · intro session token
    simp only [underway_withdraw]
    constructor
    · intro found
      rw [find?_withdraw] at found
      split at found
      · contradiction
      · next stays =>
          obtain ⟨ticket, underway⟩ := (tokened.registered session token).1 found
          refine ⟨ticket, underway, ?_⟩
          rintro rfl
          obtain ⟨⟨input, isExchange, isSession⟩, work, stage⟩ :=
            tokened.attended.stage_of_underway underway member rfl
          apply stays
          constructor
          · simp [Task.token?, stage]
          · rw [isExchange]
            exact isSession
    · rintro ⟨ticket, underway, different⟩
      exact tokened.registered_withdraw member underway different
  · intro session ticket token underway
    rw [sameNext]
    exact tokened.issued session ticket token (underway_withdraw.1 underway).1
  · intro token there
    rw [sameNext]
    rw [sameTripped] at there
    exact tokened.tripped token there
  · intro session other ticket otherTicket token one two
    exact tokened.apart _ _ _ _ _ (underway_withdraw.1 one).1 (underway_withdraw.1 two).1

theorem registered_cancel (office : Office η H) (session : String) :
    (office.cancel session).2.cancels.registered = office.cancels.registered ∧
      (office.cancel session).2.cancels.next = office.cancels.next := by
  rw [Office.cancel, CancelTable.cancel]
  cases Dictionary.find? office.cancels.registered session with
  | none => exact ⟨rfl, rfl⟩
  | some token => exact ⟨rfl, rfl⟩

/-- What cancelling trips. -/
theorem mem_tripped_cancel {other : String} :
    token ∈ (office.cancel other).2.cancels.tripped ↔
      token ∈ office.cancels.tripped ∨
        Dictionary.find? office.cancels.registered other = some token := by
  rw [Office.cancel, CancelTable.cancel]
  cases found : Dictionary.find? office.cancels.registered other with
  | none => simp
  | some own =>
      rw [Option.some.injEq]
      exact List.mem_cons.trans (or_comm.trans (or_congr_right eq_comm))

/-- Deeds other than to call a task in or to cancel an exchange leave all tokens alone, if they end no
operation. -/
theorem cancels_move {deed : Deed η H} (move : Move MayAnswer before deed after)
    (endsNone : deed.endsNone = true) (noCall : ∀ called, deed ≠ .callIn called)
    (noCancel : ∀ session, deed ≠ .cancel session) : after.cancels = before.cancels := by
  cases move with
  | start operation => rw [start_eq]; rfl
  | callIn called => exact absurd rfl (noCall called)
  | answer found stage given => exact (effect_of_mayAnswer given).frame.cancels
  | rest found => rfl
  | conclude => contradiction
  | abandon => contradiction
  | cancel session => exact absurd rfl (noCancel session)
  | read => rfl
  | setNotes => rfl
  | clock => rfl

theorem Tokened.move (tokened : Tokened before) {deed : Deed η H}
    (move : Move MayAnswer before deed after) (endsNone : deed.endsNone = true) :
    Tokened after := by
  have attended := tokened.attended.move move
  have suited := tokened.suited_move move
  by_cases calls : ∃ called, deed = .callIn called
  · obtain ⟨called, rfl⟩ := calls
    cases move with
    | callIn =>
        rcases tokened.attended.callIn_underway called with
          ⟨cancels, same⟩ | ⟨input, holders, notYet, cancels, begins⟩
        · refine tokened.congr attended suited (by rw [cancels]) (by rw [cancels]) ?_ same
          intro token there
          exact .inl (cancels ▸ there)
        · exact tokened.register attended suited holders notYet cancels begins
  · have noCall : ∀ called, deed ≠ .callIn called := fun called same => calls ⟨called, same⟩
    have same : ∀ session ticket token, Underway after session ticket token ↔
        Underway before session ticket token := fun session ticket token =>
      tokened.attended.underway_move move endsNone noCall
    by_cases cancels : ∃ session, deed = .cancel session
    · obtain ⟨session, rfl⟩ := cancels
      cases move with
      | cancel =>
          obtain ⟨registered, next⟩ := registered_cancel before session
          refine tokened.congr attended suited registered next ?_ same
          intro token there
          exact (mem_tripped_cancel.1 there).imp_right fun found => ⟨session, found⟩
    · have sameCancels := cancels_move move endsNone noCall fun session same =>
        cancels ⟨session, same⟩
      refine tokened.congr attended suited (by rw [sameCancels]) (by rw [sameCancels]) ?_ same
      intro token there
      exact .inl (sameCancels ▸ there)

/-- Every action keeps tokens and exchanges together. -/
theorem Tokened.act {action : Action η H} (tokened : Tokened before)
    (act : Act MayAnswer before action after) : Tokened after := by
  have attended := tokened.attended.act act
  cases act with
  | deed endsNone move => exact tokened.move move endsNone
  | withdraw found => exact tokened.withdraw (mem_of_task? _ _ found).1
  | leave gone stepOf =>
      exact tokened.congr attended tokened.suited rfl rfl (fun _ there => .inl there)
        fun _ _ _ => Iff.rfl

theorem tokened_new (plan : Exchange.Plan η) (chain : Chain η H) (ttl : Option Duration)
    (backend : Backend) (now : Int) : Tokened (Office.new plan chain ttl backend now) where
  attended := attended_new plan chain ttl backend now
  suited := fun _ member => absurd member List.not_mem_nil
  registered := by
    intro session token
    constructor
    · intro found
      contradiction
    · rintro ⟨ticket, task, member, -⟩
      exact absurd member List.not_mem_nil
  issued := by
    rintro session ticket token ⟨task, member, -⟩
    exact absurd member List.not_mem_nil
  tripped := fun _ member => absurd member List.not_mem_nil
  apart := by
    rintro session other ticket otherTicket token ⟨task, member, -⟩
    exact absurd member List.not_mem_nil

theorem Tokened.acts {office : Office η H} {actions : List (Action η H)} (tokened : Tokened office)
    (acts : Acts MayAnswer office actions after) : Tokened after := by
  induction acts with
  | nil => exact tokened
  | snoc _ act ih => exact ih.act act

end Tokened

/-! ### Who trips a token -/

/-- All that an action can do to the tokens: nothing; or a new one is registered, that of a session is
tripped or that of a session is forgotten.  They are tripped only by cancelling. -/
inductive TokenStep (before : CancelTable) (action : Action η H) (after : CancelTable) : Prop where
  | same : (∀ session, action ≠ .deed (.cancel session)) → after = before →
      TokenStep before action after
  | registered (session : String) : (∀ session, action ≠ .deed (.cancel session)) →
      after = (before.register session).2 → TokenStep before action after
  | cancelled (session : String) : action = .deed (.cancel session) →
      after = (before.cancel session).2 → TokenStep before action after
  | removed (session : String) : (∀ session, action ≠ .deed (.cancel session)) →
      after = before.remove session → TokenStep before action after

section Trips

variable {office middle before after : Office η H} {actions early late : List (Action η H)}
  {action : Action η H} {session : String} {ticket token : Nat}

theorem Act.tokenStep (act : Act MayAnswer before action after) :
    TokenStep before.cancels action after.cancels := by
  cases act with
  | @deed _ deed endsNone move =>
      by_cases calls : ∃ called, deed = .callIn called
      · obtain ⟨called, rfl⟩ := calls
        cases move with
        | callIn =>
            rcases callIn_eq before called with same | ⟨task, -, -, looked | ⟨-, begun⟩⟩
            · exact .same (fun _ same => nomatch same) (by rw [same])
            · exact .same (fun _ same => nomatch same) (by rw [looked])
            · rw [begun]
              cases isOperation : task.operation with
              | exchange input => exact .registered input.session (fun _ same => nomatch same) rfl
              | deletion session position => exact .same (fun _ same => nomatch same) rfl
      · by_cases cancels : ∃ session, deed = .cancel session
        · obtain ⟨session, rfl⟩ := cancels
          cases move with
          | cancel => exact .cancelled session rfl rfl
        · have noCancel : ∀ session, deed ≠ .cancel session :=
            fun session same => cancels ⟨session, same⟩
          refine .same ?_ (cancels_move move endsNone (fun called same => calls ⟨called, same⟩)
            noCancel)
          intro session same
          cases same
          exact noCancel session rfl
  | @withdraw ticket task found =>
      by_cases has : task.token?.isSome = true
      · exact .removed task.operation.session (fun _ same => nomatch same) (if_pos has)
      · exact .same (fun _ same => nomatch same) (if_neg has)
  | leave => exact .same (fun _ same => nomatch same) rfl

/-- A token is tripped after an action if it was before, or if the action is to cancel the exchange of
the session for which it is registered. -/
theorem Act.tripped_iff (act : Act MayAnswer before action after) :
    token ∈ after.cancels.tripped ↔
      token ∈ before.cancels.tripped ∨
        ∃ session, action = .deed (.cancel session) ∧
          Dictionary.find? before.cancels.registered session = some token := by
  have alike : (∀ session, action ≠ .deed (.cancel session)) →
      after.cancels.tripped = before.cancels.tripped →
      (token ∈ after.cancels.tripped ↔ token ∈ before.cancels.tripped ∨
        ∃ session, action = .deed (.cancel session) ∧
          Dictionary.find? before.cancels.registered session = some token) := by
    intro noCancel same
    rw [same, iff_self_or]
    rintro ⟨session, isCancel, -⟩
    exact absurd isCancel (noCancel session)
  cases act.tokenStep with
  | same noCancel same => exact alike noCancel (by rw [same])
  | registered session noCancel same => exact alike noCancel (by rw [same]; rfl)
  | removed session noCancel same => exact alike noCancel (by rw [same]; rfl)
  | cancelled cancelled isCancel same =>
      have tripped : token ∈ (before.cancel cancelled).2.cancels.tripped ↔ _ := mem_tripped_cancel
      rw [Office.cancel] at tripped
      rw [same, tripped]
      simp [isCancel]

/-- Tokens that have been given out stay so. -/
theorem Act.next_le (act : Act MayAnswer before action after) :
    before.cancels.next ≤ after.cancels.next := by
  cases act.tokenStep with
  | same _ same => exact Nat.le_of_eq (by rw [same])
  | registered session _ same => exact Nat.le_of_lt (by rw [same]; exact Nat.lt_succ_self _)
  | removed session _ same => exact Nat.le_of_eq (by rw [same]; rfl)
  | cancelled session _ same =>
      exact Nat.le_of_eq (by rw [same]; exact (registered_cancel before session).2.symm)

/-- An exchange that is under way after an action, under a token given out before it, was under way
before it. -/
theorem Tokened.underway_before (tokened : Tokened before)
    (act : Act MayAnswer before action after) (old : token < before.cancels.next)
    (underway : Underway after session ticket token) : Underway before session ticket token := by
  cases act with
  | @deed _ deed endsNone move =>
      by_cases calls : ∃ called, deed = .callIn called
      · obtain ⟨called, rfl⟩ := calls
        cases move with
        | callIn =>
            rcases tokened.attended.callIn_underway called with
              ⟨-, same⟩ | ⟨input, -, -, -, begins⟩
            · exact (same _ _ _).1 underway
            · rcases (begins _ _ _).1 underway with earlier | ⟨-, -, rfl⟩
              · exact earlier
              · exact absurd old (Nat.lt_irrefl _)
      · have noCall : ∀ called, deed ≠ .callIn called := fun called same => calls ⟨called, same⟩
        exact (tokened.attended.underway_move move endsNone noCall).1 underway
  | withdraw found => exact (underway_withdraw.1 underway).1
  | leave => exact underway

theorem Acts.next_le (acts : Acts MayAnswer office actions after) :
    office.cancels.next ≤ after.cancels.next := by
  induction acts with
  | nil => exact Nat.le_refl _
  | snoc _ act ih => exact Nat.le_trans ih act.next_le

theorem Tokened.underway_at_start (tokened : Tokened office)
    (acts : Acts MayAnswer office actions after) (old : token < office.cancels.next)
    (underway : Underway after session ticket token) : Underway office session ticket token := by
  induction acts with
  | nil => exact underway
  | snoc acts act ih =>
      have older := Nat.lt_of_lt_of_le old acts.next_le
      exact ih ((tokened.acts acts).underway_before act older underway)

/-- Tokens that have been tripped stay so. -/
theorem Acts.still_tripped (acts : Acts MayAnswer office actions after)
    (tripped : token ∈ office.cancels.tripped) : token ∈ after.cancels.tripped := by
  induction acts with
  | nil => exact tripped
  | snoc _ act ih => exact act.tripped_iff.2 (.inl ih)

/-- Among some actions between two offices, the exchange of a session was cancelled while the one with
a ticket was under way there under a token. -/
def CancelledWhile (office : Office η H) (actions : List (Action η H)) (after : Office η H)
    (session : String) (ticket token : Nat) : Prop :=
  ∃ early late middle next, actions = early ++ .deed (.cancel session) :: late ∧
    Acts MayAnswer office early middle ∧ Underway middle session ticket token ∧
    Act MayAnswer middle (.deed (.cancel session)) next ∧ Acts MayAnswer next late after

theorem CancelledWhile.snoc (cancelled : CancelledWhile office actions before session ticket token)
    (act : Act MayAnswer before action after) :
    CancelledWhile office (actions ++ [action]) after session ticket token := by
  obtain ⟨early, late, middle, next, rfl, acts, underway, cancels, rest⟩ := cancelled
  refine ⟨early, late ++ [action], middle, next, ?_, acts, underway, cancels, rest.snoc act⟩
  rw [List.append_assoc, List.cons_append]

/-- Whatever token is tripped, its exchange was cancelled while it was under way. -/
theorem Tokened.cancelled_of_tripped (tokened : Tokened office)
    (none : office.cancels.tripped = []) (acts : Acts MayAnswer office actions after)
    (tripped : token ∈ after.cancels.tripped) :
    ∃ session ticket, CancelledWhile office actions after session ticket token := by
  induction acts with
  | nil => simp [none] at tripped
  | @snoc actions action before after acts act ih =>
      rcases act.tripped_iff.1 tripped with already | ⟨session, rfl, found⟩
      · obtain ⟨session, ticket, cancelled⟩ := ih already
        exact ⟨session, ticket, cancelled.snoc act⟩
      · obtain ⟨ticket, underway⟩ := ((tokened.acts acts).registered session token).1 found
        exact ⟨session, ticket, actions, [], before, after, rfl, acts, underway, act, .nil⟩

/-- Cancelling an exchange that is under way trips its token. -/
theorem Tokened.tripped_of_cancelled (tokened : Tokened office)
    (cancelled : CancelledWhile office actions after session ticket token) :
    token ∈ after.cancels.tripped := by
  obtain ⟨early, late, middle, next, -, acts, underway, cancels, rest⟩ := cancelled
  have found := ((tokened.acts acts).registered session token).2 ⟨ticket, underway⟩
  exact rest.still_tripped (cancels.tripped_iff.2 (.inr ⟨session, rfl, found⟩))

/-- The token of an exchange under way is tripped exactly if the exchange was cancelled since it
began. -/
theorem Tokened.tripped_iff (tokened : Tokened office) (none : office.cancels.tripped = [])
    (acts : Acts MayAnswer office actions after)
    (underway : Underway after session ticket token) :
    token ∈ after.cancels.tripped ↔ CancelledWhile office actions after session ticket token := by
  constructor
  · intro tripped
    obtain ⟨other, otherTicket, cancelled⟩ := tokened.cancelled_of_tripped none acts tripped
    obtain ⟨early, late, middle, next, rfl, actsEarly, otherUnderway, cancels, rest⟩ := cancelled
    -- A token belongs to one exchange from its registration on.
    have tokenedThen := tokened.acts actsEarly
    have old := tokenedThen.issued _ _ _ otherUnderway
    have underwayNext := (tokenedThen.act cancels).underway_at_start rest
      (Nat.lt_of_lt_of_le old cancels.next_le) underway
    have underwayThen := tokenedThen.underway_before cancels old underwayNext
    have same := tokenedThen.apart _ _ _ _ _ underwayThen otherUnderway
    subst same
    exact ⟨early, late, middle, next, rfl, actsEarly, underwayThen, cancels, rest⟩
  · exact tokened.tripped_of_cancelled

end Trips

/-! ### Order -/

/-- The tokens of an office are those of the exchanges that are under way, and each serves its own. -/
structure TokensInOrder (office : Office η H) : Prop where
  /-- A token is registered for a session exactly while an exchange is under way there, and it is the
  token of that exchange. -/
  registered : ∀ session token,
    Dictionary.find? office.cancels.registered session = some token ↔
      ∃ ticket, Underway office session ticket token
  /-- An exchange that has begun and not ended is under way. -/
  begun : ∀ task ∈ office.tasks, ∀ input, task.operation = .exchange input → task.Runs →
    ∃ token, Underway office input.session task.ticket token
  /-- It has the permit of its session, and nobody else has it. -/
  permit : ∀ session ticket token, Underway office session ticket token →
    office.locks.holders session = [ticket]
  /-- An exchange that has waited begins as soon as it is called in with the permit, and nobody has
  tripped its token. -/
  begins : ∀ task ∈ office.tasks, ∀ input, task.operation = .exchange input → ¬task.Runs →
    office.locks.holders input.session = [task.ticket] →
    ∃ token, Underway (office.callIn task.ticket) input.session task.ticket token ∧
      (office.callIn task.ticket).cancels.isTripped token = false
  /-- Cancelling says whether an exchange of the session is under way. -/
  found : ∀ session, (office.cancel session).1 = true ↔
    ∃ ticket token, Underway office session ticket token
  /-- It trips the token of this exchange and that of no other. -/
  trips : ∀ session other ticket token, Underway office other ticket token →
    ((office.cancel session).2.cancels.isTripped token = true ↔
      office.cancels.isTripped token = true ∨ other = session)
  /-- Whichever operation ends, the tokens of all others stay registered. -/
  ends : ∀ task ∈ office.tasks, ∀ session ticket token, Underway office session ticket token →
    ticket ≠ task.ticket →
    Dictionary.find? (office.withdraw task).cancels.registered session = some token

section TokensInOrder

variable {office : Office η H}

theorem isTripped_iff {cancels : CancelTable} {token : Nat} :
    cancels.isTripped token = true ↔ token ∈ cancels.tripped := by
  rw [CancelTable.isTripped, List.contains_iff_mem]

theorem cancel_found_iff (office : Office η H) (session : String) :
    (office.cancel session).1 = true ↔
      ∃ token, Dictionary.find? office.cancels.registered session = some token := by
  rw [Office.cancel, CancelTable.cancel]
  cases Dictionary.find? office.cancels.registered session with
  | none => simp
  | some token => simp

/-- A task that waits begins when it is called in with the permit. -/
theorem callIn_of_held {task : Task η H} (found : office.task? task.ticket = some task)
    (waits : task.stage = .waiting) (held : (office.locks.poll task.ticket).1 = true) :
    office.callIn task.ticket =
      { office with
        locks := (office.locks.poll task.ticket).2
        cancels := (tokenFor office.cancels task.operation).2 }.putTask
        (task.at (tokenFor office.cancels task.operation).1
          (work office.plan office.chain task.operation)) := by
  simp only [callIn, found, waits, begin_eq, held, if_true, Task.at]

/-- A task that waits goes on waiting when it is called in without the permit. -/
theorem callIn_of_not_held {task : Task η H} (found : office.task? task.ticket = some task)
    (waits : task.stage = .waiting) (notHeld : (office.locks.poll task.ticket).1 = false) :
    office.callIn task.ticket =
      { office with locks := (office.locks.poll task.ticket).2 } := by
  simp only [callIn, found, waits, notHeld, Bool.false_eq_true, if_false]

/-- The permit of a session is held by whoever has got it. -/
theorem Attended.held_of_holders (attended : Attended office) {task : Task η H}
    (member : task ∈ office.tasks)
    (holders : office.locks.holders task.operation.session = [task.ticket]) :
    (office.locks.poll task.ticket).1 = true := by
  obtain ⟨claim, claimMember, ticketEq, sessionEq, -⟩ := attended.claimed task member
  have has : claim.ticket ∈ office.locks.holders claim.session := by
    rw [sessionEq, holders, ticketEq]
    exact List.mem_singleton_self _
  obtain ⟨other, otherMember, -, hasPermit, sameTicket⟩ := LockTable.mem_holdingIn.1 has
  have same := attended.sound.eq_of_ticket claimMember otherMember sameTicket
  subst same
  rw [← ticketEq]
  exact (attended.sound.poll_held claimMember).1.2 hasPermit

theorem Tokened.begins (tokened : Tokened office) {task : Task η H} (member : task ∈ office.tasks)
    {input : Input} (isExchange : task.operation = .exchange input) (waits : task.stage = .waiting)
    (holders : office.locks.holders input.session = [task.ticket]) :
    ∃ token, Underway (office.callIn task.ticket) input.session task.ticket token ∧
      (office.callIn task.ticket).cancels.isTripped token = false := by
  have held := tokened.attended.held_of_holders member (by rw [isExchange]; exact holders)
  have begun := callIn_of_held (tokened.attended.task?_eq member) waits held
  rw [isExchange] at begun
  refine ⟨office.cancels.next, ?_, ?_⟩
  · rw [begun]
    exact ⟨_, (mem_putTask_iff _ _).2 (.inl rfl), rfl, ⟨input, isExchange, rfl⟩, _, rfl⟩
  · rw [Bool.eq_false_iff, ne_eq, isTripped_iff, begun]
    intro tripped
    exact Nat.lt_irrefl _ (tokened.tripped _ tripped)

theorem Tokened.inOrder (tokened : Tokened office) : TokensInOrder office where
  registered := tokened.registered
  begun := by
    intro task member input isExchange runs
    cases stage : task.stage with
    | waiting => exact absurd stage runs
    | running token work =>
        have has : task.token?.isSome = true := by
          rw [Task.token?, stage]
          exact (tokened.suited task member _ _ stage).2 ⟨input, isExchange⟩
        have underway := tokened.underway_of_token member has
        rwa [isExchange] at underway
  permit := fun _ _ _ underway => tokened.attended.holders_of_underway underway
  begins := by
    intro task member input isExchange waits holders
    exact tokened.begins member isExchange (Classical.not_not.1 waits) holders
  found := by
    intro session
    rw [cancel_found_iff]
    simp only [tokened.registered]
    exact exists_comm
  trips := by
    intro session other ticket token underway
    rw [isTripped_iff, isTripped_iff, mem_tripped_cancel, tokened.registered]
    refine or_congr_right ⟨?_, ?_⟩
    · rintro ⟨otherTicket, otherUnderway⟩
      exact (tokened.apart _ _ _ _ _ underway otherUnderway).symm
    · rintro rfl
      exact ⟨ticket, underway⟩
  ends := fun _ member _ _ _ underway different =>
    tokened.registered_withdraw member underway different

end TokensInOrder

/-- Let operations start, wait, run, end and be abandoned in an office, in any order and action by
action between one another, while exchanges are cancelled.  At all times its tokens are in order, and
the token of an exchange under way has been tripped exactly if the exchange was cancelled since it
began. -/
theorem tokens_in_order {plan : Exchange.Plan η} {chain : Chain η H} {ttl : Option Duration}
    {backend : Backend} {now : Int} {actions : List (Action η H)} {office : Office η H}
    (acts : Acts MayAnswer (.new plan chain ttl backend now) actions office) :
    TokensInOrder office ∧
      ∀ session ticket token, Underway office session ticket token →
        (office.cancels.isTripped token = true ↔
          CancelledWhile (.new plan chain ttl backend now) actions office session ticket token) := by
  have start := tokened_new plan chain ttl backend now
  constructor
  · exact (start.acts acts).inOrder
  · intro session ticket token underway
    rw [isTripped_iff]
    exact start.tripped_iff rfl acts underway

/-! ### Two visits to the hall -/

section Visits

/-- An office for the hall. -/
def hallOffice : Office Unit noQuestions := .new lampPlan [] none (.memory .empty) 0

/-- Two visitors have come one after another, and the first has begun; then the visit was cancelled. -/
def interrupted : Office Unit noQuestions :=
  (((((hallOffice.start (.exchange entering)).2.start (.exchange entering)).2).callIn 0).cancel
    "hall").2

/-- The first visitor. -/
def firstVisitor : Task Unit noQuestions := (interrupted.task? 0).get (by decide +kernel)

/-- The first visitor has given up, and the second has begun. -/
def secondVisit : Office Unit noQuestions :=
  let left := interrupted.withdraw firstVisitor
  { left with locks := left.locks.step (.giveBack 0) }.callIn 1

theorem tokens_in_order_secondVisit :
    ∃ actions, Acts MayAnswer hallOffice actions secondVisit ∧
      secondVisit.cancels.isTripped 0 = true ∧ secondVisit.cancels.isTripped 1 = false ∧
      ∃ ticket, Underway secondVisit "hall" ticket 1 ∧
        secondVisit.locks.holders "hall" = [ticket] ∧
        ¬CancelledWhile hallOffice actions secondVisit "hall" ticket 1 := by
  have found : interrupted.task? 0 = some firstVisitor := (Option.some_get _).symm
  have gone : ∀ task ∈ (interrupted.withdraw firstVisitor).tasks, task.ticket ≠ 0 := by
    intro task member
    rw [← (mem_of_task? _ _ found).2]
    exact ((mem_dropTask_iff interrupted).1 member).2
  have acts : Acts MayAnswer hallOffice _ secondVisit :=
    Acts.nil |>.snoc (.deed rfl (.start hallOffice (.exchange entering)))
      |>.snoc (.deed rfl (.start _ (.exchange entering)))
      |>.snoc (.deed rfl (.callIn _ 0))
      |>.snoc (.deed rfl (.cancel _ "hall"))
      |>.snoc (.withdraw found)
      |>.snoc (.leave gone .giveBack)
      |>.snoc (.deed rfl (.callIn _ 1))
  obtain ⟨inOrder, trippedIff⟩ := tokens_in_order acts
  have registered : Dictionary.find? secondVisit.cancels.registered "hall" = some 1 := by
    decide +kernel
  obtain ⟨ticket, underway⟩ := (inOrder.registered "hall" 1).1 registered
  have untripped : secondVisit.cancels.isTripped 1 = false := by decide +kernel
  refine ⟨_, acts, by decide +kernel, untripped, ticket, underway, inOrder.permit _ _ _ underway, ?_⟩
  intro cancelled
  have tripped := (trippedIff "hall" ticket 1 underway).2 cancelled
  rw [untripped] at tripped
  contradiction

end Visits

end Office

end Parley
