/-
Module: Parley.Proofs.Office.Line
Layer: Proofs
Purpose: The order in which the operations of one session obtain its permit.  As long as nobody
  abandons a wait, the permit goes from one operation to the next only when the first has ended, so
  all in the order have ended but those who have the permit.
Main exports: Office.Served, Office.Run.served, Office.Lined, Office.Lined.callIn,
  Office.Lined.conclude
-/
import Parley.Proofs.Office.History

namespace Parley

variable {η : Type} {H : Interface}

namespace Office

/-- Deeds one after another, and the tickets of a session in the order in which they obtained its
permit. -/
inductive Served (answers : Answering η H) (session : String) (office : Office η H) :
    List (Deed η H) → Office η H → List Nat → Prop where
  | nil : Served answers session office [] office (office.locks.holders session)
  | snoc {deeds : List (Deed η H)} {deed : Deed η H} {before after : Office η H}
      {order : List Nat} :
      Served answers session office deeds before order → Move answers before deed after →
      Served answers session office (deeds ++ [deed]) after
        (order ++ (after.locks.holders session).filter fun ticket => ticket ∉ order)

/-- Every run has such an order. -/
theorem Run.served {answers : Answering η H} {office after : Office η H}
    {deeds : List (Deed η H)} (run : Run answers office deeds after) (session : String) :
    ∃ order, Served answers session office deeds after order := by
  induction run with
  | nil => exact ⟨_, .nil⟩
  | snoc _ move ih =>
      obtain ⟨order, served⟩ := ih
      exact ⟨_, served.snoc move⟩

/-- The permit of a session was obtained in some order, in which `done` have ended; the others have
the permit now. -/
structure Lined (session : String) (deeds : List (Deed η H)) (office : Office η H)
    (order done : List Nat) : Prop where
  order_eq : order = done ++ office.locks.holders session
  nodup : order.Nodup
  issued : ∀ ticket ∈ order, ticket < office.locks.nextTicket
  ended : ∀ ticket ∈ done, resultOf? deeds ticket ≠ none
  going : ∀ ticket ∈ office.locks.holders session, resultOf? deeds ticket = none
  /-- Who waits has not had the permit. -/
  waiting : ∀ ticket ∈ office.locks.queue session,
    ticket ∉ order ∧ resultOf? deeds ticket = none
  /-- Every operation of the session that has ended had the permit. -/
  complete : ∀ ticket operation, operationOf? deeds ticket = some operation →
    operation.session = session → resultOf? deeds ticket ≠ none → ticket ∈ done

section Lined

variable {answers : Answering η H} {session : String} {deeds : List (Deed η H)} {deed : Deed η H}
  {before after : Office η H} {order done : List Nat}

theorem filter_held (order done holders : List Nat) (same : order = done ++ holders) :
    holders.filter (fun ticket => ticket ∉ order) = [] := by
  apply List.filter_eq_nil_iff.2
  intro ticket member
  simp [same, member]

/-- A deed that changes neither the line of the session nor who of it has ended. -/
theorem Lined.unmoved (lined : Lined session deeds before order done)
    (recorded : Recorded deeds before) (move : Move answers before deed after)
    (nextTicket : before.locks.nextTicket ≤ after.locks.nextTicket)
    (holders : after.locks.holders session = before.locks.holders session)
    (queue : after.locks.queue session = before.locks.queue session)
    (elsewhere : ∀ ticket, deed.resultOf? ticket ≠ none →
      ticket ∉ before.locks.holders session ∧ ticket ∉ before.locks.queue session ∧
        ∀ operation, operationOf? (deeds ++ [deed]) ticket = some operation →
          operation.session ≠ session) :
    Lined session (deeds ++ [deed]) after
      (order ++ (after.locks.holders session).filter fun ticket => ticket ∉ order) done := by
  have notEnded : ∀ ticket, (ticket ∈ before.locks.holders session ∨
      ticket ∈ before.locks.queue session) → deed.resultOf? ticket = none := by
    intro ticket there
    apply Classical.byContradiction
    intro ends
    obtain ⟨notHolder, notQueued, -⟩ := elsewhere ticket ends
    exact there.elim notHolder notQueued
  rw [holders, filter_held order done _ lined.order_eq, List.append_nil]
  constructor
  · rw [holders]
    exact lined.order_eq
  · exact lined.nodup
  · exact fun ticket member => Nat.lt_of_lt_of_le (lined.issued ticket member) nextTicket
  · intro ticket member
    rw [(recorded.settled move (lined.ended ticket member)).2.2]
    exact lined.ended ticket member
  · intro ticket member
    rw [holders] at member
    rw [resultOf?_concat, lined.going ticket member, notEnded ticket (.inl member)]
    rfl
  · intro ticket member
    rw [queue] at member
    obtain ⟨unserved, going⟩ := lined.waiting ticket member
    refine ⟨unserved, ?_⟩
    rw [resultOf?_concat, going, notEnded ticket (.inr member)]
    rfl
  · intro ticket operation isStarted sameSession hasEnded
    have notNow : deed.resultOf? ticket = none := by
      apply Classical.byContradiction
      intro ends
      exact (elsewhere ticket ends).2.2 operation isStarted sameSession
    rw [resultOf?_concat, notNow, Option.or_none] at hasEnded
    rw [(recorded.settled move hasEnded).1] at isStarted
    exact lined.complete ticket operation isStarted sameSession hasEnded

/-- A deed that ends nothing changes neither how operations have ended nor which. -/
theorem Lined.without_result (lined : Lined session deeds before order done)
    (recorded : Recorded deeds before) (move : Move answers before deed after)
    (noResult : ∀ ticket, deed.resultOf? ticket = none) :
    (∀ ticket, resultOf? (deeds ++ [deed]) ticket = resultOf? deeds ticket) ∧
      ∀ ticket operation, operationOf? (deeds ++ [deed]) ticket = some operation →
        operation.session = session → resultOf? (deeds ++ [deed]) ticket ≠ none →
          ticket ∈ done := by
  have same : ∀ ticket, resultOf? (deeds ++ [deed]) ticket = resultOf? deeds ticket := by
    intro ticket
    rw [resultOf?_concat, noResult, Option.or_none]
  refine ⟨same, ?_⟩
  intro ticket operation isStarted sameSession hasEnded
  rw [same] at hasEnded
  rw [(recorded.settled move hasEnded).1] at isStarted
  exact lined.complete ticket operation isStarted sameSession hasEnded

/-- The next ticket gets the permit at once, while nobody has it or waits for it. -/
theorem Lined.take (lined : Lined session deeds before order done)
    (recorded : Recorded deeds before) (move : Move answers before deed after)
    (noResult : ∀ ticket, deed.resultOf? ticket = none)
    (nextTicket : after.locks.nextTicket = before.locks.nextTicket + 1)
    (free : before.locks.holders session = [])
    (holders : after.locks.holders session = [before.locks.nextTicket])
    (queue : after.locks.queue session = []) :
    Lined session (deeds ++ [deed]) after
      (order ++ (after.locks.holders session).filter fun ticket => ticket ∉ order) done := by
  obtain ⟨sameResult, complete⟩ := lined.without_result recorded move noResult
  have fresh : before.locks.nextTicket ∉ order := fun member =>
    Nat.lt_irrefl _ (lined.issued _ member)
  have added : [before.locks.nextTicket].filter (fun ticket => ticket ∉ order) =
      [before.locks.nextTicket] := by
    simp [fresh]
  rw [holders, added]
  constructor
  · rw [holders, lined.order_eq, free, List.append_nil]
  · apply List.nodup_append.2
    refine ⟨lined.nodup, by simp, ?_⟩
    intro ticket member other isNew same
    rw [List.mem_singleton.1 isNew] at same
    exact fresh (same ▸ member)
  · intro ticket member
    rw [nextTicket]
    rcases List.mem_append.1 member with early | isNew
    · exact Nat.lt_succ_of_lt (lined.issued ticket early)
    · rw [List.mem_singleton.1 isNew]
      exact Nat.lt_succ_self _
  · intro ticket member
    rw [sameResult]
    exact lined.ended ticket member
  · intro ticket member
    rw [holders] at member
    rw [sameResult, List.mem_singleton.1 member]
    exact (recorded.fresh _ (Nat.le_refl _)).2.2
  · intro ticket member
    rw [queue] at member
    contradiction
  · exact complete

/-- The next ticket stands at the end of the queue. -/
theorem Lined.join (lined : Lined session deeds before order done)
    (recorded : Recorded deeds before) (move : Move answers before deed after)
    (noResult : ∀ ticket, deed.resultOf? ticket = none)
    (nextTicket : after.locks.nextTicket = before.locks.nextTicket + 1)
    (holders : after.locks.holders session = before.locks.holders session)
    (queue : after.locks.queue session =
      before.locks.queue session ++ [before.locks.nextTicket]) :
    Lined session (deeds ++ [deed]) after
      (order ++ (after.locks.holders session).filter fun ticket => ticket ∉ order) done := by
  obtain ⟨sameResult, complete⟩ := lined.without_result recorded move noResult
  rw [holders, filter_held order done _ lined.order_eq, List.append_nil]
  constructor
  · rw [holders]
    exact lined.order_eq
  · exact lined.nodup
  · intro ticket member
    rw [nextTicket]
    exact Nat.lt_succ_of_lt (lined.issued ticket member)
  · intro ticket member
    rw [sameResult]
    exact lined.ended ticket member
  · intro ticket member
    rw [holders] at member
    rw [sameResult]
    exact lined.going ticket member
  · intro ticket member
    rw [sameResult]
    rw [queue] at member
    rcases List.mem_append.1 member with early | isNew
    · exact lined.waiting ticket early
    · rw [List.mem_singleton.1 isNew]
      constructor
      · exact fun member => Nat.lt_irrefl _ (lined.issued _ member)
      · exact (recorded.fresh _ (Nat.le_refl _)).2.2
  · exact complete

/-- A newcomer takes the permit if it is free, and stands at the end of the queue if not. -/
theorem Lined.start (lined : Lined session deeds before order done) (attended : Attended before)
    (recorded : Recorded deeds before) (operation : Operation) :
    let deed := .start (before.start operation).1 operation
    let after := (before.start operation).2
    Lined session (deeds ++ [deed]) after
      (order ++ (after.locks.holders session).filter fun ticket => ticket ∉ order) done := by
  intro deed after
  have move : Move MayAnswer before deed after := .start before operation
  have noResult : ∀ ticket, deed.resultOf? ticket = none := fun _ => rfl
  have nextTicket : after.locks.nextTicket = before.locks.nextTicket + 1 := by
    simp only [after, start_eq]
    exact LockTable.acquire_nextTicket before.locks operation.session
  have holders : after.locks.holders session =
      if operation.session = session ∧ before.locks.holders session = [] then
        [before.locks.nextTicket]
      else before.locks.holders session := by
    simp only [after, start_eq]
    exact attended.sound.holders_acquire operation.session session
  have queue : after.locks.queue session =
      if operation.session = session ∧ before.locks.holders session ≠ [] then
        before.locks.queue session ++ [before.locks.nextTicket]
      else before.locks.queue session := by
    simp only [after, start_eq]
    exact attended.sound.queue_acquire operation.session session
  by_cases here : operation.session = session
  · by_cases free : before.locks.holders session = []
    · have noQueue : before.locks.queue session = [] := by
        apply Classical.byContradiction
        exact fun queued => attended.sound.busy session queued free
      rw [if_pos ⟨here, free⟩] at holders
      rw [if_neg fun both => both.2 free, noQueue] at queue
      exact lined.take recorded move noResult nextTicket free holders queue
    · rw [if_neg fun both => free both.2] at holders
      rw [if_pos ⟨here, free⟩] at queue
      exact lined.join recorded move noResult nextTicket holders queue
  · rw [if_neg fun both => here both.1] at holders queue
    apply lined.unmoved recorded move (by rw [nextTicket]; exact Nat.le_succ _) holders queue
    exact fun ticket ends => absurd rfl ends

/-- A task in the line of a session is one of its tasks. -/
theorem session_of_line (attended : Attended before) {task : Task η H}
    (member : task ∈ before.tasks)
    (there : task.ticket ∈ before.locks.holders session ∨
      task.ticket ∈ before.locks.queue session) : task.operation.session = session := by
  obtain ⟨claim, claimMember, sameTicket, sameSession, -⟩ := attended.claimed task member
  have only : ∀ other ∈ before.locks.claims, other.session = session →
      other.ticket = task.ticket → task.operation.session = session := by
    intro other otherMember inSession isTicket
    rw [← sameSession, ← inSession]
    rw [attended.sound.eq_of_ticket claimMember otherMember (isTicket.trans sameTicket.symm)]
  rcases there with holds | waits
  · obtain ⟨other, otherMember, inSession, -, isTicket⟩ := LockTable.mem_holdingIn.1 holds
    exact only other otherMember inSession isTicket
  · obtain ⟨other, otherMember, inSession, -, isTicket⟩ := LockTable.mem_waitingIn.1 waits
    exact only other otherMember inSession isTicket

/-- When an operation of another session ends, the line stays. -/
theorem Lined.conclude_elsewhere (lined : Lined session deeds before order done)
    (attended : Attended before) (recorded : Recorded deeds before) {task : Task η H}
    {token : Option Nat} {result : Except Fault Result} (member : task ∈ before.tasks)
    (stage : task.stage = .running token (.done result))
    (elsewhere : task.operation.session ≠ session) :
    let after := before.conclude task token
    Lined session (deeds ++ [.conclude task.ticket result]) after
      (order ++ (after.locks.holders session).filter fun ticket => ticket ∉ order) done := by
  intro after
  have move : Move MayAnswer before (.conclude task.ticket result) after :=
    .conclude (attended.task?_eq member) stage
  have runs := Task.runs_of_stage stage
  obtain ⟨claim, claimMember, sameTicket, sameSession, held⟩ := attended.held_of_runs member runs
  have line := attended.sound.line_release claimMember held session
  rw [if_neg (sameSession ▸ elsewhere), sameTicket] at line
  apply lined.unmoved recorded move (nextTicket_le_move id move) line.1 line.2
  intro ticket ends
  have same : task.ticket = ticket := by
    apply Classical.byContradiction
    intro different
    exact ends (if_neg different)
  subst same
  refine ⟨fun holds => elsewhere (session_of_line attended member (.inl holds)),
    fun waits => elsewhere (session_of_line attended member (.inr waits)), ?_⟩
  intro operation isStarted
  rw [operationOf?_concat, recorded.started task member] at isStarted
  cases isStarted
  exact elsewhere

/-- Calling in a task changes no line. -/
theorem Lined.callIn (lined : Lined session deeds before order done) (attended : Attended before)
    (recorded : Recorded deeds before) (ticket : Nat) :
    let after := before.callIn ticket
    Lined session (deeds ++ [.callIn ticket]) after
      (order ++ (after.locks.holders session).filter fun ticket => ticket ∉ order) done := by
  intro after
  have move : Move MayAnswer before (.callIn ticket) after := .callIn before ticket
  have line : after.locks.holders session = before.locks.holders session ∧
      after.locks.queue session = before.locks.queue session := by
    rcases callIn_eq before ticket with same | ⟨task, -, -, looked | ⟨-, begun⟩⟩
    · have isSame : after = before := same
      rw [isSame]
      exact ⟨rfl, rfl⟩
    · simp only [after, looked]
      exact attended.sound.line_poll ticket session
    · simp only [after, begun]
      exact attended.sound.line_poll ticket session
  apply lined.unmoved recorded move (nextTicket_le_move id move) line.1 line.2
  exact fun ticket ends => absurd rfl ends

/-- When an operation of the session ends, the permit goes to the first in the queue. -/
theorem Lined.conclude (lined : Lined session deeds before order done)
    (attended : Attended before) (recorded : Recorded deeds before) {task : Task η H}
    {token : Option Nat} {result : Except Fault Result} (member : task ∈ before.tasks)
    (stage : task.stage = .running token (.done result))
    (here : task.operation.session = session) :
    let after := before.conclude task token
    Lined session (deeds ++ [.conclude task.ticket result]) after
      (order ++ (after.locks.holders session).filter fun ticket => ticket ∉ order)
      (done ++ [task.ticket]) := by
  intro after
  have move : Move MayAnswer before (.conclude task.ticket result) after :=
    .conclude (attended.task?_eq member) stage
  have runs := Task.runs_of_stage stage
  obtain ⟨claim, claimMember, sameTicket, sameSession, held⟩ := attended.held_of_runs member runs
  have line := attended.sound.line_release claimMember held session
  rw [if_pos (sameSession.trans here), sameTicket] at line
  obtain ⟨holdersWere, holders, queue⟩ := line
  have orderEq : order = done ++ [task.ticket] := by rw [lined.order_eq, holdersWere]
  have inOrder : task.ticket ∈ order := by simp [orderEq]
  have fromQueue : ∀ ticket ∈ (before.locks.queue session).take 1,
      ticket ∈ before.locks.queue session := fun ticket => List.mem_of_mem_take
  have added : ((before.locks.queue session).take 1).filter (fun ticket => ticket ∉ order) =
      (before.locks.queue session).take 1 := by
    apply List.filter_eq_self.2
    intro ticket first
    simpa using (lined.waiting ticket (fromQueue ticket first)).1
  have going : ∀ ticket ∈ before.locks.queue session,
      resultOf? (deeds ++ [.conclude task.ticket result]) ticket = none := by
    intro ticket queued
    obtain ⟨unserved, noResult⟩ := lined.waiting ticket queued
    have still : ¬Changes ticket (.conclude task.ticket result : Deed η H) :=
      fun same => unserved (same ▸ inOrder)
    rw [(lookups_of_not_changes deeds still).2.2]
    exact noResult
  have holdersAfter : after.locks.holders session = (before.locks.queue session).take 1 := holders
  have queueAfter : after.locks.queue session = (before.locks.queue session).drop 1 := queue
  rw [holdersAfter, added]
  constructor
  · rw [holdersAfter, orderEq]
  · apply List.nodup_append.2
    refine ⟨lined.nodup, (attended.sound.nodup_queue session).sublist (List.take_sublist 1 _), ?_⟩
    intro ticket served other first same
    exact (lined.waiting other (fromQueue other first)).1 (same ▸ served)
  · intro ticket served
    have grows := nextTicket_le_move id move
    rcases List.mem_append.1 served with early | first
    · exact Nat.lt_of_lt_of_le (lined.issued ticket early) grows
    · obtain ⟨queued, queuedMember, -, -, isTicket⟩ :=
        LockTable.mem_waitingIn.1 (fromQueue ticket first)
      rw [← isTicket]
      exact Nat.lt_of_lt_of_le (attended.sound.issued queued queuedMember) grows
  · intro ticket isDone
    rcases List.mem_append.1 isDone with early | now
    · rw [(recorded.settled move (lined.ended ticket early)).2.2]
      exact lined.ended ticket early
    · rw [List.mem_singleton.1 now, resultOf?_concat, recorded.going task member]
      simp [Deed.resultOf?]
  · intro ticket first
    rw [holdersAfter] at first
    exact going ticket (fromQueue ticket first)
  · intro ticket later
    rw [queueAfter] at later
    have queued := List.mem_of_mem_drop later
    refine ⟨?_, going ticket queued⟩
    intro served
    rcases List.mem_append.1 served with early | first
    · exact (lined.waiting ticket queued).1 early
    · have unique := attended.sound.nodup_queue session
      rw [← List.take_append_drop 1 (before.locks.queue session)] at unique
      exact (List.nodup_append.1 unique).2.2 ticket first ticket later rfl
  · intro ticket operation isStarted sameSession hasEnded
    by_cases same : task.ticket = ticket
    · rw [same]
      exact List.mem_append_right _ (List.mem_singleton_self _)
    · have still : ¬Changes ticket (.conclude task.ticket result : Deed η H) := same
      obtain ⟨operationSame, -, resultSame⟩ := lookups_of_not_changes deeds still
      rw [operationSame] at isStarted
      rw [resultSame] at hasEnded
      exact List.mem_append_left _
        (lined.complete ticket operation isStarted sameSession hasEnded)

end Lined

end Office

end Parley
