/-
Module: Parley.Proofs.Office.Neighbours
Layer: Proofs
Purpose: What an answer to one session means to the others, and what the others mean to it.  An answer
  to a question about a session leaves all that can be read of any other session, and whatever calls of
  any other session may be admitted.  And two offices in which the same can be read of a session, and
  the same calls of it are in the windows of the rate limits, answer a question about it alike, whatever
  they hold for others.
Main exports: ExchangeQuestion.Minds, Exchange.minds_of_runs, Office.window, Office.Spares,
  Office.Spares.answer, Office.Twins, Office.Twins.answer
-/
import Parley.Proofs.Exchange.Callable
import Parley.Proofs.Intent.RateWindow
import Parley.Proofs.Office.Alone
import Parley.Proofs.Session.Reads

namespace Parley

open Program (Asked Runs)

variable {η : Type} {H : Interface}

/-! ### What an exchange asks -/

/-- A question to the store is about a session, and a call is put on no other account. -/
def ExchangeQuestion.Minds (session : String) : ExchangeQuestion (callInterface η H) → Prop
  | .call question => question.Charges session
  | question => question.IsOf session

namespace Exchange

variable {plan : Plan η} {chain : Chain η H} {input : Input} {log : List (Asked (unfolded η H))}

/-- An exchange asks the store about its own session, and its calls are put on the account of that
session only. -/
theorem minds_of_runs {result : Except Fault Reply}
    (layers : ∀ layer ∈ chain, layer.KeepsSession)
    (runs : Runs (unfold plan.syntaxDetails (toolsOf plan input) chain (run plan input)).run log
      result) :
    ∀ asked ∈ log, asked.question.Minds input.session := by
  obtain ⟨parts, rfl, runsWhole, each⟩ := runs_unfold runs
  intro asked member
  obtain ⟨⟨⟨question, answer⟩, part⟩, isPart, inPart⟩ := List.mem_flatMap.1 member
  have shows := shows_of_runs runsWhole _ (List.mem_map_of_mem isPart)
  have runsPart := each _ isPart
  dsimp only at shows runsPart inPart
  have single : ∀ {other : ExchangeQuestion (callInterface η H)} {given : other.Answer},
      Runs (askUnfolded other) part given → other.Minds input.session →
        asked.question.Minds input.session := by
    intro other given runsOther minds
    obtain rfl := Program.runs_query_iff.1 runsOther
    rw [List.mem_singleton.1 inPart]
    exact minds
  cases question with
  | call call =>
      obtain ⟨inner, runsCall, rfl⟩ := runs_embedCall runsPart
      obtain ⟨one, isOne, rfl⟩ := List.mem_map.1 inPart
      have charges := ((Call.charges_run layers).runs runsCall).1 one isOne
      rw [shows.1] at charges
      exact charges
  | secure => exact single runsPart trivial
  | load => exact single runsPart shows
  | save => exact single runsPart shows.1
  | loadNotes => exact single runsPart shows
  | report => exact single runsPart trivial
  | isCancelled => exact single runsPart trivial
  | today => exact single runsPart trivial
  | complete => exact single runsPart trivial

end Exchange

namespace Office

variable {session other : String} {now later : Int}

/-! ### Windows -/

/-- The window of a rate limit. -/
def window (office : Office η H) (limit : RateLimit) : RateWindow :=
  (office.windows.lookup limit).getD []

theorem lookup_others {α β : Type} [DecidableEq β] {key other : β} (entries : List (β × α))
    (different : other ≠ key) :
    (entries.filter fun entry => decide (entry.1 ≠ key)).lookup other = entries.lookup other := by
  induction entries with
  | nil => rfl
  | cons entry rest ih =>
      obtain ⟨first, value⟩ := entry
      by_cases dropped : first = key
      · subst dropped
        have apart : (other == first) = false := by simpa using different
        simpa [List.lookup_cons, apart] using ih
      · simp only [ne_eq, dropped, not_false_eq_true, decide_true, List.filter_cons_of_pos,
          List.lookup_cons, ih]

/-- Admitting a call changes the window of its limit. -/
theorem window_grant (office : Office η H) (limit other : RateLimit) (session : String) :
    (office.grant limit session).2.window other =
      if other = limit then (RateWindow.grant limit office.now session (office.window limit)).2
      else office.window other := by
  rw [window, grant]
  dsimp only
  by_cases same : other = limit
  · subst same
    simp [window]
  · have apart : (other == limit) = false := by simpa using same
    rw [if_neg same, List.lookup_cons, apart, window]
    exact congrArg (Option.getD · []) (lookup_others office.windows same)

/-- Every window lists its sessions in order. -/
def Ordered (office : Office η H) : Prop := ∀ limit, Dictionary.Sorted (office.window limit)

theorem Ordered.congr {office after : Office η H} (ordered : Ordered office)
    (windows : after.windows = office.windows) : Ordered after := by
  intro limit
  rw [window, windows]
  exact ordered limit

theorem Ordered.grant {office : Office η H} (ordered : Ordered office) (limit : RateLimit)
    (session : String) : Ordered (office.grant limit session).2 := by
  intro other
  rw [window_grant]
  split
  · exact RateWindow.sorted_grant (ordered _) limit office.now session
  · exact ordered other

theorem Ordered.answer {token : Option Nat} {question : ExchangeQuestion (callInterface η H)}
    {before after : Office η H} {answer : question.Answer} (ordered : Ordered before)
    (answered : MayAnswer token question before answer after) : Ordered after := by
  rcases answered with may | exact
  · cases question with
    | load => obtain ⟨backend, -, rfl⟩ := may; exact ordered
    | save => obtain ⟨backend, -, rfl⟩ := may; exact ordered
    | loadNotes => obtain ⟨backend, -, rfl⟩ := may; exact ordered
    | _ => exact may.elim
  · cases question with
    | call question =>
        cases question with
        | grant limit session => cases exact; exact ordered.grant limit session
        | _ => cases exact; exact ordered
    | _ => cases exact; exact ordered

theorem Ordered.move {before after : Office η H} {deed : Deed η H} (ordered : Ordered before)
    (move : Move MayAnswer before deed after) : Ordered after := by
  cases move with
  | answer found stage given =>
      have answered := ordered.answer given
      exact answered
  | callIn ticket =>
      rcases callIn_eq before ticket with same | ⟨task, -, -, looked | ⟨-, begun⟩⟩
      · rw [same]
        exact ordered
      · rw [looked]
        exact ordered
      · rw [begun]
        exact ordered
  | abandon ticket =>
      rw [Office.abandon]
      split
      · exact ordered
      · dsimp only
        split <;> exact ordered
  | _ => exact ordered

theorem ordered_run {plan : Exchange.Plan η} {chain : Chain η H} {ttl : Option Duration}
    {backend : Backend} {began : Int} {deeds : List (Deed η H)} {office : Office η H}
    (run : Run MayAnswer (.new plan chain ttl backend began) deeds office) : Ordered office := by
  have new : Ordered (.new plan chain ttl backend began : Office η H) := by
    intro limit
    exact List.Pairwise.nil
  exact run.induct new fun _ _ _ move ordered => ordered.move move

/-! ### Others -/

/-- The same can be read of all sessions but one, and their calls are in the windows as they were,
from the time of the office on. -/
structure Spares (session : String) (before after : Office η H) : Prop where
  reads : ∀ other, other ≠ session → ∀ now,
    after.backend.reads other now = before.backend.reads other now
  calls : ∀ limit other later, other ≠ session → after.now ≤ later →
    RateWindow.live limit.window other later (after.window limit) =
      RateWindow.live limit.window other later (before.window limit)

section Spares

variable {base office after : Office η H}

theorem Spares.refl (office : Office η H) : Spares session office office :=
  ⟨fun _ _ _ => rfl, fun _ _ _ _ _ => rfl⟩

/-- Only what is stored, the windows and the time matter. -/
theorem Spares.congr (spares : Spares session base office)
    (backend : after.backend = office.backend) (windows : after.windows = office.windows)
    (now : office.now ≤ after.now) : Spares session base after where
  reads := by
    intro other different now
    rw [backend]
    exact spares.reads other different now
  calls := by
    intro limit other later different isLater
    rw [window, windows]
    exact spares.calls limit other later different (Int.le_trans now isLater)

theorem Spares.grant (spares : Spares session base office) (ordered : Ordered office)
    (limit : RateLimit) : Spares session base (office.grant limit session).2 where
  reads := spares.reads
  calls := by
    intro asked other later different isLater
    have kept := spares.calls asked other later different isLater
    rw [window_grant]
    split
    · next same =>
        subst same
        exact (RateWindow.live_grant_of_ne (ordered asked) asked isLater different.symm).trans kept
    · exact kept

/-- An answer to a question about a session spares all others. -/
theorem Spares.answer {oracle : Oracle η H} {token : Option Nat}
    {question : ExchangeQuestion (callInterface η H)} {answer : question.Answer}
    (spares : Spares session base office) (ordered : Ordered office)
    (minds : question.Minds session)
    (answered : oracle.answering token question office answer after) :
    Spares session base after := by
  have stored : ∀ backend : Backend,
      (∀ other, other ≠ session → ∀ now,
        backend.reads other now = office.backend.reads other now) →
      Spares session base { office with backend := backend } :=
    fun backend same => ⟨fun other different now =>
      (same other different now).trans (spares.reads other different now), spares.calls⟩
  cases question with
  | secure => obtain ⟨-, rfl⟩ := answered; exact spares
  | complete => obtain ⟨-, rfl⟩ := answered; exact spares
  | load asked =>
      cases answered
      cases minds
      exact stored _ fun other different now => Backend.reads_load _ (.inr different)
  | loadNotes asked =>
      cases answered
      cases minds
      exact stored _ fun other different now => Backend.reads_loadNotes _ (.inr different)
  | save asked turns =>
      cases answered
      cases minds
      exact stored _ fun other different now => Backend.reads_save_of_ne _ different
  | report => cases answered; exact spares.congr rfl rfl (Int.le_refl _)
  | isCancelled => cases answered; exact spares
  | today => cases answered; exact spares
  | call question =>
      cases question with
      | handle => obtain ⟨-, rfl⟩ := answered; exact spares
      | host => obtain ⟨-, rfl⟩ := answered; exact spares
      | clock => cases answered; exact spares
      | grant limit asker =>
          cases answered
          cases minds
          exact spares.grant ordered limit

end Spares

/-! ### Two offices -/

/-- Two offices with one time, in which the same can be read of a session from then on, and the same
calls of it are in the windows. -/
structure Twins (session : String) (one two : Office η H) : Prop where
  now : one.now = two.now
  stored : Backend.Matched session one.now one.backend two.backend
  calls : ∀ limit,
    RateWindow.live limit.window session one.now (one.window limit) =
      RateWindow.live limit.window session one.now (two.window limit)

/-- Some events have been reported, the same in two offices. -/
def Reported (oneBefore twoBefore one two : Office η H) : Prop :=
  ∃ events, one.reports = events ++ oneBefore.reports ∧ two.reports = events ++ twoBefore.reports

section Twins

variable {one two oneAfter twoAfter : Office η H}

/-- Only what is stored, the windows and the time matter. -/
theorem Twins.congr (twins : Twins session one two)
    (oneStored : oneAfter.backend = one.backend) (twoStored : twoAfter.backend = two.backend)
    (oneWindows : oneAfter.windows = one.windows) (twoWindows : twoAfter.windows = two.windows)
    (forward : one.now ≤ oneAfter.now) (now : oneAfter.now = twoAfter.now) :
    Twins session oneAfter twoAfter where
  now := now
  stored := by
    rw [oneStored, twoStored]
    exact ⟨twins.stored.room, fun later isLater =>
      twins.stored.alike later (Int.le_trans forward isLater)⟩
  calls := by
    intro limit
    rw [window, window, oneWindows, twoWindows]
    exact RateWindow.live_later _ forward (twins.calls limit)

/-- A call is admitted in both or in neither. -/
theorem Twins.grant (twins : Twins session one two) (oneOrdered : Ordered one)
    (twoOrdered : Ordered two) (limit : RateLimit) :
    (one.grant limit session).1 = (two.grant limit session).1 ∧
      Twins session (one.grant limit session).2 (two.grant limit session).2 := by
  have calls := twins.calls limit
  have admitted : (RateWindow.grant limit one.now session (one.window limit)).1 =
      (RateWindow.grant limit one.now session (two.window limit)).1 := by
    rw [RateWindow.grant_fst (oneOrdered _), RateWindow.grant_fst (twoOrdered _), calls]
  constructor
  · rw [Office.grant, Office.grant, ← twins.now]
    exact admitted
  · refine ⟨twins.now, twins.stored, ?_⟩
    intro other
    rw [window_grant, window_grant, ← twins.now]
    by_cases same : other = limit
    · subst same
      rw [if_pos rfl, if_pos rfl]
      have oneLive := RateWindow.live_grant_self (oneOrdered other) other one.now session
      have twoLive := RateWindow.live_grant_self (twoOrdered other) other one.now session
      rw [← admitted, ← calls] at twoLive
      exact oneLive.trans twoLive.symm
    · rw [if_neg same, if_neg same]
      exact twins.calls other

/-- A question about the session is answered alike in both. -/
theorem Twins.answer {oracle : Oracle η H} {oneToken twoToken : Option Nat}
    {question : ExchangeQuestion (callInterface η H)} {oneAnswer twoAnswer : question.Answer}
    (twins : Twins session one two) (ttl : one.ttl = two.ttl)
    (oneOrdered : Ordered one) (twoOrdered : Ordered two)
    (told : oneToken.any one.cancels.isTripped = twoToken.any two.cancels.isTripped)
    (minds : question.Minds session)
    (oneAnswered : oracle.answering oneToken question one oneAnswer oneAfter)
    (twoAnswered : oracle.answering twoToken question two twoAnswer twoAfter) :
    oneAnswer = twoAnswer ∧ Twins session oneAfter twoAfter ∧
      Reported one two oneAfter twoAfter := by
  have quiet : Reported one two one two := ⟨[], rfl, rfl⟩
  have still := Int.le_refl one.now
  cases question with
  | secure =>
      obtain ⟨given, rfl⟩ := oneAnswered
      obtain ⟨givenToo, rfl⟩ := twoAnswered
      exact ⟨Option.some.inj (given.symm.trans givenToo), twins, quiet⟩
  | complete =>
      obtain ⟨given, rfl⟩ := oneAnswered
      obtain ⟨givenToo, rfl⟩ := twoAnswered
      exact ⟨Option.some.inj (given.symm.trans givenToo), twins, quiet⟩
  | load asked =>
      cases oneAnswered
      cases twoAnswered
      cases minds
      obtain ⟨same, stored⟩ := twins.stored.load still
      rw [← twins.now]
      exact ⟨same, ⟨rfl, stored, twins.calls⟩, quiet⟩
  | loadNotes asked =>
      cases oneAnswered
      cases twoAnswered
      cases minds
      obtain ⟨same, stored⟩ := twins.stored.loadNotes still
      rw [← twins.now]
      exact ⟨same, ⟨rfl, stored, twins.calls⟩, quiet⟩
  | save asked turns =>
      cases oneAnswered
      cases twoAnswered
      cases minds
      obtain ⟨same, stored⟩ := twins.stored.save still turns one.ttl
      rw [← twins.now, ← ttl]
      exact ⟨same, ⟨rfl, stored, twins.calls⟩, quiet⟩
  | report event =>
      cases oneAnswered
      cases twoAnswered
      exact ⟨rfl, twins.congr rfl rfl rfl rfl still twins.now, [event], rfl, rfl⟩
  | isCancelled =>
      cases oneAnswered
      cases twoAnswered
      exact ⟨told, twins, quiet⟩
  | today =>
      cases oneAnswered
      cases twoAnswered
      rw [twins.now]
      exact ⟨rfl, twins, quiet⟩
  | call question =>
      cases question with
      | handle =>
          obtain ⟨given, rfl⟩ := oneAnswered
          obtain ⟨givenToo, rfl⟩ := twoAnswered
          exact ⟨Option.some.inj (given.symm.trans givenToo), twins, quiet⟩
      | host =>
          obtain ⟨given, rfl⟩ := oneAnswered
          obtain ⟨givenToo, rfl⟩ := twoAnswered
          exact ⟨Option.some.inj (given.symm.trans givenToo), twins, quiet⟩
      | clock =>
          cases oneAnswered
          cases twoAnswered
          exact ⟨twins.now, twins, quiet⟩
      | grant limit asker =>
          cases oneAnswered
          cases twoAnswered
          cases minds
          obtain ⟨same, granted⟩ := twins.grant oneOrdered twoOrdered limit
          exact ⟨same, granted, quiet⟩

end Twins

end Office

end Parley
