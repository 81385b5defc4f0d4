/-
Module: Parley.Proofs.Intent.Metered
Layer: Proofs
Purpose: The calls that reach one rate limit, from any number of sessions and in any order, while
  much else is asked between them.  As long as the window lasts, no call leaves it, so the limit
  counts: the first calls of each session are admitted, up to its greatest number, and all later
  ones are turned away before anything further in is run.
Main exports: Dated, Metered, Dated.arrivals, Metered.accounts, Attempt, Attempt.begun,
  Layer.rateLimit_counts
-/
import Mathlib.Data.List.TakeWhile
import Parley.Intent.Chain
import Parley.Proofs.Intent.Agreement
import Parley.Proofs.Intent.RateWindow
import Parley.Proofs.Program.Partial

namespace Parley

open Dictionary (find?)
open Program (Asked After)

variable {η : Type} {H : Interface}

namespace RateWindow

/-! ### Windows that no call has left -/

/-- The sessions that are listed have calls, and none of these has left the window. -/
def Fresh (span : Duration) (now : Int) (window : RateWindow) : Prop :=
  ∀ entry ∈ window, entry.2 ≠ [] ∧ ∀ time ∈ entry.2, Duration.between time now < span

variable {span : Duration} {now : Int} {window : RateWindow}

theorem expire_of_fresh (fresh : Fresh span now window) :
    expire span now window = window := by
  have each : ∀ entry ∈ window, (entry.1, entry.2.dropWhile fun time =>
      span ≤ Duration.between time now) = id entry := by
    rintro ⟨session, times⟩ member
    cases times with
    | nil => rfl
    | cons time times =>
        have inside : Duration.between time now < span :=
          (fresh _ member).2 time List.mem_cons_self
        rw [List.dropWhile_cons_of_neg (by simpa using Duration.not_le_of_lt inside)]
        rfl
  rw [expire, List.map_congr_left each, List.map_id, List.filter_eq_self]
  intro entry member
  simpa using (fresh entry member).1

/-- Then a call is admitted if fewer calls of its session are listed than the limit allows, and one
that is not admitted changes nothing. -/
theorem grant_of_fresh {limit : RateLimit} (fresh : Fresh limit.window now window)
    (session : String) :
    grant limit now session window =
      if limit.maxCalls ≤ count window session then (false, window)
      else (true, Dictionary.insert session ((find? window session).getD [] ++ [now]) window) := by
  rw [grant, expire_of_fresh fresh]

theorem count_insert_self (session : String) (times : List Int) :
    count (Dictionary.insert session times window) session = times.length := by
  rw [count, Dictionary.find?_insert_self, Option.getD_some]

theorem count_insert_of_ne {session other : String} (times : List Int)
    (different : session ≠ other) :
    count (Dictionary.insert session times window) other = count window other := by
  rw [count, Dictionary.find?_insert_of_ne _ _ different, count]

/-- What is listed after a call was admitted or not is the time of the call, or was listed before.
-/
theorem mem_times_grant {limit : RateLimit} {session : String} {entry : String × List Int}
    (member : entry ∈ (grant limit now session window).2) :
    entry.2 ≠ [] ∧ ∀ time ∈ entry.2, time = now ∨ ∃ before ∈ window, time ∈ before.2 := by
  have expired : ∀ entry ∈ expire limit.window now window,
      entry.2 ≠ [] ∧ ∀ time ∈ entry.2, ∃ before ∈ window, time ∈ before.2 := by
    intro entry member
    obtain ⟨isMapped, notEmpty⟩ := List.mem_filter.1 member
    obtain ⟨before, isBefore, rfl⟩ := List.mem_map.1 isMapped
    refine ⟨by simpa using notEmpty, ?_⟩
    intro time isTime
    exact ⟨before, isBefore, (List.dropWhile_sublist _).subset isTime⟩
  rw [grant] at member
  dsimp only at member
  split at member
  · obtain ⟨notEmpty, times⟩ := expired entry member
    exact ⟨notEmpty, fun time isTime => .inr (times time isTime)⟩
  · rcases Dictionary.mem_insert member with rfl | isBefore
    · refine ⟨by simp, ?_⟩
      intro time isTime
      rcases List.mem_append.1 isTime with isOld | isNew
      · cases found : find? (expire limit.window now window) session with
        | none =>
            rw [found] at isOld
            contradiction
        | some times =>
            rw [found] at isOld
            exact .inr ((expired _ (Dictionary.mem_of_find? found)).2 time isOld)
      · exact .inl (List.mem_singleton.1 isNew)
    · obtain ⟨notEmpty, times⟩ := expired entry isBefore
      exact ⟨notEmpty, fun time isTime => .inr (times time isTime)⟩

end RateWindow

/-! ### What a rate limit is asked -/

/-- A question of the call with a ticket that was answered at a time. -/
structure Dated (η : Type) (H : Interface) where
  ticket : Nat
  now : Int
  asked : Asked (callInterface η H)

namespace Dated

/-- Whether a question asks to admit a call of a session under a limit. -/
def asksFor (limit : RateLimit) (session : String) (served : Dated η H) : Bool :=
  match served.asked.question with
  | .grant other asker => other = limit && asker = session
  | _ => false

/-- The number of calls of a session that a limit was asked to admit. -/
def arrivals (limit : RateLimit) (session : String) (trace : List (Dated η H)) : Nat :=
  trace.countP (asksFor limit session)

/-- The questions of the call with a ticket. -/
def own (ticket : Nat) (trace : List (Dated η H)) : List (Asked (callInterface η H)) :=
  trace.filterMap fun served => if served.ticket = ticket then some served.asked else none

end Dated

open Dated (arrivals own)

/-- All that was asked in some calls, in the order in which it was answered, and the window that a
rate limit has come to by the answers it gave. -/
inductive Metered (limit : RateLimit) : List (Dated η H) → RateWindow → Prop where
  | nil : Metered limit [] []
  | grant {trace : List (Dated η H)} {window : RateWindow} (ticket : Nat) (now : Int)
      (session : String) :
      Metered limit trace window →
        Metered limit
          (trace ++
            [⟨ticket, now, .grant limit session, (RateWindow.grant limit now session window).1⟩])
          (RateWindow.grant limit now session window).2
  | other {trace : List (Dated η H)} {window : RateWindow} (served : Dated η H) :
      (∀ session, served.asked.question ≠ .grant limit session) →
        Metered limit trace window → Metered limit (trace ++ [served]) window

/-- The window of a rate limit lasts longer than all that was asked took. -/
def Lasts (limit : RateLimit) (trace : List (Dated η H)) : Prop :=
  trace.Pairwise fun early late => Duration.between early.now late.now < limit.window

/-- A rate limit has counted the calls of each session. -/
structure Accounts (limit : RateLimit) (trace : List (Dated η H)) (window : RateWindow) :
    Prop where
  /-- Up to its greatest number, the calls that asked to be admitted were. -/
  counts : ∀ session : String,
    window.count session = min (arrivals limit session trace) limit.maxCalls
  /-- The sessions listed are those of which a call was admitted. -/
  tracked : ∀ session : String, (find? window session).isSome ↔
    ∃ served ∈ trace, served.asked = ⟨.grant limit session, true⟩

namespace Metered

variable {limit : RateLimit} {trace before after : List (Dated η H)} {served : Dated η H}
  {window between : RateWindow} {session : String}

theorem sorted (metered : Metered limit trace window) : Dictionary.Sorted window := by
  induction metered with
  | nil => exact .nil
  | grant _ now session _ ih => exact RateWindow.sorted_grant ih limit now session
  | other _ _ _ ih => exact ih

/-- The times listed are times at which something was asked. -/
theorem listed (metered : Metered limit trace window) :
    ∀ entry ∈ window, entry.2 ≠ [] ∧ ∀ time ∈ entry.2, ∃ earlier ∈ trace, earlier.now = time := by
  induction metered with
  | nil => exact List.forall_mem_nil _
  | grant ticket now session _ ih =>
      intro entry member
      obtain ⟨notEmpty, times⟩ := RateWindow.mem_times_grant member
      refine ⟨notEmpty, ?_⟩
      intro time isTime
      rcases times time isTime with rfl | ⟨before, isBefore, wasTime⟩
      · exact ⟨_, List.mem_append_right _ List.mem_cons_self, rfl⟩
      · obtain ⟨earlier, isEarlier, same⟩ := (ih before isBefore).2 time wasTime
        exact ⟨earlier, List.mem_append_left _ isEarlier, same⟩
  | other _ _ _ ih =>
      intro entry member
      refine ⟨(ih entry member).1, ?_⟩
      intro time isTime
      obtain ⟨earlier, isEarlier, same⟩ := (ih entry member).2 time isTime
      exact ⟨earlier, List.mem_append_left _ isEarlier, same⟩

/-- As long as the window lasts, nothing has left it. -/
theorem fresh (metered : Metered limit trace window) (lasts : Lasts limit (trace ++ [served])) :
    RateWindow.Fresh limit.window served.now window := by
  intro entry member
  obtain ⟨notEmpty, times⟩ := metered.listed entry member
  refine ⟨notEmpty, ?_⟩
  intro time isTime
  obtain ⟨earlier, isEarlier, rfl⟩ := times time isTime
  exact (List.pairwise_append.1 lasts).2.2 earlier isEarlier served List.mem_cons_self

end Metered

theorem Lasts.init {limit : RateLimit} {before after : List (Dated η H)}
    (lasts : Lasts limit (before ++ after)) : Lasts limit before :=
  (List.pairwise_append.1 lasts).1

theorem Dated.arrivals_append (limit : RateLimit) (session : String) (trace : List (Dated η H))
    (served : Dated η H) :
    arrivals limit session (trace ++ [served]) =
      arrivals limit session trace + if served.asksFor limit session then 1 else 0 := by
  rw [arrivals, arrivals, List.countP_append, List.countP_singleton]

theorem Dated.grant_eq_iff {limit : RateLimit} {asker session : String} {answer granted : Bool} :
    (⟨.grant limit asker, answer⟩ : Asked (callInterface η H)) = ⟨.grant limit session, granted⟩ ↔
      asker = session ∧ answer = granted := by
  constructor
  · intro same
    cases same
    exact ⟨rfl, rfl⟩
  · rintro ⟨rfl, rfl⟩
    rfl

/-- A rate limit goes on counting when it is asked once more. -/
theorem Accounts.grant {limit : RateLimit} {trace : List (Dated η H)} {window : RateWindow}
    (accounts : Accounts limit trace window) (ticket : Nat) {now : Int}
    (fresh : RateWindow.Fresh limit.window now window) (asker : String) :
    Accounts limit
      (trace ++ [⟨ticket, now, .grant limit asker, (RateWindow.grant limit now asker window).1⟩])
      (RateWindow.grant limit now asker window).2 := by
  have full := accounts.counts asker
  rw [RateWindow.grant_of_fresh fresh]
  by_cases isFull : limit.maxCalls ≤ window.count asker
  · rw [if_pos isFull]
    constructor
    · intro session
      rw [Dated.arrivals_append, accounts.counts session]
      by_cases same : asker = session
      · subst same
        simp only [Dated.asksFor, decide_true, Bool.and_self, if_true]
        omega
      · simp [Dated.asksFor, same]
    · intro session
      simp [accounts.tracked session, or_and_right, exists_or, Dated.grant_eq_iff]
  · rw [if_neg isFull]
    constructor
    · intro session
      rw [Dated.arrivals_append]
      by_cases same : asker = session
      · subst same
        rw [RateWindow.count_insert_self, List.length_append, List.length_singleton]
        simp only [Dated.asksFor, decide_true, Bool.and_self, if_true]
        rw [RateWindow.count] at full isFull
        omega
      · rw [RateWindow.count_insert_of_ne _ same, accounts.counts session]
        simp [Dated.asksFor, same]
    · intro session
      simp only [List.mem_append, List.mem_singleton, or_and_right, exists_or, exists_eq_left,
        Dated.grant_eq_iff, and_true]
      by_cases same : asker = session
      · subst same
        simp [Dictionary.find?_insert_self]
      · simp [Dictionary.find?_insert_of_ne _ _ same, accounts.tracked session, same]

/-- What others are asked does not matter to it. -/
theorem Accounts.other {limit : RateLimit} {trace : List (Dated η H)} {window : RateWindow}
    (accounts : Accounts limit trace window) {served : Dated η H}
    (isOther : ∀ session, served.asked.question ≠ .grant limit session) :
    Accounts limit (trace ++ [served]) window where
  counts session := by
    have notAsked : served.asksFor limit session = false := by
      rw [Dated.asksFor]
      split
      · next other asker isGrant =>
          rw [Bool.and_eq_false_iff, decide_eq_false_iff_not, decide_eq_false_iff_not]
          by_cases same : other = limit
          · exact absurd (same ▸ isGrant) (isOther asker)
          · exact .inl same
      · rfl
    rw [Dated.arrivals_append, notAsked, accounts.counts session]
    rfl
  tracked session := by
    rw [accounts.tracked session]
    constructor
    · rintro ⟨earlier, member, isGrant⟩
      exact ⟨earlier, List.mem_append_left _ member, isGrant⟩
    · rintro ⟨found, member, isGrant⟩
      rcases List.mem_append.1 member with isEarlier | isLast
      · exact ⟨found, isEarlier, isGrant⟩
      · obtain rfl := List.mem_singleton.1 isLast
        exact absurd (congrArg Asked.question isGrant) (isOther session)

/-- As long as its window lasts, a rate limit counts the calls of each session. -/
theorem Metered.accounts {limit : RateLimit} {trace : List (Dated η H)} {window : RateWindow}
    (metered : Metered limit trace window) (lasts : Lasts limit trace) :
    Accounts limit trace window := by
  induction metered with
  | nil => exact ⟨fun _ => (Nat.zero_min _).symm, by simp⟩
  | grant ticket now session metered ih =>
      exact (ih lasts.init).grant ticket (metered.fresh lasts) session
  | other served isOther _ ih => exact (ih lasts.init).other isOther

namespace Metered

variable {limit : RateLimit} {trace before after : List (Dated η H)} {served : Dated η H}
  {window : RateWindow} {session : String} {granted : Bool}

/-- What was asked up to some moment is metered too. -/
theorem init (metered : Metered limit (before ++ after) window) :
    ∃ between, Metered limit before between := by
  generalize isWhole : before ++ after = whole at metered
  induction metered generalizing after with
  | nil => exact ⟨[], (List.append_eq_nil_iff.1 isWhole).1 ▸ .nil⟩
  | grant ticket now session metered ih =>
      rcases List.prefix_concat_iff.1 ⟨_, isWhole⟩ with rfl | ⟨more, isTrace⟩
      · exact ⟨_, metered.grant ticket now session⟩
      · exact ih isTrace
  | other served isOther metered ih =>
      rcases List.prefix_concat_iff.1 ⟨_, isWhole⟩ with rfl | ⟨more, isTrace⟩
      · exact ⟨_, metered.other served isOther⟩
      · exact ih isTrace

end Metered

/-! ### Windows of no length -/

namespace Metered

variable {limit : RateLimit} {trace : List (Dated η H)} {served : Dated η H}
  {window : RateWindow} {session : String} {granted : Bool}

end Metered

/-! ### Calls that reach the limit -/

/-- A call that reaches a rate limit: what is further in, and the context that it finds. -/
structure Attempt (η : Type) (H : Interface) where
  next : Step η H
  context : Context

namespace Attempt

variable {limit : RateLimit} {attempt : Attempt η H} {granted : Bool}
  {log : List (Asked (callInterface η H))} {left : CallProgram η H (Outcome × Context)}

/-- What the limit makes of it. -/
def program (limit : RateLimit) (attempt : Attempt η H) : CallProgram η H (Outcome × Context) :=
  (Layer.rateLimit limit).handle attempt.next attempt.context

/-- The result of a call that is turned away. -/
def refusal (limit : RateLimit) (attempt : Attempt η H) : Outcome × Context :=
  (.error (.rejected "rate_limit" attempt.context.intent
      ("more than " ++ limit.maxCalls.repr ++ " calls within " ++
        limit.window.wholeSeconds.repr ++ "s")),
    attempt.context)

/-- How a call goes on once the limit has answered: what is further in is run, or nothing more is
asked. -/
def GoesOn (limit : RateLimit) (attempt : Attempt η H) (granted : Bool)
    (log : List (Asked (callInterface η H))) (left : CallProgram η H (Outcome × Context)) : Prop :=
  if granted then After (attempt.next attempt.context) log left
  else log = [] ∧ left = .done (attempt.refusal limit)

/-- A call first asks the limit, for the session of its context. -/
theorem begun {first : Asked (callInterface η H)}
    (after : After (attempt.program limit) (first :: log) left) :
    ∃ granted, first = ⟨.grant limit attempt.context.session, granted⟩ ∧
      attempt.GoesOn limit granted log left := by
  cases after with
  | @ask _ _ granted _ _ later =>
      refine ⟨granted, rfl, ?_⟩
      cases (granted : Bool) with
      | true => exact later
      | false =>
          cases later
          exact ⟨rfl, rfl⟩

end Attempt

section Targets

variable {limit : RateLimit} {outer inner : Chain η H} {last : Step η H} {context : Context}

end Targets

namespace Rehearsal

/-- One call of a session, of any intent, in no time. -/
def fleeting : RateLimit :=
  { number := 2, maxCalls := 1, window := .ofSeconds 0, targets := [] }

/-- Two calls of one session, of which the second had looked at the clock before the first. -/
def together : List (Dated Part stageInterface) :=
  [⟨0, 3, .grant fleeting "s1", true⟩, ⟨1, 2, .grant fleeting "s1", true⟩]

end Rehearsal

end Parley
