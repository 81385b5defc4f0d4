/-
Module: Parley.Proofs.Intent.RateWindow
Layer: Proofs
Purpose: The window of a rate limit, one session at a time.  Of a session only the calls that are still
  in the window matter, now and later: they decide whether a call is admitted, and what is forgotten
  beside them would be forgotten anyway.  So admitting calls of one session leaves what may be admitted
  for any other, although the calls that left the window are forgotten for all sessions at once.
Main exports: RateWindow.live, RateWindow.grant_fst, RateWindow.live_later, RateWindow.live_grant_self,
  RateWindow.live_grant_of_ne
-/
import Parley.Intent.RateWindow
import Parley.Proofs.Dictionary

namespace Parley

open Dictionary (find?)

namespace RateWindow

variable {window one two : RateWindow} {session other : String} {now later : Int}

/-- The admitted calls of a session that are in the window. -/
def live (span : Duration) (session : String) (now : Int) (window : RateWindow) : List Int :=
  ((find? window session).getD []).dropWhile fun time => span ≤ Duration.between time now

/-- What is left when more is dropped from the front is left too when all is dropped at once. -/
theorem dropWhile_dropWhile {α : Type} {early late : α → Bool}
    (implies : ∀ entry, early entry = true → late entry = true) (entries : List α) :
    (entries.dropWhile early).dropWhile late = entries.dropWhile late := by
  induction entries with
  | nil => rfl
  | cons entry rest ih =>
      cases dropped : early entry with
      | false => rw [List.dropWhile_cons_of_neg (by simp [dropped])]
      | true =>
          rw [List.dropWhile_cons_of_pos dropped, ih,
            List.dropWhile_cons_of_pos (implies entry dropped)]

/-- What left the window stays out of it. -/
theorem dropWhile_later (span : Duration) (forward : now ≤ later) (times : List Int) :
    (times.dropWhile fun time => decide (span ≤ Duration.between time now)).dropWhile
        (fun time => decide (span ≤ Duration.between time later)) =
      times.dropWhile fun time => decide (span ≤ Duration.between time later) := by
  apply dropWhile_dropWhile
  intro time past
  rw [decide_eq_true_eq] at past ⊢
  exact Duration.le_trans past (Duration.between_mono time forward)

/-- The calls in the window now determine those in the window later. -/
theorem live_later (span : Duration) (forward : now ≤ later)
    (same : live span session now one = live span session now two) :
    live span session later one = live span session later two := by
  have forgets := fun window : RateWindow =>
    dropWhile_later span forward ((find? window session).getD [])
  rw [live, live, ← forgets one, ← forgets two]
  exact congrArg _ same

/-! ### Forgetting -/

theorem sorted_expire (sorted : Dictionary.Sorted window) (span : Duration) (now : Int) :
    Dictionary.Sorted (expire span now window) :=
  List.Pairwise.filter _ (sorted.map_values _)

/-- What is remembered of a session afterwards are the calls in the window. -/
theorem getD_find?_expire (sorted : Dictionary.Sorted window) (span : Duration) (now : Int)
    (session : String) :
    (find? (expire span now window) session).getD [] =
      live span session now window := by
  rw [expire, Dictionary.find?_filter (sorted.map_values _), Dictionary.find?_map_values, live]
  cases find? window session with
  | none => rfl
  | some times =>
      simp only [Option.map_some, Option.getD_some]
      -- a session without calls in the window is not listed any more, and reads as none either way
      generalize times.dropWhile _ = left
      cases left with
      | nil => rfl
      | cons time rest => rfl

/-- Forgetting what left the window leaves what is in it, then and later. -/
theorem live_expire (sorted : Dictionary.Sorted window) (span : Duration)
    (forward : now ≤ later) (session : String) :
    live span session later (expire span now window) =
      live span session later window := by
  rw [live, getD_find?_expire sorted, live, dropWhile_later span forward, live]

/-! ### Admission -/

theorem sorted_grant (sorted : Dictionary.Sorted window) (limit : RateLimit) (now : Int)
    (session : String) : Dictionary.Sorted (grant limit now session window).2 := by
  rw [grant]
  dsimp only
  split
  · exact sorted_expire sorted _ _
  · exact (sorted_expire sorted _ _).insert _ _

/-- A call is admitted if fewer calls of its session than the limit allows are in the window. -/
theorem grant_fst (sorted : Dictionary.Sorted window) (limit : RateLimit) (now : Int)
    (session : String) :
    (grant limit now session window).1 =
      decide ((live limit.window session now window).length < limit.maxCalls) := by
  rw [grant, count, getD_find?_expire sorted]
  dsimp only
  split
  · next full => rw [decide_eq_false (Nat.not_lt.2 full)]
  · next free => rw [decide_eq_true (Nat.not_le.1 free)]

/-- An admitted call joins those of its session. -/
theorem live_grant_self (sorted : Dictionary.Sorted window) (limit : RateLimit) (now : Int)
    (session : String) :
    live limit.window session now (grant limit now session window).2 =
      (live limit.window session now window ++
        if (grant limit now session window).1 then [now] else []).dropWhile
          fun time => limit.window ≤ Duration.between time now := by
  rw [grant, count, getD_find?_expire sorted]
  dsimp only
  split
  · rw [live_expire sorted _ (Int.le_refl now), live]
    simp only [Bool.false_eq_true, if_false, List.append_nil]
    exact (dropWhile_later _ (Int.le_refl now) _).symm
  · rw [live, Dictionary.find?_insert_self]
    rfl

/-- What is in the window for other sessions is the same, then and later. -/
theorem live_grant_of_ne (sorted : Dictionary.Sorted window) (limit : RateLimit)
    (forward : now ≤ later) (different : session ≠ other) :
    live limit.window other later (grant limit now session window).2 =
      live limit.window other later window := by
  have expired := live_expire sorted limit.window forward other
  rw [grant]
  dsimp only
  split
  · exact expired
  · rw [← expired, live, Dictionary.find?_insert_of_ne _ _ different, live]

end RateWindow

end Parley
