/-
Module: Parley.Intent.RateWindow
Layer: Intent
Purpose: The calls admitted under a rate limit, by session.  A call is admitted while fewer than the
  greatest number of calls lie within the window; only admitted calls are remembered, and sessions
  without a call in the window are forgotten.
Main exports: RateWindow, RateWindow.grant
-/
import Parley.Intent.Context

namespace Parley

/-- The times, in nanoseconds, of the admitted calls of each session. -/
abbrev RateWindow : Type := Dictionary (List Int)

namespace RateWindow

/-- Forget what left the window at the front, and sessions with nothing left.  A call whose time was
taken after the present one has lasted for no time at all. -/
def expire (span : Duration) (now : Int) (window : RateWindow) : RateWindow :=
  (window.map fun (session, times) =>
    (session, times.dropWhile fun time => span ≤ Duration.between time now)).filter
      fun entry => !entry.2.isEmpty

/-- The number of calls of a session in the window. -/
def count (window : RateWindow) (session : String) : Nat :=
  ((Dictionary.find? window session).getD []).length

/-- Admit a call of a session unless its window is full; says whether it was admitted. -/
def grant (limit : RateLimit) (now : Int) (session : String) (window : RateWindow) :
    Bool × RateWindow :=
  let live := expire limit.window now window
  if limit.maxCalls ≤ count live session then (false, live)
  else
    let times := (Dictionary.find? live session).getD []
    (true, Dictionary.insert session (times ++ [now]) live)

end RateWindow

end Parley
