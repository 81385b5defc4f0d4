/-
Module: Parley.Exchange.ResultCache
Layer: Exchange
Purpose: The results of the tool calls of one exchange, so that a repeated request need not run
  again.  The key holds the text of the arguments as the model wrote it and the fingerprint of the
  intent; the id of the request is no part of it.
Main exports: CacheKey, ResultCache, ResultCache.find?, ResultCache.insert
-/
import Parley.Transcript.Turn

namespace Parley

/-- What a result is stored under. -/
structure CacheKey where
  tool : String
  arguments : String
  fingerprint : String
deriving DecidableEq, Repr, Inhabited

/-- The key of a request for a version of an intent. -/
def CacheKey.ofRequest (request : ToolRequest) (fingerprint : String) : CacheKey :=
  { tool := request.tool, arguments := request.arguments, fingerprint := fingerprint }

/-- Results by key; no key occurs twice. -/
abbrev ResultCache : Type := List (CacheKey × String)

namespace ResultCache

/-- The result stored under a key. -/
def find? (cache : ResultCache) (key : CacheKey) : Option String :=
  match cache with
  | [] => none
  | (stored, result) :: rest => if stored = key then some result else find? rest key

/-- Store a result, in place of the one that was there. -/
def insert (cache : ResultCache) (key : CacheKey) (result : String) : ResultCache :=
  (key, result) :: cache.filter fun entry => !decide (entry.1 = key)

@[simp] theorem find?_insert_self (cache : ResultCache) (key : CacheKey) (result : String) :
    find? (insert cache key result) key = some result := by
  simp [find?, insert]

theorem find?_insert_of_ne {key other : CacheKey} (cache : ResultCache) (result : String)
    (different : key ≠ other) :
    find? (insert cache key result) other = find? cache other := by
  rw [insert, find?, if_neg different]
  induction cache with
  | nil => rfl
  | cons head rest ih =>
      obtain ⟨stored, old⟩ := head
      by_cases replaced : stored = key
      · subst replaced
        simp [find?, different, ih]
      · simp [find?, replaced, ih]

end ResultCache

end Parley
