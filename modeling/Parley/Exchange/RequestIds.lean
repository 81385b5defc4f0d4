/-
Module: Parley.Exchange.RequestIds
Layer: Exchange
Purpose: Ids for the requests of one assistant turn.  The first request with a given id that is not
  blank keeps it; every other request gets an id made from the round and its index, with a number
  behind it where that is taken.
Main exports: RequestIds.firstFree, RequestIds.distinct
-/
import Parley.Text.Blank
import Parley.Transcript.Turn

namespace Parley.RequestIds

/-- The names tried for a base: the base itself, then the base with a number. -/
def candidate (base : String) : Nat → String
  | 0 => base
  | n + 1 => base ++ "_" ++ (n + 1).repr

/-- The first candidate from the `n`-th on that is not taken, `tries` at most passed over. -/
def firstFreeFrom (taken : List String) (base : String) (n : Nat) : (tries : Nat) → String
  | 0 => candidate base n
  | tries + 1 =>
      if taken.contains (candidate base n) then firstFreeFrom taken base (n + 1) tries
      else candidate base n

/-- The first candidate that is not taken.  The candidates are distinct, so as many of them as there
are taken names may be in use, but not one more. -/
def firstFree (taken : List String) (base : String) : String :=
  firstFreeFrom taken base 0 taken.length

/-- The base of the ids made for the request at an index of a round. -/
def base (round index : Nat) : String :=
  "call_" ++ round.repr ++ "_" ++ index.repr

/-- The id of a request, given the ids that the model supplied and those of the requests before. -/
def choose (supplied seen : List String) (round index : Nat) (id : String) : String :=
  if Text.isBlank id || seen.contains id then firstFree (seen ++ supplied) (base round index)
  else id

/-- Ids for the requests from an index on. -/
def distinctFrom (supplied : List String) (round : Nat) (seen : List String) (index : Nat) :
    List ToolRequest → List ToolRequest
  | [] => []
  | request :: requests =>
      let id := choose supplied seen round index request.id
      { request with id := id } ::
        distinctFrom supplied round (id :: seen) (index + 1) requests

/-- The requests of an assistant turn with distinct ids that are not blank. -/
def distinct (round : Nat) (requests : List ToolRequest) : List ToolRequest :=
  distinctFrom (requests.map (·.id)) round [] 0 requests

end Parley.RequestIds
