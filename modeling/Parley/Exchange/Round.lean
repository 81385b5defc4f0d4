/-
Module: Parley.Exchange.Round
Layer: Exchange
Purpose: One tool round: the requests of an assistant turn are resolved in order.  A request that
  repeats an earlier success is answered from the cache; a failure that the model may correct is
  told to it; any other failure ends the exchange.  A desk may also be told to run every request
  anew.
Main exports: Desk, Progress, Exchange.resolve, Exchange.resolveAll
-/
import Parley.Exchange.Interface
import Parley.Exchange.ResultCache

namespace Parley

variable {η : Type}

/-- What stays the same during an exchange. -/
structure Desk (η : Type) where
  session : String
  message : String
  tools : Toolset η
  /-- Whether results are reused. -/
  reuses : Bool

/-- What the tool rounds of an exchange leave behind. -/
structure Progress where
  cache : ResultCache
  /-- The results of successful calls, in order. -/
  results : List Json
  /-- The number of requests answered by an error. -/
  invalid : Nat
  /-- The number of requests answered by a result, new or from the cache. -/
  succeeded : Nat

/-- No round yet. -/
def Progress.start : Progress :=
  { cache := [], results := [], invalid := 0, succeeded := 0 }

namespace Exchange

/-- The key under which the result of a request is stored. -/
def cacheKey (desk : Desk η) (request : ToolRequest) : CacheKey :=
  CacheKey.ofRequest request ((desk.tools.fingerprint? request.tool).getD "")

/-- The call for a request. -/
def callFor (desk : Desk η) (progress : Progress) (request : ToolRequest) : Call :=
  { session := desk.session
    message := desk.message
    tool := request.tool
    arguments := request.arguments
    earlier := progress.results }

/-- Run the call of a request. -/
def resolveNew (desk : Desk η) (progress : Progress) (request : ToolRequest) :
    ExchangeProgram wholeCalls (Turn × Progress) := do
  match ← runCall (callFor desk progress request) with
  | .ok result =>
      let content := result.render
      pure (Turn.response request content,
        { progress with
          cache := progress.cache.insert (cacheKey desk request) content
          results := progress.results ++ [result]
          succeeded := progress.succeeded + 1 })
  | .error error =>
      if error.isRecoverable then
        let content := (error.payload request.tool desk.tools.names).render
        pure (Turn.response request content, { progress with invalid := progress.invalid + 1 })
      else throw error.toFault

/-- The stored result that answers a request, if there is one and results are reused. -/
def stored? (desk : Desk η) (progress : Progress) (request : ToolRequest) : Option String :=
  if desk.reuses then progress.cache.find? (cacheKey desk request) else none

/-- Resolve one request. -/
def resolve (desk : Desk η) (progress : Progress) (request : ToolRequest) :
    ExchangeProgram wholeCalls (Turn × Progress) := do
  checkCancelled
  match stored? desk progress request with
  | some content =>
      report (.toolCacheHit desk.session request.tool request.id)
      pure (Turn.response request content, { progress with succeeded := progress.succeeded + 1 })
  | none => resolveNew desk progress request

/-- Resolve the requests of a round in order. -/
def resolveAll (desk : Desk η) (progress : Progress) :
    List ToolRequest → ExchangeProgram wholeCalls (Transcript × Progress)
  | [] => pure ([], progress)
  | request :: requests => do
      let (turn, after) ← resolve desk progress request
      let (turns, ended) ← resolveAll desk after requests
      pure (turn :: turns, ended)

end Exchange

end Parley
