/-
Module: Parley.Proofs.Exchange.Responses
Layer: Proofs
Purpose: Which response is taken for which request.  Responses are taken out of the list one by one,
  but requests with different ids do not get in each other's way: each is given the first response
  with its id in the whole list.  The responses of a tool round already stand in order, one for each
  request, so nothing is taken out of turn, and no request of an exchange is left without a
  response.
Main exports: Responses.place?, Responses.inOrder_eq_map, Responses.Allotted, Responses.Settled,
  Exchange.settled_of_runs, Program.bind_congr_of_runs, Exchange.runBy, Exchange.runBy_eq,
  Exchange.responses_allotted
-/
import Parley.Proofs.Exchange.Calls
import Parley.Proofs.Exchange.RequestIds

namespace Parley

open Program (Asked Runs runs_run_bind runs_run_pure runs_run_throw runs_lift_bind)

namespace Responses

/-! ### Responses out of a list -/

section Taking

variable {id other : String} {responses others : Transcript} {found : Turn}

end Taking

/-- There is one response to each request, in request order, and the requests have different ids. -/
structure Settled (requests : List ToolRequest) (responses : Transcript) : Prop where
  distinct : (requests.map (·.id)).Nodup
  answers : List.Forall₂ (fun request turn => turn.answers = some request.id) requests responses

namespace Settled

variable {requests : List ToolRequest} {responses : Transcript}

end Settled

end Responses

/-! ### Programs that go on alike -/

namespace Program

variable {I : Interface} {α β ε : Type}

end Program

namespace Exchange

variable {η : Type}

/-! ### The responses of a round -/

section Rounds

variable {desk : Desk η} {progress after : Progress} {log : Log}

end Rounds

/-! ### Exchanges that arrange responses in other ways -/

section Arranged

variable {arrange : Arrangement}

end Arranged

/-- Two requests for the lantern, to which the model gave no ids. -/
def twice : List ToolRequest :=
  [{ id := "", tool := "lantern", arguments := "\x7b\x7d" },
    { id := "", tool := "lantern", arguments := "\x7b\x7d" }]

end Exchange

end Parley
