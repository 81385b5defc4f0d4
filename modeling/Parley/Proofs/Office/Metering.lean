/-
Module: Parley.Proofs.Office.Metering
Layer: Proofs
Purpose: The rate limits of an office.  What an office answers to the calls that run in it, in
  whatever order their questions come, is answered by each limit from its own window.
Main exports: Deed.served?, Deed.time, Deed.trace, Office.metered_run
-/
import Parley.Proofs.Intent.Metered
import Parley.Proofs.Office.Neighbours

namespace Parley

variable {η : Type} {H : Interface}

namespace Deed

/-- The question of a tool call that a deed answers at a time. -/
def served? (now : Int) : Deed η H → Option (Dated η H)
  | .answer ticket ⟨.call question, given⟩ => some ⟨ticket, now, question, given⟩
  | _ => none

/-- The time after a deed. -/
def time (now : Int) : Deed η H → Int
  | .clock later => later
  | _ => now

/-- The questions of tool calls that deeds answer, the first of them at a time. -/
def trace (now : Int) : List (Deed η H) → List (Dated η H)
  | [] => []
  | deed :: deeds => (deed.served? now).toList ++ trace (deed.time now) deeds

theorem trace_append_singleton (now : Int) (deeds : List (Deed η H)) (deed : Deed η H) :
    trace now (deeds ++ [deed]) =
      trace now deeds ++ (deed.served? (deeds.foldl time now)).toList := by
  induction deeds generalizing now with
  | nil => exact List.append_nil _
  | cons first deeds ih =>
      rw [List.cons_append, trace, ih, trace, List.append_assoc]
      rfl

end Deed

namespace Office

variable {before after : Office η H} {deed : Deed η H} {limit : RateLimit}

/-- The clock is moved by the deed for that only. -/
theorem now_move (move : Move MayAnswer before deed after) : after.now = deed.time before.now := by
  cases move with
  | answer found stage given => exact (effect_of_mayAnswer given).frame.now
  | callIn ticket =>
      rcases callIn_eq before ticket with same | ⟨task, -, -, looked | ⟨-, begun⟩⟩
      · rw [same]
        rfl
      · rw [looked]
        rfl
      · rw [begun]
        rfl
  | abandon ticket =>
      rw [Office.abandon]
      split
      · rfl
      · dsimp only
        split <;> rfl
  | _ => rfl

/-- One deed adds the question that it answers, if it is one of a tool call. -/
theorem metered_move {trace : List (Dated η H)} (move : Move MayAnswer before deed after)
    (metered : Metered limit trace (before.window limit)) :
    Metered limit (trace ++ (deed.served? before.now).toList) (after.window limit) := by
  have unasked : Metered limit (trace ++ []) (before.window limit) := by
    rwa [List.append_nil]
  cases move with
  | @answer after ticket task token question next given found stage answered =>
      rcases answered with may | exact
      · cases question with
        | load => obtain ⟨backend, -, rfl⟩ := may; exact unasked
        | save => obtain ⟨backend, -, rfl⟩ := may; exact unasked
        | loadNotes => obtain ⟨backend, -, rfl⟩ := may; exact unasked
        | _ => exact may.elim
      · cases question with
        | call question =>
            cases question with
            | grant other session =>
                cases exact
                change Metered limit (trace ++ [⟨ticket, before.now, .grant other session, _⟩])
                  ((before.grant other session).2.window limit)
                by_cases same : limit = other
                · subst same
                  rw [window_grant, if_pos rfl]
                  exact metered.grant ticket before.now session
                · rw [window_grant, if_neg same]
                  refine metered.other _ fun asker isGrant => ?_
                  cases isGrant
                  exact same rfl
            | _ =>
                cases exact
                exact metered.other _ fun _ isGrant => nomatch isGrant
        | _ => cases exact; exact unasked
  | callIn ticket =>
      rcases callIn_eq before ticket with same | ⟨task, -, -, looked | ⟨-, begun⟩⟩
      · rw [same]
        exact unasked
      · rw [looked]
        exact unasked
      · rw [begun]
        exact unasked
  | abandon ticket =>
      rw [Office.abandon]
      split
      · exact unasked
      · dsimp only
        split <;> exact unasked
  | _ => exact unasked

/-- The answers of an office to the calls that run in it are metered by each of its limits. -/
theorem metered_run {plan : Exchange.Plan η} {chain : Chain η H} {ttl : Option Duration}
    {backend : Backend} {began : Int} {deeds : List (Deed η H)} {office : Office η H}
    (run : Run MayAnswer (.new plan chain ttl backend began) deeds office) :
    Metered limit (Deed.trace began deeds) (office.window limit) := by
  suffices both : office.now = deeds.foldl Deed.time began ∧
      Metered limit (Deed.trace began deeds) (office.window limit) from both.2
  induction run with
  | nil => exact ⟨rfl, .nil⟩
  | @snoc deeds deed before after _ move ih =>
      obtain ⟨now, metered⟩ := ih
      rw [Deed.trace_append_singleton, List.foldl_append, ← now]
      exact ⟨now_move move, metered_move move metered⟩

end Office

end Parley
