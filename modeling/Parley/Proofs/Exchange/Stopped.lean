/-
Module: Parley.Proofs.Exchange.Stopped
Layer: Proofs
Purpose: An exchange that is told to stop.  From any of its questions on, let it be told that it is
  cancelled whenever it asks.  After the answer to this question it asks nobody outside any more, and
  it is cancelled, unless the store fails or the step that it had begun last ends it by itself.
Main exports: Exchange.StopsWith, Exchange.Stopped, Exchange.stopped_of_after,
  Exchange.obedient_of_after
-/
import Parley.Proofs.Exchange.Cautious
import Parley.Proofs.Exchange.Concluded

namespace Parley.Exchange

open Program (After Asked Runs remembering runs_iff_after)

variable {η : Type}

/-- How an exchange may end that is told to stop after `early`, if all that it asks is `log`: it is
cancelled, the store fails, or a step that had been begun then ends it by itself. -/
inductive StopsWith (plan : Plan η) (early : Log) : Log → Except Fault Reply → Prop where
  | cancelled {log : Log} : StopsWith plan early log (.error .cancelled)
  | unstored (before : Log) {asked : Asked (exchangeInterface wholeCalls)} {fault : Fault} :
      storeFault? asked = some fault → StopsWith plan early (before ++ [asked]) (.error fault)
  | alone {before : Log} {step : Asked (exchangeInterface wholeCalls)} {rest : Log}
      {result : Except Fault Reply} :
      before <+: early → EndsAlone plan before step rest result →
      StopsWith plan early (before ++ step :: rest) result

/-- An exchange is told to stop after `early`.  It goes on with `late`, of which the first is the step
in flight, and then `left` is left of it. -/
structure Stopped (plan : Plan η) (early late : Log)
    (left : Program (exchangeInterface wholeCalls) (Except Fault Reply)) : Prop where
  /-- After the step in flight nobody outside was asked. -/
  asked : ∀ asked ∈ late.tail, asked.question.asksOutside = false
  /-- Nor is anybody outside being asked now. -/
  asks : late ≠ [] → ∀ question next, left = .ask question next → question.asksOutside = false
  /-- If it has ended, it has ended like this. -/
  ends : ∀ result, left = .done result → StopsWith plan early (early ++ late) result

section Stopped

variable {plan : Plan η} {early late log : Log} {reuses : Bool} {input : Input}
  {left : Program (exchangeInterface wholeCalls) (Except Fault Reply)} {result : Except Fault Reply}

/-- A step that ends an exchange by itself is one of those outside. -/
theorem EndsAlone.asksOutside {before rest : Log} {step : Asked (exchangeInterface wholeCalls)}
    (alone : EndsAlone plan before step rest result) : step.question.asksOutside = true := by
  cases alone <;> rfl

/-- The step that decides was begun before the exchange was told to stop. -/
theorem Concluded.stopsWith (concluded : Concluded plan log result) (isLog : log = early ++ late)
    (quiet : ∀ asked ∈ late.tail, asked.question.asksOutside = false) :
    StopsWith plan early log result := by
  cases concluded with
  | cancelled before => exact .cancelled
  | unstored before fails => exact .unstored before fails
  | @alone before step rest _ alone =>
      rcases List.append_eq_append_iff.1 isLog with ⟨more, isEarly, -⟩ | ⟨more, isBefore, isLate⟩
      · exact .alone ⟨more, isEarly.symm⟩ alone
      · cases more with
        | nil =>
            rw [List.append_nil] at isBefore
            exact .alone (isBefore ▸ List.prefix_refl _) alone
        | cons first more =>
            have isQuiet := quiet step (by simp [isLate])
            rw [alone.asksOutside] at isQuiet
            contradiction

/-- Whoever has not been told to go on is restrained. -/
theorem restrained_append (some : late ≠ [])
    (restrains : ∀ asked ∈ late, Restrains asked.question asked.answer) :
    Restrained (early ++ late) := by
  obtain ⟨before, last, rfl⟩ := List.eq_nil_or_concat late |>.resolve_left some
  rw [List.concat_eq_append] at restrains ⊢
  rw [← List.append_assoc]
  exact restrained_concat _ (restrains last (List.mem_append_right _ (List.mem_singleton_self _)))

/-- From any moment on, an exchange that is told to stop whenever it asks is stopped. -/
theorem stopped_of_after (after : After (runWith reuses plan input).run (early ++ late) left)
    (restrains : ∀ asked ∈ late, Restrains asked.question asked.answer) :
    Stopped plan early late left := by
  obtain ⟨may, keeps⟩ := (beginsWell_runWith reuses plan input).after after
  rw [List.nil_append] at keeps
  have quiet : ∀ asked ∈ late.tail, asked.question.asksOutside = false := by
    intro asked member
    cases late with
    | nil => exact absurd member List.not_mem_nil
    | cons first rest =>
        obtain ⟨middle, last, rfl⟩ := List.append_of_mem member
        have mayBegin := may (early ++ first :: middle) asked last (by simp)
        rw [List.nil_append] at mayBegin
        refine (restrained_append (List.cons_ne_nil _ _) ?_).asksOutside_eq mayBegin
        intro other isEarlier
        apply restrains other
        rcases List.mem_cons.1 isEarlier with here | there
        · rw [here]
          exact List.mem_cons_self
        · exact List.mem_cons_of_mem _ (List.mem_append_left _ there)
  constructor
  · exact quiet
  · rintro some question next rfl
    exact (restrained_append some restrains).asksOutside_eq keeps.1
  · rintro result rfl
    exact (concluded_runWith (runs_iff_after.2 after)).stopsWith rfl quiet

/-- What is left of it asks nobody outside. -/
theorem obedient_of_after (after : After (runWith reuses plan input).run (early ++ late) left)
    (some : late ≠ []) (restrains : ∀ asked ∈ late, Restrains asked.question asked.answer) :
    left.Keeps obedient (fun _ _ => True) (early ++ late) := by
  have keeps := ((beginsWell_runWith reuses plan input).after after).2
  rw [List.nil_append] at keeps
  exact ((restrained_append some restrains).obedient keeps).mono fun _ _ _ => trivial

end Stopped

end Parley.Exchange
