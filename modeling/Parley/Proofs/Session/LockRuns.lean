/-
Module: Parley.Proofs.Session.LockRuns
Layer: Proofs
Purpose: Whole runs on the locks: any number of tasks, over any sessions, whose steps interleave in
  any order.  Every table that a run reaches is sound, so there is at most one permit for a session
  and everybody who comes, waits or holds refers to the turnstile that is tracked.  Over a run the
  queue only loses people, or gets new ones at its end; a turnstile that nobody refers to any more
  is what an abandoned wait left behind.
Main exports: LockTable.run, LockTable.after, LockTable.Sound.run, LockTable.AbandonedWait,
  LockTable.after_leftover, LockTable.Sound.find?_swept
-/
import Parley.Proofs.Session.Locks

namespace Parley.LockTable

open Dictionary (find?)

/-- The table after some steps. -/
def run (table : LockTable) (steps : List LockStep) : LockTable :=
  steps.foldl step table

/-- The table after some steps from the start. -/
def after (steps : List LockStep) : LockTable :=
  run .empty steps

@[simp] theorem run_append (table : LockTable) (steps more : List LockStep) :
    table.run (steps ++ more) = (table.run steps).run more := by
  simp [run]

@[simp] theorem after_append (steps more : List LockStep) :
    after (steps ++ more) = (after steps).run more :=
  run_append .empty steps more

@[simp] theorem run_cons (table : LockTable) (step : LockStep) (steps : List LockStep) :
    table.run (step :: steps) = (table.step step).run steps := rfl

@[simp] theorem run_nil (table : LockTable) : table.run [] = table := rfl

/-- Steps are taken one after another. -/
theorem steps_induction {motive : List LockStep → Prop} (nil : motive [])
    (snoc : ∀ before step, motive before → motive (before ++ [step])) (steps : List LockStep) :
    motive steps := by
  have reversed : ∀ steps : List LockStep, motive steps.reverse := by
    intro steps
    induction steps with
    | nil => exact nil
    | cons step steps ih => simpa using snoc steps.reverse step ih
  simpa using reversed steps.reverse

theorem Sound.run {table : LockTable} (sound : Sound table) (steps : List LockStep) :
    Sound (table.run steps) := by
  induction steps generalizing table with
  | nil => exact sound
  | cons step steps ih => exact ih (sound.step step)

/-- Whatever tasks do, the table stays sound. -/
theorem sound_after (steps : List LockStep) : Sound (after steps) :=
  Sound.empty.run steps

/-! ### Whole operations are runs -/

section Whole

variable (table : LockTable)

theorem acquire_eq_run (session : String) :
    (table.acquire session).2 =
      table.run [.arrive session, .ask (table.acquire session).1 true] := rfl

/-- One who is turned away departs at once. -/
theorem tryAcquire_eq_run (session : String) :
    ∃ departure, (departure = [] ∨ ∃ ticket, departure = [.letGo ticket, .tidy ticket]) ∧
      (table.tryAcquire session).2 =
        table.run ([.arrive session, .ask (table.arrive session).1 false] ++ departure) := by
  simp only [tryAcquire]
  split
  · exact ⟨[], .inl rfl, rfl⟩
  · exact ⟨_, .inr ⟨_, rfl⟩, rfl⟩

theorem poll_eq_run (ticket : Nat) : (table.poll ticket).2 = table.run [.look ticket] := rfl

theorem release_eq_run (ticket : Nat) :
    table.release ticket = table.run [.giveBack ticket, .letGo ticket, .tidy ticket] := rfl

theorem abandon_eq_run (ticket : Nat) :
    table.abandon ticket =
      table.run [.giveUp ticket, .giveBack ticket, .letGo ticket, .tidy ticket] := rfl

variable {table : LockTable}

theorem Sound.acquired (sound : Sound table) (session : String) :
    Sound (table.acquire session).2 := by
  rw [acquire_eq_run]
  exact sound.run _

theorem Sound.released (sound : Sound table) (ticket : Nat) : Sound (table.release ticket) := by
  rw [release_eq_run]
  exact sound.run _

theorem Sound.abandoned (sound : Sound table) (ticket : Nat) : Sound (table.abandon ticket) := by
  rw [abandon_eq_run]
  exact sound.run _

end Whole

/-! ### The queue over a run -/

/-- Over a run, those who stay in the queue keep their order and those who come stand behind them. -/
theorem Sound.queue_run {table : LockTable} (sound : Sound table) (steps : List LockStep)
    (session : String) :
    ∃ stay come, (table.run steps).queue session = stay ++ come ∧
      stay.Sublist (table.queue session) ∧ ∀ ticket ∈ come, .ask ticket true ∈ steps := by
  induction steps using steps_induction with
  | nil => exact ⟨table.queue session, [], by simp, List.Sublist.refl _, by simp⟩
  | snoc steps step ih =>
      obtain ⟨stay, come, line, ordered, asked⟩ := ih
      have askedStill : ∀ ticket ∈ come, .ask ticket true ∈ steps ++ [step] :=
        fun ticket member => List.mem_append_left _ (asked ticket member)
      have parts : ∀ rest : List Nat, rest.Sublist (stay ++ come) →
          ∃ stay come, rest = stay ++ come ∧ stay.Sublist (table.queue session) ∧
            ∀ ticket ∈ come, .ask ticket true ∈ steps ++ [step] := by
        intro rest fewer
        obtain ⟨fewerStay, fewerCome, same, stays, comes⟩ := List.sublist_append_iff.1 fewer
        exact ⟨fewerStay, fewerCome, same, stays.trans ordered,
          fun ticket member => askedStill ticket (comes.subset member)⟩
      rw [run_append, run_cons, run_nil]
      cases (sound.run steps).lineStep step session with
      | same _ queueSame => exact parts _ (line ▸ queueSame ▸ List.Sublist.refl _)
      | take _ _ _ queueSame => exact parts _ (line ▸ queueSame ▸ List.Sublist.refl _)
      | @join ticket asks _ _ queueNow =>
          refine ⟨stay, come ++ [ticket], ?_, ordered, ?_⟩
          · rw [queueNow, line, List.append_assoc]
          · intro other member
            rcases List.mem_append.1 member with early | late
            · exact askedStill other early
            · rw [List.mem_singleton.1 late, ← asks]
              simp
      | @leave ticket before after _ _ queueWas queueNow =>
          apply parts
          rw [queueNow, ← line, queueWas]
          exact List.Sublist.append (List.Sublist.refl before) (List.sublist_cons_self ticket after)
      | pass _ _ _ queueNow =>
          apply parts
          rw [queueNow, ← line]
          exact List.drop_sublist 1 _

/-- Whoever leaves the queue has the permit, or gave up. -/
theorem Sound.leaves_queue {table : LockTable} (sound : Sound table) {step : LockStep}
    {session : String} {ticket : Nat} (waited : ticket ∈ table.queue session)
    (gone : ticket ∉ (table.step step).queue session) :
    step = .giveUp ticket ∨ (table.step step).holders session = [ticket] := by
  cases sound.lineStep step session with
  | same _ queueSame => exact absurd (queueSame ▸ waited) gone
  | take _ _ _ queueSame => exact absurd (queueSame ▸ waited) gone
  | join _ _ _ queueNow => exact absurd (by simp [queueNow, waited]) gone
  | @leave leaver before after gaveUp _ queueWas queueNow =>
      rw [queueNow] at gone
      rw [queueWas] at waited
      have leaves : ticket = leaver := by
        rcases List.mem_append.1 waited with early | late
        · exact absurd (List.mem_append_left _ early) gone
        · rcases List.mem_cons.1 late with here | later
          · exact here
          · exact absurd (List.mem_append_right _ later) gone
      exact .inl (leaves ▸ gaveUp)
  | pass _ _ holdersNow queueNow =>
      rw [queueNow] at gone
      rw [holdersNow]
      cases line : table.queue session with
      | nil => simp [line] at waited
      | cons first rest =>
          rw [line] at waited gone
          rcases List.mem_cons.1 waited with here | later
          · exact .inr (by simp [here])
          · exact absurd (by simpa using later) gone

/-- When one who has the permit loses it, the one who has waited longest has it. -/
theorem Sound.passes_on {table : LockTable} (sound : Sound table) {step : LockStep}
    {session : String} {ticket : Nat} (had : ticket ∈ table.holders session)
    (lost : ticket ∉ (table.step step).holders session) :
    (table.step step).holders session = (table.queue session).take 1 ∧
      (table.step step).queue session = (table.queue session).drop 1 := by
  cases sound.lineStep step session with
  | same holdersSame _ => exact absurd (holdersSame ▸ had) lost
  | take _ nobody _ _ => simp [nobody] at had
  | join _ _ holdersSame _ => exact absurd (holdersSame ▸ had) lost
  | leave _ _ _ holdersSame _ _ => exact absurd (holdersSame ▸ had) lost
  | pass _ _ holdersNow queueNow => exact ⟨holdersNow, queueNow⟩

/-- While somebody has the permit, nobody gets it by asking. -/
theorem Sound.no_overtaking {table : LockTable} (sound : Sound table) {session : String}
    (taken : table.holders session ≠ []) (ticket : Nat) (waits : Bool) :
    (table.ask ticket waits).holders session = table.holders session ∧
      ((table.ask ticket waits).queue session = table.queue session ∨
        waits = true ∧
          (table.ask ticket waits).queue session = table.queue session ++ [ticket]) := by
  cases sound.lineStep_ask ticket waits session with
  | same holdersSame queueSame => exact ⟨holdersSame, .inl queueSame⟩
  | take _ nobody _ _ => exact absurd nobody taken
  | join asks _ holdersSame queueNow =>
      cases asks
      exact ⟨holdersSame, .inr ⟨rfl, queueNow⟩⟩
  | leave _ _ gaveUp _ _ _ => cases gaveUp
  | pass leaves _ _ _ => rcases leaves with gaveBack | gaveUp <;> contradiction

/-! ### What an abandoned wait leaves behind -/

/-- Among some steps, somebody who waited for a session, or had been assigned its permit without
having taken it, gave up. -/
def AbandonedWait (steps : List LockStep) (session : String) (ticket : Nat) : Prop :=
  ∃ before since, steps = before ++ .giveUp ticket :: since ∧
    ∃ claim ∈ (after before).claims, claim.ticket = ticket ∧ claim.session = session ∧
      (claim.stage = .waiting ∨ claim.stage = .granted)

theorem AbandonedWait.append {steps : List LockStep} {session : String} {ticket : Nat}
    (abandoned : AbandonedWait steps session ticket) (more : List LockStep) :
    AbandonedWait (steps ++ more) session ticket := by
  obtain ⟨before, since, split, wait⟩ := abandoned
  exact ⟨before, since ++ more, by simp [split], wait⟩

/-- Who leaves without tidying up has abandoned a wait. -/
theorem abandoned_of_leaving {steps : List LockStep} {claim : Claim}
    (member : claim ∈ (after steps).claims) (leaving : claim.stage = .leaving false) :
    AbandonedWait steps claim.session claim.ticket := by
  induction steps using steps_induction generalizing claim with
  | nil => simp [after, empty] at member
  | snoc steps step ih =>
      rw [after_append, run_cons, run_nil] at member
      rcases (sound_after steps).mem_step member with
        kept | ⟨old, stage, oldMember, advance, same⟩ | ⟨-, -, -, arriving⟩
      · exact (ih kept leaving).append [step]
      · subst same
        obtain ⟨gaveUp, stageWas⟩ := advance.gaveUp leaving
        exact ⟨steps, [], by rw [gaveUp], old, oldMember, rfl, rfl, stageWas⟩
      · rw [leaving] at arriving
        contradiction

/-- A session that is tracked though nobody is there was left behind by an abandoned wait, and nobody
has come since. -/
theorem after_leftover {steps : List LockStep} {session : String}
    (tracked : find? (after steps).tracked session ≠ none)
    (nobody : ∀ claim ∈ (after steps).claims, claim.session ≠ session) :
    ∃ before ticket since, steps = before ++ .letGo ticket :: since ∧
      AbandonedWait before session ticket ∧
      ∀ early, early <+: since →
        ∀ claim ∈ (after (before ++ .letGo ticket :: early)).claims, claim.session ≠ session := by
  induction steps using steps_induction with
  | nil => exact absurd rfl tracked
  | snoc steps step ih =>
      have sound := sound_after steps
      have stepEq : after (steps ++ [step]) = (after steps).step step := by simp
      rw [stepEq] at tracked nobody
      by_cases somebody : ∃ claim ∈ (after steps).claims, claim.session = session
      · obtain ⟨claim, member, same⟩ := somebody
        subst same
        obtain ⟨letGo, leaving⟩ := sound.last_departure member nobody tracked
        subst letGo
        refine ⟨steps, claim.ticket, [], rfl, abandoned_of_leaving member leaving, ?_⟩
        intro part isPart
        rw [List.prefix_nil.1 isPart, stepEq]
        exact nobody
      · have before : ∀ claim ∈ (after steps).claims, claim.session ≠ session :=
          fun claim member same => somebody ⟨claim, member, same⟩
        have trackedBefore : find? (after steps).tracked session ≠ none := by
          obtain ⟨turnstile, found⟩ := Option.ne_none_iff_exists'.1 tracked
          rcases sound.tracked_step found with old | ⟨came, -, -⟩
          · simp [old]
          · -- Whoever comes is there.
            subst came
            have there := nobody _ (List.mem_append_right _ (List.mem_singleton_self _))
            exact absurd rfl there
        obtain ⟨early, ticket, since, split, abandoned, none⟩ := ih trackedBefore before
        refine ⟨early, ticket, since ++ [step], by simp [split], abandoned, ?_⟩
        intro part isPart
        rcases List.prefix_concat_iff.1 isPart with whole | within
        · have wholeEq : early ++ .letGo ticket :: part = steps ++ [step] := by simp [whole, split]
          rw [wholeEq, stepEq]
          exact nobody
        · exact none part within

/-! ### Idle sessions -/

section Idle

variable {table : LockTable} {claim : Claim}

/-- Whoever is at a session that nobody has or waits for is coming or leaving. -/
theorem stage_of_idle (member : claim ∈ table.claims) (unheld : table.holders claim.session = [])
    (unqueued : table.queue claim.session = []) :
    claim.stage ∈ [.arriving, .leaving true, .leaving false, .tidying] := by
  have notHolding : ¬claim.hasPermit := by
    intro has
    have listed : claim.ticket ∈ table.holders claim.session :=
      mem_holdingIn.2 ⟨claim, member, rfl, has, rfl⟩
    simp [unheld] at listed
  have notWaiting : claim.stage ≠ .waiting := by
    intro waits
    have listed : claim.ticket ∈ table.queue claim.session :=
      mem_waitingIn.2 ⟨claim, member, rfl, waits, rfl⟩
    simp [unqueued] at listed
  cases stage : claim.stage with
  | arriving => simp
  | waiting => exact absurd stage notWaiting
  | granted => exact absurd (Claim.hasPermit_iff.2 (.inl stage)) notHolding
  | held => exact absurd (Claim.hasPermit_iff.2 (.inr stage)) notHolding
  | leaving tidies => cases tidies <;> simp
  | tidying => simp

/-- Among some of the claims, the turnstile of a session is referred to by those for the session. -/
theorem Sound.filter_isUsed (sound : Sound table) {left : List Claim}
    (some : ∀ claim ∈ left, claim ∈ table.claims) (session : String) :
    (find? table.tracked session).filter { table with claims := left }.isUsed =
      if ∃ claim ∈ left, claim.session = session ∧ claim.refers then find? table.tracked session
      else none := by
  split
  · next somebody =>
      obtain ⟨claim, member, same, refers⟩ := somebody
      have current := sound.current claim (some claim member) refers
      rw [same] at current
      rw [current]
      exact Option.filter_some_pos (isUsed_iff.2 ⟨claim, member, rfl, refers⟩)
  · next nobody =>
      apply Option.filter_eq_none_iff.2
      intro turnstile isTracked used
      obtain ⟨claim, member, sameTurnstile, refers⟩ := isUsed_iff.1 used
      have current := sound.current claim (some claim member) refers
      rw [sameTurnstile] at current
      exact nobody ⟨claim, member, sound.separate _ _ _ current isTracked, refers⟩

/-- A sweep leaves the turnstiles that somebody refers to. -/
theorem Sound.find?_swept (sound : Sound table) (session : String) :
    find? (table.step .prune).tracked session =
      if ∃ claim ∈ table.claims, claim.session = session ∧ claim.refers then
        find? table.tracked session
      else none := by
  rw [LockTable.step, find?_prune sound.sorted]
  exact sound.filter_isUsed (fun _ member => member) session

end Idle

end Parley.LockTable
