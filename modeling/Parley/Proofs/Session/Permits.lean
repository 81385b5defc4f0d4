/-
Module: Parley.Proofs.Session.Permits
Layer: Proofs
Purpose: What whole operations on the locks do to those who hold a permit or wait for one.  Whoever
  takes a permit gets it at once if it is free and else waits; looking changes nobody's permit;
  who gives a permit back is gone, and it passes to the first in the queue.  Whatever the operation
  is, the claims of all others stay, except that one who waits may be assigned the permit.  The same
  step by step: what asking, giving back, giving up and going make of the line of a session.
Main exports: LockTable.Others, LockTable.Sound.acquire_claims, LockTable.Sound.holders_acquire,
  LockTable.Sound.queue_acquire, LockTable.Sound.poll_held, LockTable.Sound.line_poll,
  LockTable.Sound.line_ask, LockTable.Sound.line_giveBack, LockTable.Sound.line_giveUp,
  LockTable.Sound.line_release
-/
import Parley.Proofs.Session.LockRuns

namespace Parley

/-- Whether a step leaves every permit where it is. -/
def LockStep.isQuiet : LockStep → Bool
  | .ask _ _ => false
  | .giveBack _ => false
  | .giveUp _ => false
  | _ => true

namespace LockTable

open Dictionary (find?)

section Single

variable {table : LockTable} {claim other : Claim}

/-- A claim is found under its ticket. -/
theorem Sound.claim?_eq (sound : Sound table) (member : claim ∈ table.claims) :
    table.claim? claim.ticket = some claim := by
  obtain ⟨before, after, split⟩ := List.append_of_mem member
  have distinct := sound.distinct
  rw [Distinct, split, List.pairwise_append] at distinct
  apply List.find?_eq_some_iff_append.2
  refine ⟨by simp, before, after, split, ?_⟩
  intro other early
  have different := distinct.2.2 other early claim List.mem_cons_self
  simpa using different

/-- No two claims have one ticket. -/
theorem Sound.eq_of_ticket (sound : Sound table) (member : claim ∈ table.claims)
    (otherMember : other ∈ table.claims) (same : other.ticket = claim.ticket) : other = claim := by
  have found := sound.claim?_eq otherMember
  rw [same, sound.claim?_eq member] at found
  exact (Option.some.inj found).symm

end Single

theorem nextTicket_le_run (table : LockTable) (steps : List LockStep) :
    table.nextTicket ≤ (table.run steps).nextTicket := by
  induction steps generalizing table with
  | nil => exact Nat.le_refl _
  | cons step steps ih => exact Nat.le_trans (counters_step table step).1 (ih (table.step step))

/-! ### Steps that change no line -/

theorem LineStep.same_of_quiet {step : LockStep}
    {holders queue holdersAfter queueAfter : List Nat}
    (line : LineStep step holders queue holdersAfter queueAfter) (quiet : step.isQuiet = true) :
    holdersAfter = holders ∧ queueAfter = queue := by
  cases line with
  | same holdersSame queueSame => exact ⟨holdersSame, queueSame⟩
  | take asks => rw [asks] at quiet; contradiction
  | join asks => rw [asks] at quiet; contradiction
  | leave _ _ gaveUp => rw [gaveUp] at quiet; contradiction
  | pass leaves =>
      rcases leaves with gaveBack | gaveUp
      · rw [gaveBack] at quiet; contradiction
      · rw [gaveUp] at quiet; contradiction

/-! ### The claims of others -/

/-- Every claim but that of a ticket stays, except that one who waits may be assigned the permit. -/
def Others (ticket : Nat) (before after : LockTable) : Prop :=
  ∀ claim ∈ before.claims, claim.ticket ≠ ticket →
    ∃ new ∈ after.claims, new.ticket = claim.ticket ∧ new.session = claim.session ∧
      (new.stage = claim.stage ∨ claim.stage = .waiting ∧ new.stage = .granted)

/-- A step by the one with a ticket, who is there already. -/
inductive StepOf (ticket : Nat) : LockStep → Prop where
  | ask (waits : Bool) : StepOf ticket (.ask ticket waits)
  | look : StepOf ticket (.look ticket)
  | giveBack : StepOf ticket (.giveBack ticket)
  | giveUp : StepOf ticket (.giveUp ticket)
  | letGo : StepOf ticket (.letGo ticket)
  | tidy : StepOf ticket (.tidy ticket)

section Others

variable {table middle : LockTable} {ticket : Nat}

theorem Others.refl (ticket : Nat) (table : LockTable) : Others ticket table table :=
  fun claim member _ => ⟨claim, member, rfl, rfl, .inl rfl⟩

theorem Others.trans {after : LockTable} (first : Others ticket table middle)
    (second : Others ticket middle after) : Others ticket table after := by
  intro claim member different
  obtain ⟨new, newMember, sameTicket, sameSession, stage⟩ := first claim member different
  obtain ⟨final, finalMember, finalTicket, finalSession, finalStage⟩ :=
    second new newMember (sameTicket ▸ different)
  refine ⟨final, finalMember, finalTicket.trans sameTicket, finalSession.trans sameSession, ?_⟩
  rcases stage with same | ⟨waited, granted⟩
  · rw [← same]
    exact finalStage
  · rcases finalStage with same | ⟨waits, -⟩
    · exact .inr ⟨waited, same.trans granted⟩
    · rw [granted] at waits
      contradiction

/-- How the claim of another moves on: it is assigned the permit. -/
theorem StepOf.advance {step : LockStep} (stepOf : StepOf ticket step) {other : Nat}
    {stage next : ClaimStage} (different : other ≠ ticket)
    (advance : Advance step other stage next) : stage = .waiting ∧ next = .granted := by
  cases advance with
  | assign => exact ⟨rfl, rfl⟩
  | ask => cases stepOf; contradiction
  | look => cases stepOf; contradiction
  | giveBack => cases stepOf; contradiction
  | quit => cases stepOf; contradiction
  | passOn => cases stepOf; contradiction
  | letGo => cases stepOf; contradiction

theorem Sound.others_step (sound : Sound table) {step : LockStep} (stepOf : StepOf ticket step) :
    Others ticket table (table.step step) := by
  intro claim member different
  rcases sound.survives step member with ⟨new, newMember, sameTicket, sameSession⟩ | ⟨goes, -⟩ | goes
  · refine ⟨new, newMember, sameTicket, sameSession, ?_⟩
    rcases sound.mem_step newMember with kept | ⟨old, stage, oldMember, advance, same⟩ | ⟨came, -⟩
    · rw [sound.eq_of_ticket member kept sameTicket]
      exact .inl rfl
    · subst same
      have isOld : old = claim := sound.eq_of_ticket member oldMember sameTicket
      subst isOld
      exact .inr (stepOf.advance different advance)
    · rw [came] at stepOf
      cases stepOf
  · rw [goes] at stepOf
    cases stepOf
    contradiction
  · rw [goes.1] at stepOf
    cases stepOf
    contradiction

theorem Sound.others_run (sound : Sound table) {steps : List LockStep}
    (stepsOf : ∀ step ∈ steps, StepOf ticket step) : Others ticket table (table.run steps) := by
  induction steps generalizing table with
  | nil => exact .refl ticket table
  | cons step steps ih =>
      have first := sound.others_step (stepsOf step List.mem_cons_self)
      exact first.trans (ih (sound.step step) fun step member =>
        stepsOf step (List.mem_cons_of_mem _ member))

theorem Sound.others_poll (sound : Sound table) (ticket : Nat) :
    Others ticket table (table.poll ticket).2 :=
  sound.others_step .look

theorem Sound.others_release (sound : Sound table) (ticket : Nat) :
    Others ticket table (table.release ticket) := by
  rw [release_eq_run]
  apply sound.others_run
  simp only [List.mem_cons, List.not_mem_nil, or_false]
  rintro step (rfl | rfl | rfl)
  · exact .giveBack
  · exact .letGo
  · exact .tidy

theorem Sound.others_abandon (sound : Sound table) (ticket : Nat) :
    Others ticket table (table.abandon ticket) := by
  rw [abandon_eq_run]
  apply sound.others_run
  simp only [List.mem_cons, List.not_mem_nil, or_false]
  rintro step (rfl | rfl | rfl | rfl)
  · exact .giveUp
  · exact .giveBack
  · exact .letGo
  · exact .tidy

end Others

/-! ### Taking a permit -/

section Acquire

variable {table : LockTable}

theorem holders_arrive (table : LockTable) (newcomer session : String) :
    (table.arrive newcomer).2.holders session = table.holders session :=
  ((lineStep_arrive newcomer session).same_of_quiet rfl).1

/-- Whoever takes the permit of a session holds it if it was free, and waits if not. -/
theorem Sound.acquire_claims (sound : Sound table) (session : String) :
    ∃ turnstile, (table.acquire session).2.claims = table.claims ++
      [{ ticket := table.nextTicket, session := session, turnstile := turnstile
         stage := stageAsked (table.holders session).isEmpty true }] := by
  let newcomer : Claim :=
    { ticket := table.nextTicket, session := session
      turnstile := (table.enter session).1, stage := .arriving }
  have claimsEq : (table.arrive session).2.claims = table.claims ++ [newcomer] := by
    simp only [arrive, claims_enter, nextTicket_enter, newcomer]
  have ticketEq : (table.arrive session).1 = table.nextTicket := by
    simp only [arrive, nextTicket_enter]
  have soundArrived : Sound (table.arrive session).2 := sound.step (.arrive session)
  have member : newcomer ∈ (table.arrive session).2.claims := by simp [claimsEq]
  have found : (table.arrive session).2.claim? table.nextTicket = some newcomer :=
    soundArrived.claim?_eq member
  have refers : newcomer.refers := by simp [newcomer, Claim.refers]
  have free : (table.arrive session).2.isFree newcomer.turnstile =
      (table.holders session).isEmpty := by
    rw [Bool.eq_iff_iff, soundArrived.isFree_iff member refers, List.isEmpty_iff,
      holders_arrive]
  have othersEq : (table.arrive session).2.others table.nextTicket = table.claims := by
    rw [others, claimsEq, List.filter_append]
    have all : table.claims.filter (fun claim => claim.ticket ≠ table.nextTicket) =
        table.claims := by
      apply List.filter_eq_self.2
      intro claim claimMember
      simpa using Nat.ne_of_lt (sound.issued claim claimMember)
    rw [all]
    simp [newcomer]
  refine ⟨newcomer.turnstile, ?_⟩
  have asked : (table.acquire session).2 = (table.arrive session).2.ask table.nextTicket true := by
    simp only [acquire, ticketEq]
  rw [asked, ask, found]
  simp only [newcomer, ↓reduceIte] at othersEq free ⊢
  rw [othersEq, free]

theorem acquire_ticket (table : LockTable) (session : String) :
    (table.acquire session).1 = table.nextTicket := by
  simp only [acquire, arrive, nextTicket_enter]

theorem acquire_nextTicket (table : LockTable) (session : String) :
    (table.acquire session).2.nextTicket = table.nextTicket + 1 := by
  simp only [acquire]
  rw [ask_eq]
  simp only [arrive, nextTicket_enter]

/-- Nobody's permit is touched; a free permit goes to the newcomer. -/
theorem Sound.holders_acquire (sound : Sound table) (newcomer session : String) :
    (table.acquire newcomer).2.holders session =
      if newcomer = session ∧ table.holders session = [] then [table.nextTicket]
      else table.holders session := by
  obtain ⟨turnstile, claimsEq⟩ := sound.acquire_claims newcomer
  rw [holders, claimsEq, holdingIn_append]
  by_cases same : newcomer = session
  · subst same
    by_cases free : table.holders newcomer = []
    · rw [if_pos ⟨rfl, free⟩, free]
      rw [holders] at free
      simp [free, stageAsked, Claim.hasPermit]
    · rw [if_neg fun both => free both.2]
      have taken : (table.holders newcomer).isEmpty = false := by
        simpa using free
      rw [taken]
      simp [holders, stageAsked, Claim.hasPermit]
  · rw [if_neg fun both => same both.1]
    simp [holders, same]

/-- Whoever finds the permit taken stands at the end of the queue. -/
theorem Sound.queue_acquire (sound : Sound table) (newcomer session : String) :
    (table.acquire newcomer).2.queue session =
      if newcomer = session ∧ table.holders session ≠ [] then
        table.queue session ++ [table.nextTicket]
      else table.queue session := by
  obtain ⟨turnstile, claimsEq⟩ := sound.acquire_claims newcomer
  rw [queue, claimsEq, waitingIn_append]
  by_cases same : newcomer = session
  · subst same
    by_cases free : table.holders newcomer = []
    · rw [if_neg fun both => both.2 free, free]
      simp [queue, stageAsked]
    · rw [if_pos ⟨rfl, free⟩]
      have taken : (table.holders newcomer).isEmpty = false := by
        simpa using free
      rw [taken]
      simp [queue, stageAsked]
  · rw [if_neg fun both => same both.1]
    simp [queue, same]

/-- Nobody stands in a queue twice. -/
theorem Sound.nodup_queue (sound : Sound table) (session : String) :
    (table.queue session).Nodup :=
  List.pairwise_map.2 (sound.distinct.filter _)

end Acquire

/-! ### Looking at a claim -/

section Poll

variable {table : LockTable}

theorem Sound.line_poll (sound : Sound table) (ticket : Nat) (session : String) :
    (table.poll ticket).2.holders session = table.holders session ∧
      (table.poll ticket).2.queue session = table.queue session :=
  (sound.lineStep_look ticket session).same_of_quiet rfl

/-- Whoever finds the permit assigned holds it then; whoever does not, waits on. -/
theorem Sound.poll_held (sound : Sound table) {claim : Claim} (member : claim ∈ table.claims) :
    ((table.poll claim.ticket).1 = true ↔ claim.hasPermit) ∧
      ∃ new ∈ (table.poll claim.ticket).2.claims, new.ticket = claim.ticket ∧
        new.session = claim.session ∧
        new.stage = if claim.stage = .granted then .held else claim.stage := by
  have found := sound.claim?_eq member
  constructor
  · simp [poll, holds, found]
  · by_cases granted : claim.stage = .granted
    · obtain ⟨before, after, -, -, -, -, staged⟩ := claim?_split sound.distinct found
      refine ⟨{ claim with stage := .held }, ?_, rfl, rfl, by rw [if_pos granted]⟩
      simp [poll, look, found, granted, staged]
    · refine ⟨claim, ?_, rfl, rfl, by rw [if_neg granted]⟩
      simpa [poll, look, found, granted] using member

end Poll

/-! ### Coming and asking -/

section Ask

variable {table : LockTable} {claim : Claim}

/-- Who comes to a session is there, under a ticket that nobody else has. -/
theorem Sound.mem_arrived (sound : Sound table) (session : String) :
    ∃ claim ∈ (table.arrive session).2.claims, claim.ticket = table.nextTicket ∧
      claim.session = session ∧ claim.stage = .arriving ∧
      ∀ other ∈ table.claims, other.ticket ≠ claim.ticket := by
  simp only [arrive, claims_enter, nextTicket_enter]
  refine ⟨_, List.mem_append_right _ (List.mem_singleton_self _), rfl, rfl, rfl, ?_⟩
  exact fun other member => Nat.ne_of_lt (sound.issued other member)

/-- Who asks has the permit if it is free; else they come to the end of the queue, or are turned
away. -/
theorem Sound.line_ask (sound : Sound table) (member : claim ∈ table.claims)
    (arriving : claim.stage = .arriving) (waits : Bool) :
    if table.holders claim.session = [] then
      (table.ask claim.ticket waits).holders claim.session = [claim.ticket] ∧
        (table.ask claim.ticket waits).queue claim.session = []
    else
      (table.ask claim.ticket waits).holders claim.session = table.holders claim.session ∧
        (table.ask claim.ticket waits).queue claim.session =
          table.queue claim.session ++ if waits then [claim.ticket] else [] := by
  have found := sound.claim?_eq member
  obtain ⟨before, after, split, -, -, othersEq, -⟩ := claim?_split sound.distinct found
  have freeIff := sound.isFree_iff member (by simp [Claim.refers, arriving])
  let asked : Claim := { claim with stage := stageAsked (table.isFree claim.turnstile) waits }
  have claimsEq : (table.ask claim.ticket waits).claims = before ++ after ++ [asked] := by
    simp [ask, found, arriving, othersEq, asked]
  have holdersEq : (table.ask claim.ticket waits).holders claim.session =
      table.holders claim.session ++ holdingIn claim.session [asked] := by
    simp [holders, claimsEq, split, arriving, Claim.hasPermit]
  have queueEq : (table.ask claim.ticket waits).queue claim.session =
      table.queue claim.session ++ waitingIn claim.session [asked] := by
    simp [queue, claimsEq, split, arriving]
  rw [holdersEq, queueEq]
  by_cases free : table.holders claim.session = []
  · have nobody : table.queue claim.session = [] :=
      Decidable.byContradiction fun somebody => sound.busy claim.session somebody free
    simp [asked, free, freeIff.2 free, nobody, stageAsked, Claim.hasPermit]
  · have taken : table.isFree claim.turnstile = false := by
      rw [Bool.eq_false_iff]
      exact fun isFree => free (freeIff.1 isFree)
    cases waits <;> simp [asked, free, taken, stageAsked, Claim.hasPermit]

end Ask

/-! ### Giving a permit back -/

section Release

variable {table : LockTable} {claim : Claim}

/-- A permit that is given back passes to the first in the queue. -/
theorem Sound.line_giveBack (sound : Sound table) (member : claim ∈ table.claims)
    (held : claim.stage = .held) :
    table.holders claim.session = [claim.ticket] ∧
      (table.giveBack claim.ticket).holders claim.session = (table.queue claim.session).take 1 ∧
      (table.giveBack claim.ticket).queue claim.session = (table.queue claim.session).drop 1 := by
  have found := sound.claim?_eq member
  obtain ⟨before, after, split, -, -, -, staged⟩ := claim?_split sound.distinct found
  rw [giveBack, found]
  simp only [held, ↓reduceIte, staged]
  exact sound.line_pass split (Claim.hasPermit_iff.2 (.inr held)) true

/-- So does one that was assigned, if the one who waited for it gives up. -/
theorem Sound.line_giveUp (sound : Sound table) (member : claim ∈ table.claims)
    (granted : claim.stage = .granted) :
    table.holders claim.session = [claim.ticket] ∧
      (table.giveUp claim.ticket).holders claim.session = (table.queue claim.session).take 1 ∧
      (table.giveUp claim.ticket).queue claim.session = (table.queue claim.session).drop 1 := by
  have found := sound.claim?_eq member
  obtain ⟨before, after, split, -, -, -, staged⟩ := claim?_split sound.distinct found
  rw [giveUp, found]
  simp only [granted, reduceCtorEq, ↓reduceIte, staged]
  exact sound.line_pass split (Claim.hasPermit_iff.2 (.inl granted)) false

/-- Who gives up before a permit was assigned leaves the queue. -/
theorem Sound.line_quit (sound : Sound table) (member : claim ∈ table.claims)
    (waiting : claim.stage = .waiting) :
    (table.giveUp claim.ticket).holders claim.session = table.holders claim.session ∧
      (table.giveUp claim.ticket).queue claim.session =
        (table.queue claim.session).erase claim.ticket := by
  have found := sound.claim?_eq member
  obtain ⟨before, after, split, -, absent, -, staged⟩ := claim?_split sound.distinct found
  have claimsEq : (table.giveUp claim.ticket).claims =
      before ++ { claim with stage := .leaving false } :: after := by
    simp [giveUp, found, waiting, staged]
  have early : claim.ticket ∉ waitingIn claim.session before := by
    intro listed
    obtain ⟨other, otherMember, -, -, same⟩ := mem_waitingIn.1 listed
    exact absent other (List.mem_append_left _ otherMember) same
  constructor
  · simp [holders, claimsEq, split, waiting, Claim.hasPermit]
  · simp [queue, claimsEq, split, waiting, List.erase_append_right _ early]

/-- Who leaves after giving the permit back changes no line. -/
theorem Sound.line_depart (sound : Sound table) (ticket : Nat) (session : String) :
    (table.depart ticket).holders session = table.holders session ∧
      (table.depart ticket).queue session = table.queue session := by
  have letsGo := (sound.lineStep_letGo ticket session).same_of_quiet rfl
  have soundAfter : Sound (table.letGo ticket) := sound.step (.letGo ticket)
  have tidies := (soundAfter.lineStep_tidy ticket session).same_of_quiet rfl
  exact ⟨tidies.1.trans letsGo.1, tidies.2.trans letsGo.2⟩

/-- When a permit is given back, it passes to the first in the queue of its session, and no other
line changes. -/
theorem Sound.line_release (sound : Sound table) (member : claim ∈ table.claims)
    (held : claim.stage = .held) (session : String) :
    if claim.session = session then
      table.holders session = [claim.ticket] ∧
        (table.release claim.ticket).holders session = (table.queue session).take 1 ∧
        (table.release claim.ticket).queue session = (table.queue session).drop 1
    else
      (table.release claim.ticket).holders session = table.holders session ∧
        (table.release claim.ticket).queue session = table.queue session := by
  have soundAfter : Sound (table.giveBack claim.ticket) := sound.step (.giveBack claim.ticket)
  obtain ⟨departHolders, departQueue⟩ := soundAfter.line_depart claim.ticket session
  rw [release, departHolders, departQueue]
  split
  · next here =>
      subst here
      exact sound.line_giveBack member held
  · next elsewhere =>
      cases sound.lineStep_giveBack claim.ticket session with
      | same holdersSame queueSame => exact ⟨holdersSame, queueSame⟩
      | take asks => contradiction
      | join asks => contradiction
      | leave _ _ gaveUp => contradiction
      | @pass ticket leaves holdersWere _ _ =>
          rcases leaves with gaveBack | gaveUp
          · -- whoever holds the permit of a session has their claim there
            cases gaveBack
            obtain ⟨other, otherMember, same, -, sameTicket⟩ :=
              mem_holdingIn.1 (holdersWere.symm ▸ List.mem_singleton_self _)
            rw [sound.eq_of_ticket member otherMember sameTicket] at same
            exact absurd same elsewhere
          · contradiction

end Release

/-! ### Looking and going -/

section Going

variable {table : LockTable} {claim : Claim}

/-- Whoever has the permit and looks for it holds it then. -/
theorem Sound.mem_look (sound : Sound table) (member : claim ∈ table.claims)
    (has : claim.hasPermit) :
    { claim with stage := .held } ∈ (table.look claim.ticket).claims := by
  have found := sound.claim?_eq member
  rcases Claim.hasPermit_iff.1 has with granted | held
  · obtain ⟨before, after, -, -, -, -, staged⟩ := claim?_split sound.distinct found
    simp [look, found, granted, staged]
  · have same : { claim with stage := .held } = claim := by rw [← held]
    rw [same]
    simpa [look, found, held] using member

/-- Who lets go of a turnstile does not refer to it any more. -/
theorem Sound.letGo_refers (sound : Sound table) (member : claim ∈ table.claims)
    {tidies : Bool} (leaving : claim.stage = .leaving tidies) :
    ∀ other ∈ (table.letGo claim.ticket).claims, other.ticket = claim.ticket →
      other.refers = false := by
  have found := sound.claim?_eq member
  obtain ⟨before, after, -, -, absent, othersEq, staged⟩ := claim?_split sound.distinct found
  intro other otherMember same
  cases tidies with
  | true =>
      have claimsEq : (table.letGo claim.ticket).claims =
          before ++ { claim with stage := .tidying } :: after := by
        simp [letGo, found, leaving, staged]
      rw [claimsEq] at otherMember
      rcases List.mem_append.1 otherMember with early | late
      · exact absurd same (absent other (List.mem_append_left _ early))
      · rcases List.mem_cons.1 late with here | later
        · rw [here]
          rfl
        · exact absurd same (absent other (List.mem_append_right _ later))
  | false =>
      have claimsEq : (table.letGo claim.ticket).claims = before ++ after := by
        simp [letGo, found, leaving, othersEq]
      rw [claimsEq] at otherMember
      exact absurd same (absent other otherMember)

/-- Who tidies up is gone, and the session is forgotten if nobody refers to its turnstile. -/
theorem Sound.tidied (sound : Sound table) (member : claim ∈ table.claims)
    (tidying : claim.stage = .tidying) :
    (table.tidy claim.ticket).claims = table.others claim.ticket ∧
      find? (table.tidy claim.ticket).tracked claim.session =
        if ∃ other ∈ table.others claim.ticket, other.session = claim.session ∧ other.refers then
          find? table.tracked claim.session
        else none := by
  have found := sound.claim?_eq member
  have tidyEq : table.tidy claim.ticket =
      { table with claims := table.others claim.ticket }.forget claim.session := by
    simp [tidy, found, tidying]
  rw [tidyEq]
  refine ⟨claims_forget _, ?_⟩
  rw [find?_forget, if_pos rfl]
  exact sound.filter_isUsed (fun other isOther => (List.mem_filter.1 isOther).1) claim.session

end Going

end LockTable

end Parley
