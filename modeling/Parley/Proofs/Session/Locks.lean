/-
Module: Parley.Proofs.Session.Locks
Layer: Proofs
Purpose: What every single step on the locks keeps.  For each session there is a line: those who
  have its permit and those who wait for it.  One lemma says all that a step can do to a line
  (`Sound.lineStep`); that at most one has the permit and that nobody waits for a free permit follow
  from it.  Another says where the claims after a step come from (`Sound.mem_step`); that the table
  of turnstiles stays in step with the claims that refer to them follows from that one.
Main exports: LockStep, LockTable.step, LockTable.queue, LockTable.holders, LockTable.LineStep,
  LockTable.Sound, LockTable.Sound.lineStep, LockTable.Sound.mem_step, LockTable.Sound.step
-/
import Parley.Session.Locks
import Parley.Proofs.Dictionary

namespace Parley

open Dictionary (find?)

/-- A single step of somebody on the locks. -/
inductive LockStep where
  | arrive (session : String)
  | ask (ticket : Nat) (waits : Bool)
  | look (ticket : Nat)
  | giveBack (ticket : Nat)
  | giveUp (ticket : Nat)
  | letGo (ticket : Nat)
  | tidy (ticket : Nat)
  | prune
deriving DecidableEq, Repr

namespace Claim

variable {claim : Claim}

theorem hasPermit_iff : claim.hasPermit = true ↔ claim.stage = .granted ∨ claim.stage = .held := by
  simp [hasPermit]

theorem refers_of_waiting (waits : claim.stage = .waiting) : claim.refers := by
  simp [refers, waits]

theorem refers_of_hasPermit (has : claim.hasPermit) : claim.refers := by
  rcases hasPermit_iff.1 has with granted | held
  · simp [refers, granted]
  · simp [refers, held]

end Claim

namespace LockTable

/-- The table after one step. -/
def step (table : LockTable) : LockStep → LockTable
  | .arrive session => (table.arrive session).2
  | .ask ticket waits => table.ask ticket waits
  | .look ticket => table.look ticket
  | .giveBack ticket => table.giveBack ticket
  | .giveUp ticket => table.giveUp ticket
  | .letGo ticket => table.letGo ticket
  | .tidy ticket => table.tidy ticket
  | .prune => table.prune

/-! ### Lines -/

/-- The tickets of those who wait for a session, among some claims. -/
def waitingIn (session : String) (claims : List Claim) : List Nat :=
  (claims.filter fun claim => claim.session = session && claim.stage = .waiting).map (·.ticket)

/-- The tickets of those who have the permit of a session, among some claims. -/
def holdingIn (session : String) (claims : List Claim) : List Nat :=
  (claims.filter fun claim => claim.session = session && claim.hasPermit).map (·.ticket)

/-- The tickets of those who wait for a session, in the order in which they asked. -/
def queue (table : LockTable) (session : String) : List Nat :=
  waitingIn session table.claims

/-- The tickets of those who have the permit of a session. -/
def holders (table : LockTable) (session : String) : List Nat :=
  holdingIn session table.claims

@[simp] theorem waitingIn_append (session : String) (one two : List Claim) :
    waitingIn session (one ++ two) = waitingIn session one ++ waitingIn session two := by
  simp [waitingIn]

@[simp] theorem waitingIn_cons (session : String) (claim : Claim) (claims : List Claim) :
    waitingIn session (claim :: claims) =
      if claim.session = session ∧ claim.stage = .waiting then
        claim.ticket :: waitingIn session claims
      else waitingIn session claims := by
  by_cases counts : claim.session = session ∧ claim.stage = .waiting
  · simp [waitingIn, counts]
  · rw [if_neg counts]
    simp only [waitingIn, List.filter_cons]
    simp [counts]

@[simp] theorem waitingIn_nil (session : String) : waitingIn session [] = [] := rfl

@[simp] theorem holdingIn_append (session : String) (one two : List Claim) :
    holdingIn session (one ++ two) = holdingIn session one ++ holdingIn session two := by
  simp [holdingIn]

@[simp] theorem holdingIn_cons (session : String) (claim : Claim) (claims : List Claim) :
    holdingIn session (claim :: claims) =
      if claim.session = session ∧ claim.hasPermit then
        claim.ticket :: holdingIn session claims
      else holdingIn session claims := by
  by_cases counts : claim.session = session ∧ claim.hasPermit
  · simp [holdingIn, counts]
  · rw [if_neg counts]
    simp only [holdingIn, List.filter_cons]
    simp [counts]

@[simp] theorem holdingIn_nil (session : String) : holdingIn session [] = [] := rfl

theorem mem_holdingIn {session : String} {claims : List Claim} {ticket : Nat} :
    ticket ∈ holdingIn session claims ↔
      ∃ claim ∈ claims, claim.session = session ∧ claim.hasPermit ∧ claim.ticket = ticket := by
  simp [holdingIn, and_assoc]

theorem mem_waitingIn {session : String} {claims : List Claim} {ticket : Nat} :
    ticket ∈ waitingIn session claims ↔
      ∃ claim ∈ claims,
        claim.session = session ∧ claim.stage = .waiting ∧ claim.ticket = ticket := by
  simp [waitingIn, and_assoc]

/-! ### Assigning a permit

Permits are assigned by turnstile, lines are read by session.  The two agree where every claim in
the queue of the turnstile is for the session, and the other way round.
-/

section Promote

variable {turnstile : Nat} {session : String} {claims : List Claim}

/-- Assigning a permit takes the first out of the line that belongs to the turnstile. -/
theorem waitingIn_promote
    (fits : ∀ claim ∈ claims, claim.stage = .waiting →
      (claim.turnstile = turnstile ↔ claim.session = session)) :
    waitingIn session (promote turnstile claims) = (waitingIn session claims).tail := by
  induction claims with
  | nil => rfl
  | cons claim claims ih =>
      have fitsHead := fits claim List.mem_cons_self
      have fitsTail := ih fun other member => fits other (List.mem_cons_of_mem _ member)
      by_cases first : claim.turnstile = turnstile ∧ claim.stage = .waiting
      · have same := (fitsHead first.2).1 first.1
        simp [promote, first, same]
      · have skipped : ¬(claim.session = session ∧ claim.stage = .waiting) :=
          fun counts => first ⟨(fitsHead counts.2).2 counts.1, counts.2⟩
        simp [promote, first, skipped, fitsTail]

/-- If nobody has the permit, the first in the line gets it. -/
theorem holdingIn_promote
    (fits : ∀ claim ∈ claims, claim.stage = .waiting →
      (claim.turnstile = turnstile ↔ claim.session = session))
    (free : holdingIn session claims = []) :
    holdingIn session (promote turnstile claims) = (waitingIn session claims).take 1 := by
  induction claims with
  | nil => rfl
  | cons claim claims ih =>
      have fitsHead := fits claim List.mem_cons_self
      rw [holdingIn_cons] at free
      split at free
      · simp at free
      · next without =>
          have fitsTail := ih (fun other member => fits other (List.mem_cons_of_mem _ member)) free
          by_cases first : claim.turnstile = turnstile ∧ claim.stage = .waiting
          · have same := (fitsHead first.2).1 first.1
            simp [promote, first, same, Claim.hasPermit, free]
          · have skipped : ¬(claim.session = session ∧ claim.stage = .waiting) :=
              fun counts => first ⟨(fitsHead counts.2).2 counts.1, counts.2⟩
            simp [promote, first, skipped, without, fitsTail]

/-- Assigning a permit leaves the lines of all other sessions alone. -/
theorem promote_other {other : String} (different : other ≠ session)
    (fits : ∀ claim ∈ claims, claim.stage = .waiting →
      (claim.turnstile = turnstile ↔ claim.session = session)) :
    waitingIn other (promote turnstile claims) = waitingIn other claims ∧
      holdingIn other (promote turnstile claims) = holdingIn other claims := by
  induction claims with
  | nil => exact ⟨rfl, rfl⟩
  | cons claim claims ih =>
      have fitsHead := fits claim List.mem_cons_self
      have fitsTail := ih fun claim member => fits claim (List.mem_cons_of_mem _ member)
      by_cases first : claim.turnstile = turnstile ∧ claim.stage = .waiting
      · have same := (fitsHead first.2).1 first.1
        have elsewhere : ¬session = other := fun equal => different equal.symm
        simp [promote, first, same, elsewhere]
      · simp [promote, first, fitsTail]

/-- Assigning a permit changes no claim but one, which waited and then has the permit. -/
theorem mem_promote {claim : Claim} (member : claim ∈ promote turnstile claims) :
    claim ∈ claims ∨
      ∃ old ∈ claims, old.stage = .waiting ∧ claim = { old with stage := .granted } := by
  induction claims with
  | nil => simp [promote] at member
  | cons head claims ih =>
      rw [promote] at member
      split at member
      · next first =>
          rcases List.mem_cons.1 member with here | there
          · exact .inr ⟨head, List.mem_cons_self, first.2, here⟩
          · exact .inl (List.mem_cons_of_mem _ there)
      · rcases List.mem_cons.1 member with here | there
        · exact .inl (here ▸ List.mem_cons_self)
        · rcases ih there with old | ⟨old, oldMember, waited, same⟩
          · exact .inl (List.mem_cons_of_mem _ old)
          · exact .inr ⟨old, List.mem_cons_of_mem _ oldMember, waited, same⟩

/-- Assigning a permit keeps everything about the claims but their stages. -/
theorem map_promote {β : Type} {read : Claim → β}
    (ignores : ∀ claim stage, read { claim with stage := stage } = read claim) :
    (promote turnstile claims).map read = claims.map read := by
  induction claims with
  | nil => rfl
  | cons claim claims ih =>
      rw [promote]
      split
      · simp [ignores]
      · simp [ih]

end Promote

/-! ### The claim with a ticket -/

/-- No two claims have one ticket. -/
def Distinct (claims : List Claim) : Prop :=
  claims.Pairwise fun one two => one.ticket ≠ two.ticket

theorem distinct_of_map_ticket {one two : List Claim}
    (same : one.map (·.ticket) = two.map (·.ticket)) (distinct : Distinct one) : Distinct two := by
  have unique : (one.map (·.ticket)).Pairwise (· ≠ ·) := List.pairwise_map.2 distinct
  rw [same] at unique
  exact List.pairwise_map.1 unique

theorem map_withStage {β : Type} {read : Claim → β}
    (ignores : ∀ claim stage, read { claim with stage := stage } = read claim)
    (ticket : Nat) (stage : ClaimStage) (claims : List Claim) :
    (withStage ticket stage claims).map read = claims.map read := by
  rw [withStage, List.map_map]
  refine List.map_congr_left fun claim _ => ?_
  rw [Function.comp_apply]
  split
  · exact ignores claim stage
  · rfl

private theorem withStage_of_absent {ticket : Nat} (stage : ClaimStage) {claims : List Claim}
    (absent : ∀ claim ∈ claims, claim.ticket ≠ ticket) :
    withStage ticket stage claims = claims := by
  rw [withStage]
  refine (List.map_congr_left fun claim member => ?_).trans (List.map_id claims)
  simp [absent claim member]

/-- The claim with a ticket stands at one place, and the steps on it change that place only. -/
theorem claim?_split {table : LockTable} {ticket : Nat} {claim : Claim}
    (distinct : Distinct table.claims) (found : table.claim? ticket = some claim) :
    ∃ before after,
      table.claims = before ++ claim :: after ∧ claim.ticket = ticket ∧
      (∀ other ∈ before ++ after, other.ticket ≠ ticket) ∧
      table.others ticket = before ++ after ∧
      ∀ stage, withStage ticket stage table.claims =
        before ++ { claim with stage := stage } :: after := by
  obtain ⟨same, before, after, split, absent⟩ := List.find?_eq_some_iff_append.1 found
  have same : claim.ticket = ticket := by simpa using same
  have absentBefore : ∀ other ∈ before, other.ticket ≠ ticket := fun other member => by
    simpa using absent other member
  have absentAfter : ∀ other ∈ after, other.ticket ≠ ticket := by
    intro other member equal
    rw [Distinct, split, List.pairwise_append] at distinct
    exact (List.pairwise_cons.1 distinct.2.1).1 other member (same.trans equal.symm)
  refine ⟨before, after, split, same, ?_, ?_, ?_⟩
  · intro other member
    rcases List.mem_append.1 member with early | late
    · exact absentBefore other early
    · exact absentAfter other late
  · rw [others, split, List.filter_append, List.filter_cons]
    have keepBefore : before.filter (fun other => other.ticket ≠ ticket) = before :=
      List.filter_eq_self.2 fun other member => by simpa using absentBefore other member
    have keepAfter : after.filter (fun other => other.ticket ≠ ticket) = after :=
      List.filter_eq_self.2 fun other member => by simpa using absentAfter other member
    rw [keepBefore, keepAfter]
    simp [same]
  · intro stage
    have apart : withStage ticket stage (before ++ claim :: after) =
        withStage ticket stage before ++ { claim with stage := stage } ::
          withStage ticket stage after := by
      simp [withStage, same]
    rw [split, apart, withStage_of_absent stage absentBefore, withStage_of_absent stage absentAfter]

/-! ### What holds at all times -/

/-- What every step on the locks keeps. -/
structure Sound (table : LockTable) : Prop where
  sorted : Dictionary.Sorted table.tracked
  distinct : Distinct table.claims
  /-- Tickets are not used again. -/
  issued : ∀ claim ∈ table.claims, claim.ticket < table.nextTicket
  /-- Turnstiles are not used again. -/
  made : ∀ session turnstile,
    find? table.tracked session = some turnstile → turnstile < table.nextTurnstile
  /-- No two sessions share a turnstile. -/
  separate : ∀ one two turnstile,
    find? table.tracked one = some turnstile → find? table.tracked two = some turnstile → one = two
  /-- Whoever refers to a turnstile refers to the one that is tracked for the session. -/
  current : ∀ claim ∈ table.claims,
    claim.refers → find? table.tracked claim.session = some claim.turnstile
  single : ∀ session, (table.holders session).length ≤ 1
  /-- Nobody waits for a free permit. -/
  busy : ∀ session, table.queue session ≠ [] → table.holders session ≠ []

theorem Sound.empty : Sound LockTable.empty where
  sorted := List.Pairwise.nil
  distinct := List.Pairwise.nil
  issued := by simp [LockTable.empty]
  made := by simp [LockTable.empty]
  separate := by simp [LockTable.empty]
  current := by simp [LockTable.empty]
  single := by simp [LockTable.empty, holders]
  busy := by simp [LockTable.empty, queue]

section Sound

variable {table : LockTable} {claim other : Claim}

/-- Two claims that refer to turnstiles are for one session exactly if the turnstile is one. -/
theorem Sound.turnstile_eq_iff (sound : Sound table) (member : claim ∈ table.claims)
    (refers : claim.refers) (otherMember : other ∈ table.claims) (otherRefers : other.refers) :
    other.turnstile = claim.turnstile ↔ other.session = claim.session := by
  have one := sound.current claim member refers
  have two := sound.current other otherMember otherRefers
  constructor
  · intro same
    exact sound.separate _ _ _ two (same ▸ one)
  · intro same
    rw [same, one] at two
    exact (Option.some.inj two).symm

/-- A turnstile is free exactly if nobody has the permit of its session. -/
theorem Sound.isFree_iff (sound : Sound table) (member : claim ∈ table.claims)
    (refers : claim.refers) :
    table.isFree claim.turnstile = true ↔ table.holders claim.session = [] := by
  rw [isFree, List.all_eq_true, holders, List.eq_nil_iff_forall_not_mem]
  constructor
  · intro free ticket holds
    obtain ⟨holder, holderMember, same, has, -⟩ := mem_holdingIn.1 holds
    have sameTurnstile := (sound.turnstile_eq_iff member refers holderMember
      (Claim.refers_of_hasPermit has)).2 same
    simpa [sameTurnstile, has] using free holder holderMember
  · intro none holder holderMember
    by_cases has : holder.hasPermit
    · have elsewhere : holder.turnstile ≠ claim.turnstile := fun same =>
        none holder.ticket (mem_holdingIn.2 ⟨holder, holderMember,
          (sound.turnstile_eq_iff member refers holderMember
            (Claim.refers_of_hasPermit has)).1 same, has, rfl⟩)
      simp [elsewhere]
    · simp [has]

end Sound

/-! ### What a step does to a line -/

/-- All that one step can do to the line of a session: who has the permit and who waits, before and
after. -/
inductive LineStep (step : LockStep) (holders queue holdersAfter queueAfter : List Nat) : Prop where
  | same : holdersAfter = holders → queueAfter = queue →
      LineStep step holders queue holdersAfter queueAfter
  /-- The free permit is taken. -/
  | take {ticket : Nat} {waits : Bool} : step = .ask ticket waits → holders = [] →
      holdersAfter = [ticket] → queueAfter = queue →
      LineStep step holders queue holdersAfter queueAfter
  /-- Somebody comes to the end of the queue. -/
  | join {ticket : Nat} : step = .ask ticket true → holders ≠ [] → holdersAfter = holders →
      queueAfter = queue ++ [ticket] → LineStep step holders queue holdersAfter queueAfter
  /-- Somebody leaves the queue. -/
  | leave {ticket : Nat} (before after : List Nat) : step = .giveUp ticket →
      holdersAfter = holders → queue = before ++ ticket :: after → queueAfter = before ++ after →
      LineStep step holders queue holdersAfter queueAfter
  /-- The one with the permit leaves, and it passes to the first in the queue, if there is one. -/
  | pass {ticket : Nat} : step = .giveBack ticket ∨ step = .giveUp ticket → holders = [ticket] →
      holdersAfter = queue.take 1 → queueAfter = queue.drop 1 →
      LineStep step holders queue holdersAfter queueAfter

section Line

variable {table : LockTable} {claim : Claim} {before after : List Claim}

/-- Whoever has the permit of a session is the only one. -/
theorem Sound.holders_of_hasPermit (sound : Sound table) (member : claim ∈ table.claims)
    (has : claim.hasPermit) : table.holders claim.session = [claim.ticket] := by
  have holds : claim.ticket ∈ table.holders claim.session :=
    mem_holdingIn.2 ⟨claim, member, rfl, has, rfl⟩
  have single := sound.single claim.session
  generalize table.holders claim.session = holders at holds single
  match holders, holds, single with
  | [ticket], holds, _ => rw [List.mem_singleton.1 holds]
  | _ :: _ :: _, _, single => simp at single

section Pass

variable (sound : Sound table) (split : table.claims = before ++ claim :: after)
  (has : claim.hasPermit) (tidies : Bool)

include split has

/-- Where one leaves who has the permit, those who wait are the same as before. -/
theorem waitingIn_left (session : String) :
    waitingIn session (before ++ { claim with stage := .leaving tidies } :: after) =
      table.queue session := by
  have notWaiting : claim.stage ≠ .waiting := by
    rcases Claim.hasPermit_iff.1 has with granted | held
    · simp [granted]
    · simp [held]
  simp [queue, split, notWaiting]

include sound

/-- Those who wait at the turnstile are those who wait for the session. -/
theorem Sound.fits_left : ∀ other ∈ before ++ { claim with stage := .leaving tidies } :: after,
    other.stage = .waiting →
      (other.turnstile = claim.turnstile ↔ other.session = claim.session) := by
  intro other otherMember waits
  have member : claim ∈ table.claims := by simp [split]
  have kept : other ∈ table.claims := by
    rcases List.mem_append.1 otherMember with early | late
    · simp [split, early]
    · rcases List.mem_cons.1 late with here | later
      · simp [here] at waits
      · simp [split, later]
  exact sound.turnstile_eq_iff member (Claim.refers_of_hasPermit has) kept
    (Claim.refers_of_waiting waits)

/-- When one who has the permit leaves, the permit passes to the first in the queue of its session. -/
theorem Sound.line_pass :
    table.holders claim.session = [claim.ticket] ∧
      holdingIn claim.session (promote claim.turnstile
          (before ++ { claim with stage := .leaving tidies } :: after)) =
        (table.queue claim.session).take 1 ∧
      waitingIn claim.session (promote claim.turnstile
          (before ++ { claim with stage := .leaving tidies } :: after)) =
        (table.queue claim.session).drop 1 := by
  have had := sound.holders_of_hasPermit (by simp [split]) has
  have others : holdingIn claim.session before = [] ∧ holdingIn claim.session after = [] := by
    have line : table.holders claim.session =
        holdingIn claim.session before ++ claim.ticket :: holdingIn claim.session after := by
      simp [holders, split, has]
    have single := congrArg List.length (line.symm.trans had)
    simp only [List.length_append, List.length_cons, List.length_nil] at single
    constructor <;> exact List.eq_nil_of_length_eq_zero (by omega)
  have fits := sound.fits_left split has tidies
  have queueLeft := waitingIn_left split has tidies claim.session
  have free : holdingIn claim.session
      (before ++ { claim with stage := .leaving tidies } :: after) = [] := by
    simp [others, Claim.hasPermit]
  refine ⟨had, ?_, ?_⟩
  · rw [holdingIn_promote fits free, queueLeft]
  · rw [waitingIn_promote fits, queueLeft, List.drop_one]

/-- Nothing happens to other lines. -/
theorem Sound.lineStep_pass {step : LockStep}
    (leaves : step = .giveBack claim.ticket ∨ step = .giveUp claim.ticket) (session : String) :
    LineStep step (table.holders session) (table.queue session)
      (holdingIn session (promote claim.turnstile
        (before ++ { claim with stage := .leaving tidies } :: after)))
      (waitingIn session (promote claim.turnstile
        (before ++ { claim with stage := .leaving tidies } :: after))) := by
  by_cases here : session = claim.session
  · subst here
    obtain ⟨had, passes, moves⟩ := sound.line_pass split has tidies
    exact .pass leaves had passes moves
  · obtain ⟨waitingSame, holdingSame⟩ := promote_other here (sound.fits_left split has tidies)
    have elsewhere : ¬claim.session = session := fun same => here same.symm
    apply LineStep.same
    · rw [holdingSame]
      simp [holders, split, elsewhere]
    · rw [waitingSame, waitingIn_left split has]

end Pass

/-- A claim that is replaced, where it stands, by claims that count the same in a line. -/
theorem lineStep_replaced {next : LockTable} {session : String} (step : LockStep)
    (changed : List Claim) (split : table.claims = before ++ claim :: after)
    (nextEq : next.claims = before ++ (changed ++ after))
    (holding : holdingIn session changed = holdingIn session [claim])
    (waiting : waitingIn session changed = waitingIn session [claim]) :
    LineStep step (table.holders session) (table.queue session)
      (next.holders session) (next.queue session) := by
  have splitApart : table.claims = before ++ ([claim] ++ after) := by simpa using split
  apply LineStep.same
  · simp only [holders, nextEq, splitApart, holdingIn_append, holding]
  · simp only [queue, nextEq, splitApart, waitingIn_append, waiting]

theorem lineStep_arrive (newcomer session : String) :
    LineStep (.arrive newcomer) (table.holders session) (table.queue session)
      ((table.arrive newcomer).2.holders session) ((table.arrive newcomer).2.queue session) := by
  have arrived : ∃ claim : Claim, claim.stage = .arriving ∧
      (table.arrive newcomer).2.claims = table.claims ++ [claim] := by
    simp only [arrive, enter]
    split <;> exact ⟨_, rfl, rfl⟩
  obtain ⟨claim, arriving, claimsEq⟩ := arrived
  apply LineStep.same
  · simp [holders, claimsEq, Claim.hasPermit, arriving]
  · simp [queue, claimsEq, arriving]

/-- Who asks takes the permit if it is free; otherwise they come to the end of the queue, or are
turned away. -/
theorem Sound.lineStep_ask (sound : Sound table) (ticket : Nat) (waits : Bool) (session : String) :
    LineStep (.ask ticket waits) (table.holders session) (table.queue session)
      ((table.ask ticket waits).holders session) ((table.ask ticket waits).queue session) := by
  rw [ask]
  split
  · next claim found =>
      split
      · next arriving =>
          obtain ⟨before, after, split, sameTicket, -, othersEq, -⟩ :=
            claim?_split sound.distinct found
          have member : claim ∈ table.claims := by simp [split]
          have freeIff := sound.isFree_iff member (by simp [Claim.refers, arriving])
          have holdersEq : table.holders session =
              holdingIn session before ++ holdingIn session after := by
            simp [holders, split, arriving, Claim.hasPermit]
          have queueEq : table.queue session =
              waitingIn session before ++ waitingIn session after := by
            simp [queue, split, arriving]
          by_cases here : claim.session = session
          · subst here
            cases free : table.isFree claim.turnstile with
            | true =>
                have nobody := freeIff.1 free
                apply LineStep.take rfl nobody
                · rw [holdersEq] at nobody
                  simp only [holders, othersEq, stageAsked, holdingIn_append, nobody]
                  simp [Claim.hasPermit, sameTicket]
                · rw [queueEq]
                  simp [queue, othersEq, stageAsked]
            | false =>
                have somebody : table.holders claim.session ≠ [] := fun nobody => by
                  simp [freeIff.2 nobody] at free
                cases waits with
                | true =>
                    apply LineStep.join rfl somebody
                    · rw [holdersEq]
                      simp [holders, othersEq, stageAsked, Claim.hasPermit]
                    · rw [queueEq]
                      simp [queue, othersEq, stageAsked, sameTicket]
                | false =>
                    apply LineStep.same
                    · rw [holdersEq]
                      simp [holders, othersEq, stageAsked, Claim.hasPermit]
                    · rw [queueEq]
                      simp [queue, othersEq, stageAsked]
          · apply LineStep.same
            · rw [holdersEq]
              simp [holders, othersEq, here]
            · rw [queueEq]
              simp [queue, othersEq, here]
      · exact .same rfl rfl
  · exact .same rfl rfl

theorem Sound.lineStep_look (sound : Sound table) (ticket : Nat) (session : String) :
    LineStep (.look ticket) (table.holders session) (table.queue session)
      ((table.look ticket).holders session) ((table.look ticket).queue session) := by
  rw [look]
  split
  · next claim found =>
      split
      · next granted =>
          obtain ⟨before, after, split, -, -, -, staged⟩ := claim?_split sound.distinct found
          refine lineStep_replaced _ [{ claim with stage := .held }] split ?_ ?_ ?_
          · simpa using staged .held
          · simp [granted, Claim.hasPermit]
          · simp [granted]
      · exact .same rfl rfl
  · exact .same rfl rfl

theorem Sound.lineStep_giveBack (sound : Sound table) (ticket : Nat) (session : String) :
    LineStep (.giveBack ticket) (table.holders session) (table.queue session)
      ((table.giveBack ticket).holders session) ((table.giveBack ticket).queue session) := by
  rw [giveBack]
  split
  · next claim found =>
      split
      · next held =>
          obtain ⟨before, after, split, same, -, -, staged⟩ := claim?_split sound.distinct found
          rw [staged]
          exact sound.lineStep_pass split (Claim.hasPermit_iff.2 (.inr held)) true
            (.inl (same ▸ rfl)) session
      · exact .same rfl rfl
  · exact .same rfl rfl

/-- Who gives up leaves the queue, or passes on the permit that was assigned meanwhile. -/
theorem Sound.lineStep_giveUp (sound : Sound table) (ticket : Nat) (session : String) :
    LineStep (.giveUp ticket) (table.holders session) (table.queue session)
      ((table.giveUp ticket).holders session) ((table.giveUp ticket).queue session) := by
  rw [giveUp]
  split
  · next claim found =>
      obtain ⟨before, after, split, sameTicket, -, -, staged⟩ := claim?_split sound.distinct found
      simp only [staged]
      split
      · next waiting =>
          by_cases here : claim.session = session
          · refine .leave (waitingIn session before) (waitingIn session after) rfl ?_ ?_ ?_
            · simp [holders, split, waiting, Claim.hasPermit]
            · simp [queue, split, waiting, here, sameTicket]
            · simp [queue]
          · refine lineStep_replaced _ [{ claim with stage := .leaving false }] split
              ?_ ?_ ?_
            · simp
            · simp [waiting, Claim.hasPermit]
            · simp [here]
      · split
        · next granted =>
            exact sound.lineStep_pass split (Claim.hasPermit_iff.2 (.inl granted)) false
              (.inr (sameTicket ▸ rfl)) session
        · exact .same rfl rfl
  · exact .same rfl rfl

theorem Sound.lineStep_letGo (sound : Sound table) (ticket : Nat) (session : String) :
    LineStep (.letGo ticket) (table.holders session) (table.queue session)
      ((table.letGo ticket).holders session) ((table.letGo ticket).queue session) := by
  rw [letGo]
  split
  · next claim found =>
      obtain ⟨before, after, split, -, -, othersEq, staged⟩ := claim?_split sound.distinct found
      split
      · next leaving =>
          refine lineStep_replaced _ [{ claim with stage := .tidying }] split ?_ ?_ ?_
          · simpa using staged .tidying
          · simp [leaving, Claim.hasPermit]
          · simp [leaving]
      · split
        · next leaving =>
            apply lineStep_replaced _ [] split
            · simpa using othersEq
            · simp [leaving, Claim.hasPermit]
            · simp [leaving]
        · exact .same rfl rfl
  · exact .same rfl rfl

@[simp] theorem claims_forget (session : String) :
    (table.forget session).claims = table.claims := by
  rw [forget]
  split
  · split <;> rfl
  · rfl

theorem Sound.lineStep_tidy (sound : Sound table) (ticket : Nat) (session : String) :
    LineStep (.tidy ticket) (table.holders session) (table.queue session)
      ((table.tidy ticket).holders session) ((table.tidy ticket).queue session) := by
  rw [tidy]
  split
  · next claim found =>
      split
      · next tidying =>
          obtain ⟨before, after, split, -, -, othersEq, -⟩ := claim?_split sound.distinct found
          apply lineStep_replaced _ [] split
          · simpa using othersEq
          · simp [tidying, Claim.hasPermit]
          · simp [tidying]
      · exact .same rfl rfl
  · exact .same rfl rfl

/-- A step does one of five things to each line. -/
theorem Sound.lineStep (sound : Sound table) (step : LockStep) (session : String) :
    LineStep step (table.holders session) (table.queue session)
      ((table.step step).holders session) ((table.step step).queue session) := by
  cases step with
  | arrive newcomer => exact lineStep_arrive newcomer session
  | ask ticket waits => exact sound.lineStep_ask ticket waits session
  | look ticket => exact sound.lineStep_look ticket session
  | giveBack ticket => exact sound.lineStep_giveBack ticket session
  | giveUp ticket => exact sound.lineStep_giveUp ticket session
  | letGo ticket => exact sound.lineStep_letGo ticket session
  | tidy ticket => exact sound.lineStep_tidy ticket session
  | prune => exact .same rfl rfl

end Line

/-! ### Where claims come from -/

/-- How one step moves a claim with some ticket on, from one stage to the next. -/
inductive Advance : LockStep → Nat → ClaimStage → ClaimStage → Prop where
  | ask (ticket : Nat) (isFree waits : Bool) :
      Advance (.ask ticket waits) ticket .arriving (stageAsked isFree waits)
  | assign (step : LockStep) (ticket : Nat) : Advance step ticket .waiting .granted
  | look (ticket : Nat) : Advance (.look ticket) ticket .granted .held
  | giveBack (ticket : Nat) : Advance (.giveBack ticket) ticket .held (.leaving true)
  | quit (ticket : Nat) : Advance (.giveUp ticket) ticket .waiting (.leaving false)
  | passOn (ticket : Nat) : Advance (.giveUp ticket) ticket .granted (.leaving false)
  | letGo (ticket : Nat) : Advance (.letGo ticket) ticket (.leaving true) .tidying

/-- Who moves on still refers to a turnstile. -/
theorem Advance.not_tidying {step : LockStep} {ticket : Nat} {stage next : ClaimStage}
    (advance : Advance step ticket stage next) : stage ≠ .tidying := by
  cases advance <;> simp

/-- Only who gives up leaves without tidying. -/
theorem Advance.gaveUp {step : LockStep} {ticket : Nat} {stage next : ClaimStage}
    (advance : Advance step ticket stage next) (leaves : next = .leaving false) :
    step = .giveUp ticket ∧ (stage = .waiting ∨ stage = .granted) := by
  cases advance with
  | ask _ isFree waits => cases isFree <;> cases waits <;> simp [stageAsked] at leaves
  | assign => contradiction
  | look => contradiction
  | giveBack => simp at leaves
  | quit => exact ⟨rfl, .inl rfl⟩
  | passOn => exact ⟨rfl, .inr rfl⟩
  | letGo => contradiction

/-- A claim after a step: it was there before, it moved on, or it is the newcomer's. -/
inductive Origin (table : LockTable) (step : LockStep) (claim : Claim) : Prop where
  | kept : claim ∈ table.claims → Origin table step claim
  | moved (old : Claim) (stage : ClaimStage) : old ∈ table.claims →
      Advance step old.ticket old.stage stage → claim = { old with stage := stage } →
      Origin table step claim
  | arrived : step = .arrive claim.session → claim.ticket = table.nextTicket →
      claim.turnstile = (table.enter claim.session).1 → claim.stage = .arriving →
      Origin table step claim

section Origin

variable {table : LockTable} {claim old : Claim} {before after : List Claim}

@[simp] theorem claims_enter (session : String) :
    (table.enter session).2.claims = table.claims := by
  rw [enter]
  split <;> rfl

@[simp] theorem nextTicket_enter (session : String) :
    (table.enter session).2.nextTicket = table.nextTicket := by
  rw [enter]
  split <;> rfl

theorem mem_arrive (newcomer : String) (member : claim ∈ (table.arrive newcomer).2.claims) :
    Origin table (.arrive newcomer) claim := by
  simp only [arrive, claims_enter, nextTicket_enter] at member
  rcases List.mem_append.1 member with old | new
  · exact .kept old
  · have same := List.mem_singleton.1 new
    subst same
    exact .arrived rfl rfl rfl rfl

/-- A claim after the one with a ticket was replaced where it stood. -/
theorem origin_replaced {step : LockStep} {stage : ClaimStage}
    (split : table.claims = before ++ old :: after)
    (advance : Advance step old.ticket old.stage stage)
    (member : claim ∈ before ++ { old with stage := stage } :: after) :
    Origin table step claim := by
  rcases List.mem_append.1 member with early | late
  · exact .kept (by simp [split, early])
  · rcases List.mem_cons.1 late with here | later
    · exact .moved old stage (by simp [split]) advance here
    · exact .kept (by simp [split, later])

/-- A claim after the one with a ticket was replaced and the permit passed on. -/
theorem origin_promoted {step : LockStep} {stage : ClaimStage} {turnstile : Nat}
    (split : table.claims = before ++ old :: after)
    (advance : Advance step old.ticket old.stage stage) (left : stage ≠ .waiting)
    (member : claim ∈ promote turnstile (before ++ { old with stage := stage } :: after)) :
    Origin table step claim := by
  rcases mem_promote member with plain | ⟨waiter, waiterMember, waited, same⟩
  · exact origin_replaced split advance plain
  · have kept : waiter ∈ table.claims := by
      rcases List.mem_append.1 waiterMember with early | late
      · simp [split, early]
      · rcases List.mem_cons.1 late with here | later
        · exact absurd (by simpa [here] using waited) left
        · simp [split, later]
    exact .moved waiter .granted kept (waited ▸ Advance.assign step waiter.ticket) same

/-- Where the claims after a step come from. -/
theorem Sound.mem_step (sound : Sound table) {step : LockStep}
    (member : claim ∈ (table.step step).claims) : Origin table step claim := by
  cases step with
  | arrive newcomer => exact mem_arrive newcomer member
  | ask ticket waits =>
      rw [LockTable.step, ask] at member
      split at member
      · next asker found =>
          split at member
          · next arriving =>
              obtain ⟨before, after, split, same, -, othersEq, -⟩ :=
                claim?_split sound.distinct found
              subst same
              refine origin_replaced split (arriving ▸ Advance.ask _ _ waits) (?_ :
                claim ∈ before ++
                  { asker with stage := stageAsked (table.isFree asker.turnstile) waits } :: after)
              simp only [othersEq, List.mem_append, List.mem_singleton] at member
              simp only [List.mem_append, List.mem_cons]
              rcases member with (early | late) | here
              · exact .inl early
              · exact .inr (.inr late)
              · exact .inr (.inl here)
          · exact .kept member
      · exact .kept member
  | look ticket =>
      rw [LockTable.step, look] at member
      split at member
      · next looker found =>
          obtain ⟨before, after, split, same, -, -, staged⟩ := claim?_split sound.distinct found
          subst same
          split at member
          · next granted =>
              rw [staged] at member
              exact origin_replaced split (granted ▸ Advance.look _) member
          · exact .kept member
      · exact .kept member
  | giveBack ticket =>
      rw [LockTable.step, giveBack] at member
      split at member
      · next holder found =>
          obtain ⟨before, after, split, same, -, -, staged⟩ := claim?_split sound.distinct found
          subst same
          split at member
          · next held =>
              rw [staged] at member
              exact origin_promoted split (held ▸ Advance.giveBack _) (by simp) member
          · exact .kept member
      · exact .kept member
  | giveUp ticket =>
      rw [LockTable.step, giveUp] at member
      split at member
      · next waiter found =>
          obtain ⟨before, after, split, same, -, -, staged⟩ := claim?_split sound.distinct found
          subst same
          simp only [staged] at member
          split at member
          · next waiting => exact origin_replaced split (waiting ▸ Advance.quit _) member
          · split at member
            · next granted =>
                exact origin_promoted split (granted ▸ Advance.passOn _) (by simp) member
            · exact .kept member
      · exact .kept member
  | letGo ticket =>
      rw [LockTable.step, letGo] at member
      split at member
      · next leaver found =>
          obtain ⟨before, after, split, same, -, -, staged⟩ := claim?_split sound.distinct found
          subst same
          split at member
          · next leaving =>
              rw [staged] at member
              exact origin_replaced split (leaving ▸ Advance.letGo _) member
          · split at member
            · exact .kept (List.mem_filter.1 member).1
            · exact .kept member
      · exact .kept member
  | tidy ticket =>
      rw [LockTable.step, tidy] at member
      split at member
      · split at member
        · rw [claims_forget] at member
          exact .kept (List.mem_filter.1 member).1
        · exact .kept member
      · exact .kept member
  | prune => exact .kept member

end Origin

/-! ### Turnstiles come and go -/

section Tracked

variable {table : LockTable} {session key : String} {turnstile : Nat}

/-- Forgetting concerns one session, and only while nobody refers to its turnstile. -/
theorem find?_forget :
    find? (table.forget session).tracked key =
      if key = session then (find? table.tracked key).filter table.isUsed
      else find? table.tracked key := by
  rw [forget]
  by_cases same : key = session
  · subst same
    rw [if_pos rfl]
    cases found : find? table.tracked key with
    | none => simp [found]
    | some turnstile =>
        cases used : table.isUsed turnstile with
        | true => simp [used, found, Option.filter]
        | false => simp [used, Option.filter]
  · rw [if_neg same]
    split
    · split
      · rfl
      · exact Dictionary.find?_erase_of_ne _ (Ne.symm same)
    · rfl

/-- A sweep keeps the turnstiles that somebody refers to. -/
theorem find?_prune (sorted : Dictionary.Sorted table.tracked) :
    find? table.prune.tracked key = (find? table.tracked key).filter table.isUsed :=
  Dictionary.find?_filter sorted _ key

theorem isUsed_iff :
    table.isUsed turnstile = true ↔
      ∃ claim ∈ table.claims, claim.turnstile = turnstile ∧ claim.refers := by
  simp [isUsed]

/-- Whoever comes finds a turnstile for their session, and no other session's is touched. -/
theorem find?_arrive :
    find? (table.arrive session).2.tracked key =
      if key = session then some (table.enter session).1 else find? table.tracked key := by
  simp only [arrive, enter]
  by_cases same : key = session
  · subst same
    rw [if_pos rfl]
    split
    · assumption
    · exact Dictionary.find?_insert_self _ _ _
  · rw [if_neg same]
    split
    · rfl
    · exact Dictionary.find?_insert_of_ne _ _ (Ne.symm same)

/-! Five of the steps concern the claims alone. -/

theorem ask_eq (ticket : Nat) (waits : Bool) :
    table.ask ticket waits = { table with claims := (table.ask ticket waits).claims } := by
  unfold ask
  split
  · split <;> rfl
  · rfl

theorem look_eq (ticket : Nat) :
    table.look ticket = { table with claims := (table.look ticket).claims } := by
  unfold look
  split
  · split <;> rfl
  · rfl

theorem giveBack_eq (ticket : Nat) :
    table.giveBack ticket = { table with claims := (table.giveBack ticket).claims } := by
  unfold giveBack
  split
  · split <;> rfl
  · rfl

theorem giveUp_eq (ticket : Nat) :
    table.giveUp ticket = { table with claims := (table.giveUp ticket).claims } := by
  unfold giveUp
  split
  · dsimp only
    split
    · rfl
    · split <;> rfl
  · rfl

theorem letGo_eq (ticket : Nat) :
    table.letGo ticket = { table with claims := (table.letGo ticket).claims } := by
  unfold letGo
  split
  · split
    · rfl
    · split <;> rfl
  · rfl

/-- What is tracked after a step was tracked before, or was made for the newcomer. -/
theorem Sound.tracked_step (sound : Sound table) {step : LockStep}
    (found : find? (table.step step).tracked key = some turnstile) :
    find? table.tracked key = some turnstile ∨
      (step = .arrive key ∧ find? table.tracked key = none ∧ turnstile = table.nextTurnstile) := by
  cases step with
  | arrive session =>
      rw [step, find?_arrive] at found
      split at found
      · next same =>
          subst same
          simp only [enter] at found
          cases before : find? table.tracked key with
          | none => exact .inr ⟨rfl, rfl, by simpa [before, eq_comm] using found⟩
          | some old => exact .inl (by simpa [before] using found)
      · exact .inl found
  | ask ticket waits => exact .inl (by rwa [step, ask_eq] at found)
  | look ticket => exact .inl (by rwa [step, look_eq] at found)
  | giveBack ticket => exact .inl (by rwa [step, giveBack_eq] at found)
  | giveUp ticket => exact .inl (by rwa [step, giveUp_eq] at found)
  | letGo ticket => exact .inl (by rwa [step, letGo_eq] at found)
  | tidy ticket =>
      rw [step, tidy] at found
      split at found
      · split at found
        · rw [find?_forget] at found
          split at found
          · exact .inl (Option.eq_some_of_filter_eq_some found)
          · exact .inl found
        · exact .inl found
      · exact .inl found
  | prune =>
      rw [step, find?_prune sound.sorted] at found
      exact .inl (Option.eq_some_of_filter_eq_some found)

/-- A turnstile that somebody refers to after a step is still tracked. -/
theorem Sound.tracked_kept (sound : Sound table) {step : LockStep}
    (found : find? table.tracked key = some turnstile)
    (used : (table.step step).isUsed turnstile = true) :
    find? (table.step step).tracked key = some turnstile := by
  cases step with
  | arrive session =>
      rw [step, find?_arrive]
      split
      · next same =>
          subst same
          simp [enter, found]
      · exact found
  | ask ticket waits => rwa [step, ask_eq]
  | look ticket => rwa [step, look_eq]
  | giveBack ticket => rwa [step, giveBack_eq]
  | giveUp ticket => rwa [step, giveUp_eq]
  | letGo ticket => rwa [step, letGo_eq]
  | tidy ticket =>
      rw [step, tidy] at used ⊢
      split
      · split
        · next claim _ tidying =>
            simp only [*, if_true, isUsed, claims_forget] at used
            rw [find?_forget]
            split
            · simp [found, Option.filter, isUsed, used]
            · exact found
        · exact found
      · exact found
  | prune =>
      have used : table.isUsed turnstile = true := used
      rw [step, find?_prune sound.sorted, found]
      simp [Option.filter, used]

/-- Numbers are given out once: the next ones never go back, and a newcomer moves them on. -/
theorem counters_step (table : LockTable) (step : LockStep) :
    table.nextTicket ≤ (table.step step).nextTicket ∧
      table.nextTurnstile ≤ (table.step step).nextTurnstile := by
  cases step with
  | arrive session =>
      simp only [step, arrive, enter]
      split <;> simp
  | ask ticket waits => rw [step, ask_eq]; simp
  | look ticket => rw [step, look_eq]; simp
  | giveBack ticket => rw [step, giveBack_eq]; simp
  | giveUp ticket => rw [step, giveUp_eq]; simp
  | letGo ticket => rw [step, letGo_eq]; simp
  | tidy ticket =>
      simp only [step, tidy, forget]
      split
      · split
        · split
          · split <;> simp
          · simp
        · simp
      · simp
  | prune => simp [step, prune]

end Tracked

/-! ### Every step keeps what holds at all times -/

section Kept

variable {table : LockTable}

theorem Sound.sorted_step (sound : Sound table) (step : LockStep) :
    Dictionary.Sorted (table.step step).tracked := by
  cases step with
  | arrive session =>
      simp only [step, arrive, enter]
      split
      · exact sound.sorted
      · exact sound.sorted.insert _ _
  | ask ticket waits => rw [step, ask_eq]; exact sound.sorted
  | look ticket => rw [step, look_eq]; exact sound.sorted
  | giveBack ticket => rw [step, giveBack_eq]; exact sound.sorted
  | giveUp ticket => rw [step, giveUp_eq]; exact sound.sorted
  | letGo ticket => rw [step, letGo_eq]; exact sound.sorted
  | tidy ticket =>
      simp only [step, tidy, forget]
      split
      · split
        · split
          · split
            · exact sound.sorted
            · exact sound.sorted.erase _
          · exact sound.sorted
        · exact sound.sorted
      · exact sound.sorted
  | prune => exact List.Pairwise.filter _ sound.sorted

/-! Three of the steps change nothing about the claims but their stages. -/

section Stages

variable {β : Type} {read : Claim → β}
  (ignores : ∀ claim stage, read { claim with stage := stage } = read claim)

include ignores

theorem map_look (table : LockTable) (ticket : Nat) :
    (table.look ticket).claims.map read = table.claims.map read := by
  rw [look]
  split
  · split
    · exact map_withStage ignores ..
    · rfl
  · rfl

theorem map_giveBack (table : LockTable) (ticket : Nat) :
    (table.giveBack ticket).claims.map read = table.claims.map read := by
  rw [giveBack]
  split
  · split
    · rw [map_promote ignores, map_withStage ignores]
    · rfl
  · rfl

theorem map_giveUp (table : LockTable) (ticket : Nat) :
    (table.giveUp ticket).claims.map read = table.claims.map read := by
  simp only [giveUp]
  split
  · split
    · exact map_withStage ignores ..
    · split
      · rw [map_promote ignores, map_withStage ignores]
      · rfl
  · rfl

end Stages

theorem Sound.distinct_others (sound : Sound table) (ticket : Nat) :
    Distinct (table.others ticket) :=
  List.Pairwise.filter _ sound.distinct

theorem Sound.distinct_step (sound : Sound table) (step : LockStep) :
    Distinct (table.step step).claims := by
  cases step with
  | arrive session =>
      simp only [step, arrive, claims_enter, nextTicket_enter]
      refine List.pairwise_append.2 ⟨sound.distinct, List.pairwise_singleton _ _, ?_⟩
      intro claim member newcomer new
      have below := sound.issued claim member
      rw [List.mem_singleton.1 new]
      exact Nat.ne_of_lt below
  | ask ticket waits =>
      rw [step, ask]
      split
      · next claim found =>
          split
          · have same : claim.ticket = ticket := by simpa using List.find?_some found
            refine List.pairwise_append.2
              ⟨sound.distinct_others ticket, List.pairwise_singleton _ _, ?_⟩
            intro other member asker new
            rw [List.mem_singleton.1 new, same]
            simpa using (List.mem_filter.1 member).2
          · exact sound.distinct
      · exact sound.distinct
  | look ticket =>
      exact distinct_of_map_ticket (map_look (fun _ _ => rfl) table ticket).symm sound.distinct
  | giveBack ticket =>
      exact distinct_of_map_ticket (map_giveBack (fun _ _ => rfl) table ticket).symm sound.distinct
  | giveUp ticket =>
      exact distinct_of_map_ticket (map_giveUp (fun _ _ => rfl) table ticket).symm sound.distinct
  | letGo ticket =>
      rw [step, letGo]
      split
      · split
        · exact distinct_of_map_ticket (map_withStage (fun _ _ => rfl) ..).symm sound.distinct
        · split
          · exact sound.distinct_others ticket
          · exact sound.distinct
      · exact sound.distinct
  | tidy ticket =>
      rw [step, tidy]
      split
      · split
        · rw [claims_forget]
          exact sound.distinct_others ticket
        · exact sound.distinct
      · exact sound.distinct
  | prune => exact sound.distinct

/-- Every step keeps the table sound. -/
theorem Sound.step (sound : Sound table) (step : LockStep) : Sound (table.step step) where
  sorted := sound.sorted_step step
  distinct := sound.distinct_step step
  issued := by
    intro claim member
    have grows := (counters_step table step).1
    rcases sound.mem_step member with
      kept | ⟨old, stage, oldMember, -, same⟩ | ⟨came, ticket, -, -⟩
    · exact Nat.lt_of_lt_of_le (sound.issued claim kept) grows
    · subst same
      exact Nat.lt_of_lt_of_le (sound.issued old oldMember) grows
    · subst came
      rw [ticket]
      simp [LockTable.step, arrive]
  made := by
    intro key turnstile found
    rcases sound.tracked_step found with before | ⟨came, absent, new⟩
    · exact Nat.lt_of_lt_of_le (sound.made key turnstile before) (counters_step table step).2
    · subst came
      simp [LockTable.step, arrive, enter, absent, new]
  separate := by
    intro one two turnstile oneFound twoFound
    rcases sound.tracked_step oneFound with oneBefore | ⟨oneCame, -, oneNew⟩
    · rcases sound.tracked_step twoFound with twoBefore | ⟨-, -, twoNew⟩
      · exact sound.separate one two turnstile oneBefore twoBefore
      · exact absurd (sound.made one turnstile oneBefore) (by simp [twoNew])
    · rcases sound.tracked_step twoFound with twoBefore | ⟨twoCame, -, -⟩
      · exact absurd (sound.made two turnstile twoBefore) (by simp [oneNew])
      · exact LockStep.arrive.inj (oneCame.symm.trans twoCame)
  current := by
    intro claim member refers
    have used : (table.step step).isUsed claim.turnstile = true :=
      isUsed_iff.2 ⟨claim, member, rfl, refers⟩
    rcases sound.mem_step member with
      kept | ⟨old, stage, oldMember, advance, same⟩ | ⟨came, -, turnstile, -⟩
    · exact sound.tracked_kept (sound.current claim kept refers) used
    · subst same
      have oldRefers : old.refers := by simpa [Claim.refers] using advance.not_tidying
      exact sound.tracked_kept (sound.current old oldMember oldRefers) used
    · subst came
      rw [LockTable.step, find?_arrive, if_pos rfl, turnstile]
  single := by
    intro session
    have before := sound.single session
    cases sound.lineStep step session with
    | same holdersSame _ => rwa [holdersSame]
    | take _ _ holdersNow _ => simp [holdersNow]
    | join _ _ holdersSame _ => rwa [holdersSame]
    | leave _ _ _ holdersSame _ _ => rwa [holdersSame]
    | pass _ _ holdersNow _ =>
        rw [holdersNow]
        exact List.length_take_le 1 _
  busy := by
    intro session waited
    have before := sound.busy session
    cases sound.lineStep step session with
    | same holdersSame queueSame => rw [holdersSame]; exact before (queueSame ▸ waited)
    | take _ _ holdersNow _ => simp [holdersNow]
    | join _ somebody holdersSame _ => rwa [holdersSame]
    | leave _ _ _ holdersSame queueWas _ => rw [holdersSame]; exact before (by simp [queueWas])
    | pass _ _ holdersNow queueNow =>
        rw [queueNow] at waited
        rw [holdersNow]
        intro nobody
        cases line : table.queue session with
        | nil => simp [line] at waited
        | cons first rest => simp [line] at nobody

end Kept

/-! ### How claims go -/

section Departure

variable {table : LockTable} {claim : Claim}

/-- What identifies a claim and does not change. -/
private theorem exists_of_map_eq {changed : List Claim}
    (same : changed.map (fun claim => (claim.ticket, claim.session)) =
      table.claims.map fun claim => (claim.ticket, claim.session))
    (member : claim ∈ table.claims) :
    ∃ new ∈ changed, new.ticket = claim.ticket ∧ new.session = claim.session := by
  have listed : (claim.ticket, claim.session) ∈
      changed.map fun claim => (claim.ticket, claim.session) := by
    rw [same]
    exact List.mem_map.2 ⟨claim, member, rfl⟩
  obtain ⟨new, newMember, equal⟩ := List.mem_map.1 listed
  exact ⟨new, newMember, congrArg Prod.fst equal, congrArg Prod.snd equal⟩

/-- The claim found under a ticket is the only one there; the others are elsewhere. -/
theorem Sound.eq_or_mem_others (sound : Sound table) {ticket : Nat} {found : Claim}
    (isFound : table.claim? ticket = some found) (member : claim ∈ table.claims) :
    claim = found ∨ claim ∈ table.others ticket := by
  obtain ⟨before, after, split, -, -, othersEq, -⟩ := claim?_split sound.distinct isFound
  rw [split] at member
  rw [othersEq]
  rcases List.mem_append.1 member with early | late
  · exact .inr (List.mem_append_left _ early)
  · rcases List.mem_cons.1 late with here | later
    · exact .inl here
    · exact .inr (List.mem_append_right _ later)

/-- A claim outlives a step, but for the last step of one who leaves. -/
theorem Sound.survives (sound : Sound table) (step : LockStep) (member : claim ∈ table.claims) :
    (∃ new ∈ (table.step step).claims, new.ticket = claim.ticket ∧ new.session = claim.session) ∨
      (step = .letGo claim.ticket ∧ claim.stage = .leaving false) ∨
      (step = .tidy claim.ticket ∧ claim.stage = .tidying) := by
  have ticketOf : ∀ {ticket : Nat} {found : Claim}, table.claim? ticket = some found →
      found.ticket = ticket := fun found => by simpa using List.find?_some found
  cases step with
  | arrive session =>
      refine .inl ⟨claim, ?_, rfl, rfl⟩
      simp [LockTable.step, arrive, member]
  | ask ticket waits =>
      rw [LockTable.step, ask]
      split
      · next asker found =>
          split
          · rcases sound.eq_or_mem_others found member with here | elsewhere
            · exact .inl ⟨_, List.mem_append_right _ (List.mem_singleton_self _),
                here ▸ rfl, here ▸ rfl⟩
            · exact .inl ⟨claim, List.mem_append_left _ elsewhere, rfl, rfl⟩
          · exact .inl ⟨claim, member, rfl, rfl⟩
      · exact .inl ⟨claim, member, rfl, rfl⟩
  | look ticket => exact .inl (exists_of_map_eq (map_look (fun _ _ => rfl) table ticket) member)
  | giveBack ticket =>
      exact .inl (exists_of_map_eq (map_giveBack (fun _ _ => rfl) table ticket) member)
  | giveUp ticket =>
      exact .inl (exists_of_map_eq (map_giveUp (fun _ _ => rfl) table ticket) member)
  | letGo ticket =>
      rw [LockTable.step, letGo]
      split
      · next leaver found =>
          split
          · exact .inl (exists_of_map_eq (map_withStage (fun _ _ => rfl) ..) member)
          · split
            · next leaving =>
                rcases sound.eq_or_mem_others found member with here | elsewhere
                · subst here
                  exact .inr (.inl ⟨ticketOf found ▸ rfl, leaving⟩)
                · exact .inl ⟨claim, elsewhere, rfl, rfl⟩
            · exact .inl ⟨claim, member, rfl, rfl⟩
      · exact .inl ⟨claim, member, rfl, rfl⟩
  | tidy ticket =>
      rw [LockTable.step, tidy]
      split
      · next leaver found =>
          split
          · next tidying =>
              rw [claims_forget]
              rcases sound.eq_or_mem_others found member with here | elsewhere
              · subst here
                exact .inr (.inr ⟨ticketOf found ▸ rfl, tidying⟩)
              · exact .inl ⟨claim, elsewhere, rfl, rfl⟩
          · exact .inl ⟨claim, member, rfl, rfl⟩
      · exact .inl ⟨claim, member, rfl, rfl⟩
  | prune => exact .inl ⟨claim, member, rfl, rfl⟩

/-- If the last one there goes and the turnstile stays, it was one who had given up waiting. -/
theorem Sound.last_departure (sound : Sound table) {step : LockStep}
    (member : claim ∈ table.claims)
    (nobody : ∀ other ∈ (table.step step).claims, other.session ≠ claim.session)
    (tracked : find? (table.step step).tracked claim.session ≠ none) :
    step = .letGo claim.ticket ∧ claim.stage = .leaving false := by
  rcases sound.survives step member with ⟨new, newMember, -, same⟩ | gone | ⟨tidies, tidying⟩
  · exact absurd same (nobody new newMember)
  · exact gone
  · -- Who tidies up forgets a turnstile that nobody else refers to.
    subst tidies
    have found : table.claim? claim.ticket = some claim := by
      cases lookedUp : table.claim? claim.ticket with
      | none => exact absurd (List.find?_eq_none.1 lookedUp claim member) (by simp)
      | some other =>
          rcases sound.eq_or_mem_others lookedUp member with here | elsewhere
          · rw [here]
          · exact absurd (List.mem_filter.1 elsewhere).2 (by simp)
    have claimsEq : (table.step (.tidy claim.ticket)).claims = table.others claim.ticket := by
      simp [LockTable.step, tidy, found, tidying]
    have trackedEq : find? (table.step (.tidy claim.ticket)).tracked claim.session =
        (find? table.tracked claim.session).filter
          { table with claims := table.others claim.ticket }.isUsed := by
      simp [LockTable.step, tidy, found, tidying, find?_forget]
    rw [trackedEq] at tracked
    refine absurd (Option.filter_eq_none_iff.2 fun turnstile isTracked used => ?_) tracked
    obtain ⟨other, otherMember, sameTurnstile, refers⟩ := isUsed_iff.1 used
    have current := sound.current other (List.mem_filter.1 otherMember).1 refers
    rw [sameTurnstile] at current
    exact nobody other (claimsEq ▸ otherMember) (sound.separate _ _ _ current isTracked)

end Departure

end LockTable

end Parley
