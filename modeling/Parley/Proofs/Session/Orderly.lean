/-
Module: Parley.Proofs.Session.Orderly
Layer: Proofs
Purpose: What may be relied on at the turnstile of a session, whatever steps any number of tasks have
  taken on the locks, in any order.  A free permit goes to whoever asks; one that is given back, or
  given up before it was used, goes to the one who has waited longest, whom nobody overtakes.  A
  turnstile is tracked as long as somebody refers to it, and after that only if an abandoned wait
  left it behind.
Main exports: LockTable.Orderly, LockTable.after_orderly
-/
import Parley.Proofs.Session.Permits

namespace Parley.LockTable

open Dictionary (find?)

/-- Order at a session after some steps: who has the permit, who waits for it, and what each further
step makes of them. -/
structure Orderly (steps : List LockStep) (session : String) : Prop where
  /-- At most one has the permit. -/
  single : ((after steps).holders session).length ≤ 1
  /-- Whoever comes, waits, holds or has not let go yet refers to the turnstile that is tracked. -/
  current : ∀ claim ∈ (after steps).claims, claim.session = session → claim.refers →
    find? (after steps).tracked session = some claim.turnstile
  /-- Nobody waits for a free permit. -/
  busy : (after steps).queue session ≠ [] → (after steps).holders session ≠ []
  /-- Who comes is there, under a ticket that nobody else has. -/
  arrived : ∃ claim ∈ (after (steps ++ [.arrive session])).claims,
    claim.ticket = (after steps).nextTicket ∧ claim.session = session ∧ claim.stage = .arriving ∧
      ∀ other ∈ (after steps).claims, other.ticket ≠ claim.ticket
  /-- Who asks has the permit if it is free; else they come to the end of the queue, or are turned
  away if they will not wait. -/
  asked : ∀ claim ∈ (after steps).claims, claim.session = session → claim.stage = .arriving →
    ∀ waits, if (after steps).holders session = [] then
      (after (steps ++ [.ask claim.ticket waits])).holders session = [claim.ticket] ∧
        (after (steps ++ [.ask claim.ticket waits])).queue session = []
    else
      (after (steps ++ [.ask claim.ticket waits])).holders session = (after steps).holders session ∧
        (after (steps ++ [.ask claim.ticket waits])).queue session =
          (after steps).queue session ++ if waits then [claim.ticket] else []
  /-- While the permit is taken, nobody gets it by asking. -/
  notOvertaken : ∀ ticket waits, (after steps).holders session ≠ [] →
    (after (steps ++ [.ask ticket waits])).holders session = (after steps).holders session
  /-- Whoever has the permit and looks for it holds it. -/
  taken : ∀ claim ∈ (after steps).claims, claim.session = session → claim.hasPermit →
    { claim with stage := .held } ∈ (after (steps ++ [.look claim.ticket])).claims
  /-- A permit that is given back goes to the one who has waited longest. -/
  givenBack : ∀ claim ∈ (after steps).claims, claim.session = session → claim.stage = .held →
    (after steps).holders session = [claim.ticket] ∧
      (after (steps ++ [.giveBack claim.ticket])).holders session =
        ((after steps).queue session).take 1 ∧
      (after (steps ++ [.giveBack claim.ticket])).queue session =
        ((after steps).queue session).drop 1
  /-- So does one that was assigned, if who waited for it gives up. -/
  givenUp : ∀ claim ∈ (after steps).claims, claim.session = session → claim.stage = .granted →
    (after steps).holders session = [claim.ticket] ∧
      (after (steps ++ [.giveUp claim.ticket])).holders session =
        ((after steps).queue session).take 1 ∧
      (after (steps ++ [.giveUp claim.ticket])).queue session =
        ((after steps).queue session).drop 1
  /-- Who gives up before that leaves the queue. -/
  left : ∀ claim ∈ (after steps).claims, claim.session = session → claim.stage = .waiting →
    (after (steps ++ [.giveUp claim.ticket])).holders session = (after steps).holders session ∧
      (after (steps ++ [.giveUp claim.ticket])).queue session =
        ((after steps).queue session).erase claim.ticket
  /-- However somebody loses the permit, it goes to the one who has waited longest. -/
  passedOn : ∀ step, ∀ ticket ∈ (after steps).holders session,
    ticket ∉ (after (steps ++ [step])).holders session →
      (after (steps ++ [step])).holders session = ((after steps).queue session).take 1 ∧
        (after (steps ++ [step])).queue session = ((after steps).queue session).drop 1
  /-- Nobody else leaves the queue but with the permit. -/
  waited : ∀ step, ∀ ticket ∈ (after steps).queue session,
    ticket ∉ (after (steps ++ [step])).queue session →
      step = .giveUp ticket ∨ (after (steps ++ [step])).holders session = [ticket]
  /-- Whatever follows, those who wait keep their order, and newcomers stand behind them. -/
  inTurn : ∀ more, ∃ stay come, (after (steps ++ more)).queue session = stay ++ come ∧
    stay.Sublist ((after steps).queue session) ∧ ∀ ticket ∈ come, .ask ticket true ∈ more
  /-- Who lets go of the turnstile does not refer to it any more. -/
  letGo : ∀ claim ∈ (after steps).claims, claim.session = session →
    ∀ tidies, claim.stage = .leaving tidies →
      ∀ other ∈ (after (steps ++ [.letGo claim.ticket])).claims, other.ticket = claim.ticket →
        other.refers = false
  /-- Who then tidies up is gone, and the turnstile is forgotten if nobody refers to it. -/
  tidied : ∀ claim ∈ (after steps).claims, claim.session = session → claim.stage = .tidying →
    (after (steps ++ [.tidy claim.ticket])).claims = (after steps).others claim.ticket ∧
      find? (after (steps ++ [.tidy claim.ticket])).tracked session =
        if ∃ other ∈ (after steps).others claim.ticket, other.session = session ∧ other.refers then
          find? (after steps).tracked session
        else none
  /-- A session that is tracked while nobody holds the permit or waits for it is one to which
  somebody is coming or which somebody is leaving, or an abandoned wait left it behind and nobody
  has come since. -/
  leftBehind : find? (after steps).tracked session ≠ none →
    (after steps).holders session = [] → (after steps).queue session = [] →
      (∃ claim ∈ (after steps).claims, claim.session = session ∧
        claim.stage ∈ [.arriving, .leaving true, .leaving false, .tidying]) ∨
      ∃ before ticket since, steps = before ++ .letGo ticket :: since ∧
        AbandonedWait before session ticket ∧
        ∀ early, early <+: since → ∀ claim ∈ (after (before ++ .letGo ticket :: early)).claims,
          claim.session ≠ session
  /-- A sweep changes nobody's claim and forgets exactly the turnstiles that nobody refers to. -/
  swept : (after (steps ++ [.prune])).claims = (after steps).claims ∧
    find? (after (steps ++ [.prune])).tracked session =
      if ∃ claim ∈ (after steps).claims, claim.session = session ∧ claim.refers then
        find? (after steps).tracked session
      else none

/-- Where nobody holds or waits, somebody comes or leaves, or an abandoned wait left the session
behind. -/
theorem leftBehind_after {steps : List LockStep} {session : String}
    (tracked : find? (after steps).tracked session ≠ none)
    (unheld : (after steps).holders session = []) (unqueued : (after steps).queue session = []) :
    (∃ claim ∈ (after steps).claims, claim.session = session ∧
        claim.stage ∈ [.arriving, .leaving true, .leaving false, .tidying]) ∨
      ∃ before ticket since, steps = before ++ .letGo ticket :: since ∧
        AbandonedWait before session ticket ∧
        ∀ early, early <+: since → ∀ claim ∈ (after (before ++ .letGo ticket :: early)).claims,
          claim.session ≠ session := by
  by_cases somebody : ∃ claim ∈ (after steps).claims, claim.session = session
  · obtain ⟨claim, member, same⟩ := somebody
    subst same
    exact .inl ⟨claim, member, rfl, stage_of_idle member unheld unqueued⟩
  · have nobody : ∀ claim ∈ (after steps).claims, claim.session ≠ session :=
      fun claim member same => somebody ⟨claim, member, same⟩
    exact .inr (after_leftover tracked nobody)

/-- Whatever steps tasks have taken on the locks, and in whatever order, there is order at every
session. -/
theorem after_orderly (steps : List LockStep) (session : String) : Orderly steps session := by
  have sound := sound_after steps
  have stepEq : ∀ step, after (steps ++ [step]) = (after steps).step step := by simp
  constructor
  case single => exact sound.single session
  case current =>
    rintro claim member rfl refers
    exact sound.current claim member refers
  case busy => exact sound.busy session
  case arrived =>
    rw [stepEq]
    exact sound.mem_arrived session
  case asked =>
    rintro claim member rfl arriving waits
    rw [stepEq]
    exact sound.line_ask member arriving waits
  case notOvertaken =>
    intro ticket waits taken
    rw [stepEq]
    exact (sound.no_overtaking taken ticket waits).1
  case taken =>
    rintro claim member rfl has
    rw [stepEq]
    exact sound.mem_look member has
  case givenBack =>
    rintro claim member rfl held
    rw [stepEq]
    exact sound.line_giveBack member held
  case givenUp =>
    rintro claim member rfl granted
    rw [stepEq]
    exact sound.line_giveUp member granted
  case left =>
    rintro claim member rfl waiting
    rw [stepEq]
    exact sound.line_quit member waiting
  case passedOn =>
    intro step ticket had lost
    rw [stepEq] at lost ⊢
    exact sound.passes_on had lost
  case waited =>
    intro step ticket waited gone
    rw [stepEq] at gone ⊢
    exact sound.leaves_queue waited gone
  case inTurn =>
    intro more
    rw [after_append]
    exact sound.queue_run more session
  case letGo =>
    rintro claim member rfl tidies leaving
    rw [stepEq]
    exact sound.letGo_refers member leaving
  case tidied =>
    rintro claim member rfl tidying
    rw [stepEq]
    exact sound.tidied member tidying
  case leftBehind => exact leftBehind_after
  case swept =>
    rw [stepEq]
    exact ⟨rfl, sound.find?_swept session⟩

/-! ### One holds, two wait -/

section Handover

/-- Three come to one session, and all of them would wait. -/
def crowded : List LockStep :=
  [.arrive "hall", .ask 0 true, .arrive "hall", .ask 1 true, .arrive "hall", .ask 2 true]

/-- When the first gives the permit back, the second has it and the third waits on. -/
theorem after_orderly_crowded :
    Orderly crowded "hall" ∧ (after crowded).holders "hall" = [0] ∧
      (after crowded).queue "hall" = [1, 2] ∧
      (after (crowded ++ [.giveBack 0])).holders "hall" = [1] ∧
      (after (crowded ++ [.giveBack 0])).queue "hall" = [2] := by
  have orderly := after_orderly crowded "hall"
  have waits : (after crowded).queue "hall" = [1, 2] := by decide
  obtain ⟨had, goes, stays⟩ := orderly.givenBack
    { ticket := 0, session := "hall", turnstile := 0, stage := .held } (by decide) rfl rfl
  rw [waits] at goes stays
  exact ⟨orderly, had, waits, goes, stays⟩

end Handover

end Parley.LockTable
