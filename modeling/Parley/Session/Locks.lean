/-
Module: Parley.Session.Locks
Layer: Session
Purpose: One operation at a time on each session.  A session that someone holds or waits for has a
  turnstile; who comes while it is taken waits, and a permit that is given back goes to the one who
  has waited longest, even before they look.  Coming and leaving take several steps, and others may
  act between any two of them: whoever comes refers to the turnstile before asking for the permit,
  and whoever leaves gives the permit back before letting go of the turnstile.  A turnstile is
  forgotten when somebody has left and nobody refers to it any more; one that only an abandoned wait
  leaves behind stays until it is swept.
Main exports: Claim, LockTable, LockTable.arrive, LockTable.ask, LockTable.look, LockTable.giveBack,
  LockTable.giveUp, LockTable.letGo, LockTable.tidy, LockTable.prune, LockTable.acquire,
  LockTable.tryAcquire, LockTable.poll, LockTable.release, LockTable.abandon
-/
import Parley.Dictionary

namespace Parley

/-- How far a claim on a turnstile has come. -/
inductive ClaimStage where
  /-- The turnstile is referred to, the permit not yet asked for. -/
  | arriving
  /-- In the queue. -/
  | waiting
  /-- The permit is assigned, but who waited has not looked yet. -/
  | granted
  /-- The permit is held. -/
  | held
  /-- Neither in the queue nor with the permit, but the turnstile is still referred to.  Who leaves
  after holding the permit or being turned away will tidy up, who gave up waiting will not. -/
  | leaving (tidies : Bool)
  /-- The turnstile is no longer referred to, but not yet forgotten where nobody else is there. -/
  | tidying
deriving DecidableEq, Repr, Inhabited

/-- A holder of a turnstile, one who waits for it, or one who comes or leaves. -/
structure Claim where
  ticket : Nat
  session : String
  turnstile : Nat
  stage : ClaimStage
deriving DecidableEq, Repr, Inhabited

/-- Whether a claim has the permit. -/
def Claim.hasPermit (claim : Claim) : Bool :=
  claim.stage = .granted || claim.stage = .held

/-- Whether a claim still refers to its turnstile. -/
def Claim.refers (claim : Claim) : Bool := claim.stage ≠ .tidying

/-- The turnstiles of all sessions and the claims on them.  Those who wait stand in the order in
which they asked. -/
structure LockTable where
  /-- The turnstile of each tracked session. -/
  tracked : Dictionary Nat
  claims : List Claim
  nextTurnstile : Nat
  nextTicket : Nat
deriving DecidableEq, Repr, Inhabited

namespace LockTable

/-- No session is tracked. -/
def empty : LockTable :=
  { tracked := [], claims := [], nextTurnstile := 0, nextTicket := 0 }

/-- The number of tracked sessions. -/
def count (table : LockTable) : Nat := table.tracked.length

/-- Whether nobody has the permit of a turnstile. -/
def isFree (table : LockTable) (turnstile : Nat) : Bool :=
  table.claims.all fun claim => !(claim.turnstile = turnstile && claim.hasPermit)

/-- Whether somebody refers to a turnstile. -/
def isUsed (table : LockTable) (turnstile : Nat) : Bool :=
  table.claims.any fun claim => claim.turnstile = turnstile && claim.refers

/-- The claim with a ticket. -/
def claim? (table : LockTable) (ticket : Nat) : Option Claim :=
  table.claims.find? fun claim => claim.ticket = ticket

/-- The claims under other tickets. -/
def others (table : LockTable) (ticket : Nat) : List Claim :=
  table.claims.filter fun claim => claim.ticket ≠ ticket

/-- Claims with the one under a ticket at another stage. -/
def withStage (ticket : Nat) (stage : ClaimStage) (claims : List Claim) : List Claim :=
  claims.map fun claim => if claim.ticket = ticket then { claim with stage := stage } else claim

/-- Assign the permit of a turnstile to the first in its queue. -/
def promote (turnstile : Nat) : List Claim → List Claim
  | [] => []
  | claim :: claims =>
      if claim.turnstile = turnstile ∧ claim.stage = .waiting then
        { claim with stage := .granted } :: claims
      else claim :: promote turnstile claims

/-! ### Single steps

Each step is one action that others cannot interrupt.  A step for a ticket whose claim is not at the
stage for it changes nothing.
-/

/-- The turnstile of a session, made if there is none. -/
def enter (table : LockTable) (session : String) : Nat × LockTable :=
  match Dictionary.find? table.tracked session with
  | some turnstile => (turnstile, table)
  | none =>
      (table.nextTurnstile,
        { table with
          tracked := Dictionary.insert session table.nextTurnstile table.tracked
          nextTurnstile := table.nextTurnstile + 1 })

/-- Come to a session: refer to its turnstile under a new ticket. -/
def arrive (table : LockTable) (session : String) : Nat × LockTable :=
  let (turnstile, table) := table.enter session
  (table.nextTicket,
    { table with
      claims := table.claims ++
        [{ ticket := table.nextTicket, session := session, turnstile := turnstile
           stage := .arriving }]
      nextTicket := table.nextTicket + 1 })

/-- What becomes of one who asks for the permit, with or without waiting for it. -/
def stageAsked (isFree waits : Bool) : ClaimStage :=
  if isFree then .held else if waits then .waiting else .leaving true

/-- Ask for the permit, and queue for it or be turned away if somebody has it. -/
def ask (table : LockTable) (ticket : Nat) (waits : Bool) : LockTable :=
  match table.claim? ticket with
  | some claim =>
      if claim.stage = .arriving then
        let stage := stageAsked (table.isFree claim.turnstile) waits
        { table with claims := table.others ticket ++ [{ claim with stage := stage }] }
      else table
  | none => table

/-- Take an assigned permit. -/
def look (table : LockTable) (ticket : Nat) : LockTable :=
  match table.claim? ticket with
  | some claim =>
      if claim.stage = .granted then
        { table with claims := withStage ticket .held table.claims }
      else table
  | none => table

/-- Give a held permit back; it goes to the first in the queue. -/
def giveBack (table : LockTable) (ticket : Nat) : LockTable :=
  match table.claim? ticket with
  | some claim =>
      if claim.stage = .held then
        { table with
          claims := promote claim.turnstile (withStage ticket (.leaving true) table.claims) }
      else table
  | none => table

/-- Give up waiting; a permit that was assigned meanwhile goes to the next in the queue. -/
def giveUp (table : LockTable) (ticket : Nat) : LockTable :=
  match table.claim? ticket with
  | some claim =>
      let left := withStage ticket (.leaving false) table.claims
      if claim.stage = .waiting then { table with claims := left }
      else if claim.stage = .granted then
        { table with claims := promote claim.turnstile left }
      else table
  | none => table

/-- Let go of the turnstile. -/
def letGo (table : LockTable) (ticket : Nat) : LockTable :=
  match table.claim? ticket with
  | some claim =>
      if claim.stage = .leaving true then
        { table with claims := withStage ticket .tidying table.claims }
      else if claim.stage = .leaving false then { table with claims := table.others ticket }
      else table
  | none => table

/-- Forget the turnstile of a session if nobody refers to it. -/
def forget (table : LockTable) (session : String) : LockTable :=
  match Dictionary.find? table.tracked session with
  | some turnstile =>
      if table.isUsed turnstile then table
      else { table with tracked := Dictionary.erase table.tracked session }
  | none => table

/-- Forget the turnstile that was let go of if nobody refers to it, and be gone. -/
def tidy (table : LockTable) (ticket : Nat) : LockTable :=
  match table.claim? ticket with
  | some claim =>
      if claim.stage = .tidying then
        { table with claims := table.others ticket }.forget claim.session
      else table
  | none => table

/-- Forget all turnstiles that nobody refers to. -/
def prune (table : LockTable) : LockTable :=
  { table with tracked := table.tracked.filter fun entry => table.isUsed entry.2 }

/-! ### Whole operations -/

/-- Whether a ticket has the permit. -/
def holds (table : LockTable) (ticket : Nat) : Bool :=
  (table.claim? ticket).any Claim.hasPermit

/-- Take the permit of a session, or queue for it. -/
def acquire (table : LockTable) (session : String) : Nat × LockTable :=
  let (ticket, table) := table.arrive session
  (ticket, table.ask ticket true)

/-- Let go of a turnstile and tidy up. -/
def depart (table : LockTable) (ticket : Nat) : LockTable :=
  (table.letGo ticket).tidy ticket

/-- Take the permit of a session unless somebody has it. -/
def tryAcquire (table : LockTable) (session : String) : Option Nat × LockTable :=
  let (ticket, table) := table.arrive session
  let table := table.ask ticket false
  if table.holds ticket then (some ticket, table) else (none, table.depart ticket)

/-- Look at a claim: an assigned permit is taken.  Says whether the permit is held. -/
def poll (table : LockTable) (ticket : Nat) : Bool × LockTable :=
  (table.holds ticket, table.look ticket)

/-- Give a held permit back and leave. -/
def release (table : LockTable) (ticket : Nat) : LockTable :=
  (table.giveBack ticket).depart ticket

/-- Give up a claim before its permit is used.  One who waits gives up waiting; a permit that is held
already is given back. -/
def abandon (table : LockTable) (ticket : Nat) : LockTable :=
  ((table.giveUp ticket).giveBack ticket).depart ticket

/-- What is said to one who is turned away. -/
def busyMessage : String := "session is busy: an exchange is already in progress"

end LockTable

end Parley
