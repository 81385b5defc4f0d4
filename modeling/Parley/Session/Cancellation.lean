/-
Module: Parley.Session.Cancellation
Layer: Session
Purpose: Tokens by which running exchanges are told to stop, at most one registered for a session.
Main exports: CancelTable, CancelTable.register, CancelTable.cancel, CancelTable.remove,
  CancelTable.isTripped
-/
import Parley.Dictionary

namespace Parley

/-- Tokens, by number, and the sessions for which one is registered. -/
structure CancelTable where
  registered : Dictionary Nat
  tripped : List Nat
  next : Nat
deriving DecidableEq, Repr, Inhabited

namespace CancelTable

/-- No token. -/
def empty : CancelTable := { registered := [], tripped := [], next := 0 }

/-- A new token. -/
def fresh (table : CancelTable) : Nat × CancelTable :=
  (table.next, { table with next := table.next + 1 })

/-- A new token, registered for a session in place of an earlier one. -/
def register (table : CancelTable) (session : String) : Nat × CancelTable :=
  let (token, table) := table.fresh
  (token, { table with registered := Dictionary.insert session token table.registered })

/-- Trip a token. -/
def trip (table : CancelTable) (token : Nat) : CancelTable :=
  { table with tripped := token :: table.tripped }

/-- Whether a token is tripped. -/
def isTripped (table : CancelTable) (token : Nat) : Bool :=
  table.tripped.contains token

/-- Trip the token of a session; says whether one was registered. -/
def cancel (table : CancelTable) (session : String) : Bool × CancelTable :=
  match Dictionary.find? table.registered session with
  | some token => (true, table.trip token)
  | none => (false, table)

/-- Forget the token of a session. -/
def remove (table : CancelTable) (session : String) : CancelTable :=
  { table with registered := Dictionary.erase table.registered session }

/-- Whether a token is registered for a session. -/
def isRunning (table : CancelTable) (session : String) : Bool :=
  Dictionary.has table.registered session

end CancelTable

end Parley
