/-
Module: Parley.Transcript.Cut
Layer: Transcript
Purpose: Cutting a transcript at a position.  A cut may leave half a tool round at the end, so tool
  turns and turns that ask for tools are dropped from the end until it is neither.
Main exports: Transcript.dropDangling, Transcript.cutAt
-/
import Parley.Transcript.Protocol

namespace Parley.Transcript

/-- A turn that cannot end a transcript. -/
def isDangling (turn : Turn) : Bool :=
  turn.role = .tool || turn.asksForTools

/-- Drop the turns at the end that cannot end a transcript. -/
def dropDangling (turns : Transcript) : Transcript :=
  (turns.reverse.dropWhile isDangling).reverse

/-- Drop the turn at a position, counted from one, and everything after it, and then what dangles.
The number of dropped turns comes with the result. -/
def cutAt (turns : Transcript) (position : Nat) : Except LedgerFault (Transcript × Nat) :=
  if position = 0 ∨ turns.length < position then
    .error (.outside position turns.length)
  else
    let kept := dropDangling (turns.take (position - 1))
    .ok (kept, turns.length - kept.length)

end Parley.Transcript
