/-
Module: Parley.Text.Ranges
Layer: Text
Purpose: Character properties given as tables of code-point ranges, and the test whether a
  character lies in one of them.
Main exports: Ranges, Ranges.holds
-/

namespace Parley

/-- Code-point ranges, both ends included, in increasing order. -/
abbrev Ranges : Type := Array (Nat × Nat)

namespace Ranges

/-- Look for a code point between two positions of a table, halving the distance at each step. -/
def search (table : Ranges) (code : Nat) : (fuel lower upper : Nat) → Bool
  | 0, _, _ => false
  | fuel + 1, lower, upper =>
      if lower < upper then
        let middle := (lower + upper) / 2
        match table[middle]? with
        | none => false
        | some (first, last) =>
            if code < first then search table code fuel lower middle
            else if last < code then search table code fuel (middle + 1) upper
            else true
      else false

/-- Whether a character lies in one of the ranges. -/
def holds (table : Ranges) (c : Char) : Bool :=
  search table c.toNat (table.size + 1) 0 table.size

end Ranges

end Parley
