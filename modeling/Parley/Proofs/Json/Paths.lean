/-
Module: Parley.Proofs.Json.Paths
Layer: Proofs
Purpose: The parts of a value by the path that leads to them, which is a list of steps from lists to
  their items and from records to their fields.
Main exports: Json.Step, Json.child?, Json.at?, Json.at?_concat
-/
import Parley.Json.Value

namespace Parley.Json

/-- A step from a list to one of its items, or from a record to what stands under a key. -/
inductive Step where
  | item (index : Nat)
  | field (key : String)
deriving DecidableEq, Repr

/-- The part of a value one step inside it. -/
def child? : Json → Step → Option Json
  | .arr items, .item index => items[index]?
  | .obj fields, .field key => Dictionary.find? fields key
  | _, _ => none

/-- The part of a value at the end of a path. -/
def at? (value : Json) : List Step → Option Json
  | [] => some value
  | step :: path => (value.child? step).bind fun part => part.at? path

/-- The last step of a path is taken from the end of the path before it. -/
theorem at?_concat (value : Json) (path : List Step) (step : Step) :
    value.at? (path ++ [step]) = (value.at? path).bind fun part => part.child? step := by
  induction path generalizing value with
  | nil => simp [at?]
  | cons first path ih =>
      rw [List.cons_append, at?, at?, Option.bind_assoc]
      exact Option.bind_congr fun part _ => ih part

end Parley.Json
