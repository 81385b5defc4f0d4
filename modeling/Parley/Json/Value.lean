/-
Module: Parley.Json.Value
Layer: Json
Purpose: Free-form JSON values: arguments, results, parameters and payloads.  Integers and floats
  are different values even where they are equal as numbers; an object is a table in key order.
Main exports: Json, Json.Object, Json.Kind, Json.kind, Json.same
-/
import Parley.Dictionary
import Parley.Number.Binary64

namespace Parley

/-- A JSON value.  The fields of an object stand in strictly increasing key order; integers are
those that fit 64 bits, signed or not. -/
inductive Json where
  | null
  | bool (value : Bool)
  | int (value : Int)
  | float (value : Binary64)
  | str (value : String)
  | arr (items : List Json)
  | obj (fields : List (String × Json))

namespace Json

/-- The fields of an object. -/
abbrev Object : Type := Dictionary Json

instance : Inhabited Json := ⟨.null⟩

/-- The six kinds of value that messages and comparisons tell apart. -/
inductive Kind where
  | null
  | boolean
  | number
  | string
  | array
  | object
deriving DecidableEq, Repr, Inhabited

/-- The kind of a value. -/
def kind : Json → Kind
  | .null => .null
  | .bool _ => .boolean
  | .int _ => .number
  | .float _ => .number
  | .str _ => .string
  | .arr _ => .array
  | .obj _ => .object

/-- A field of an object; values of other kinds have none. -/
def field? : Json → String → Option Json
  | .obj fields, key => Dictionary.find? fields key
  | _, _ => none

/-- The value is `null`. -/
def isNull : Json → Bool
  | .null => true
  | _ => false

mutual

/-- Equality of values.  Floats are compared as numbers, so both zeros are the same; an integer is
never the same as a float. -/
def same : Json → Json → Bool
  | .null, .null => true
  | .bool one, .bool two => one == two
  | .int one, .int two => one == two
  | .float one, .float two => one.sameValue two
  | .str one, .str two => one == two
  | .arr one, .arr two => sameItems one two
  | .obj one, .obj two => sameFields one two
  | _, _ => false

/-- `same` item by item. -/
def sameItems : List Json → List Json → Bool
  | [], [] => true
  | one :: ones, two :: twos => same one two && sameItems ones twos
  | _, _ => false

/-- `same` field by field, in key order. -/
def sameFields : List (String × Json) → List (String × Json) → Bool
  | [], [] => true
  | (name, one) :: ones, (other, two) :: twos =>
      name == other && same one two && sameFields ones twos
  | _, _ => false

end

mutual

/-- A value is the same as itself. -/
theorem same_refl : ∀ value : Json, same value value = true
  | .null => rfl
  | .bool _ => by simp [same]
  | .int _ => by simp [same]
  | .float value => by simp [same, Binary64.sameValue_refl value]
  | .str _ => by simp [same]
  | .arr items => by simp [same, sameItems_refl items]
  | .obj fields => by simp [same, sameFields_refl fields]

theorem sameItems_refl : ∀ items : List Json, sameItems items items = true
  | [] => rfl
  | item :: items => by simp [sameItems, same_refl item, sameItems_refl items]

theorem sameFields_refl : ∀ fields : List (String × Json), sameFields fields fields = true
  | [] => rfl
  | (name, value) :: fields => by simp [sameFields, same_refl value, sameFields_refl fields]

end

end Json

end Parley
