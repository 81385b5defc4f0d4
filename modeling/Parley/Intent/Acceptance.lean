/-
Module: Parley.Intent.Acceptance
Layer: Intent
Purpose: From the text a model wrote to the arguments an intent takes.  Declared fields are taken in
  order, each at its type; a truth value may be written as a word or as one or zero, an integer as a
  float without fraction.  Fields that are not declared are dropped, and null counts as absent.
Main exports: FieldType.accept?, Shape.accept
-/
import Parley.Intent.CallError
import Parley.Intent.Shape
import Parley.Text.Blank

namespace Parley

/-- The lower-case form of the ASCII letters; other characters stay. -/
def asciiLower (c : Char) : Char :=
  if 'A' ≤ c ∧ c ≤ 'Z' then Char.ofNat (c.toNat + 32) else c

/-- The truth value of a word, white space around it and case of letters aside. -/
def truthOfWord? (word : String) : Option Bool :=
  let plain := String.ofList ((Text.trimChars word.toList).map asciiLower)
  if ["true", "1", "yes", "y"].contains plain then some true
  else if ["false", "0", "no", "n"].contains plain then some false
  else none

/-- The truth value of one and zero. -/
def truthOfNumber? (n : Int) : Option Bool :=
  if n = 1 then some true else if n = 0 then some false else none

/-- The truth value a value stands for. -/
def Json.truth? : Json → Option Bool
  | .bool value => some value
  | .str word => truthOfWord? word
  | .int n => truthOfNumber? n
  | .float x => x.toInt?.bind truthOfNumber?
  | _ => none

/-- The integer a number stands for: itself, or a float without fraction among the integers of 64
bits with a sign. -/
def Json.integer? : Json → Option Int
  | .int n => some n
  | .float x => x.toInt?.filter fun n => -Int.pow 2 63 ≤ n ∧ n < Int.pow 2 63
  | _ => none

/-- The value a field of a type takes, if the given value can be used at that type. -/
def FieldType.accept? : FieldType → Json → Option Json
  | .boolean, value => value.truth?.map .bool
  | .integer, value => value.integer?.map .int
  | .string, value => if value.kind = .string then some value else none
  | .number, value => if value.kind = .number then some value else none
  | .array, value => if value.kind = .array then some value else none
  | .object, value => if value.kind = .object then some value else none

/-- The kind of a value with its article. -/
def Json.Kind.withArticle : Json.Kind → String
  | .null => "null"
  | .boolean => "a boolean"
  | .number => "a number"
  | .string => "a string"
  | .array => "an array"
  | .object => "an object"

/-- Why a value cannot be used for a field. -/
def Field.refusal (intent : String) (field : Field) (value : Json) : CallError :=
  match field.type with
  | .boolean => .invalidArgumentType intent field.key ("expected a boolean, got " ++ value.render)
  | type =>
      .invalidArguments intent
        ("field \x60" ++ field.key ++ "\x60 must be of type " ++ type.name)

/-- Why a field that is absent cannot be. -/
def Field.missing (intent : String) (field : Field) : CallError :=
  .invalidArguments intent ("missing required field \x60" ++ field.key ++ "\x60")

/-- Take the fields one after another out of the given object. -/
def takeFields (intent : String) (given taken : Json.Object) :
    List Field → Except CallError Json.Object
  | [] => .ok taken
  | field :: fields =>
      let rest := Dictionary.erase given field.key
      let value := (Dictionary.find? given field.key).getD .null
      if value.isNull then
        if field.required then .error (field.missing intent)
        else takeFields intent rest taken fields
      else
        match field.type.accept? value with
        | some accepted =>
            takeFields intent rest (Dictionary.insert field.key accepted taken) fields
        | none => .error (field.refusal intent value)

/-- The arguments of an intent as written by the model.  The details of a syntax error in them are
those that the reader of JSON gives. -/
def Shape.accept (details : String → String) (shape : Shape) (intent arguments : String) :
    Except CallError Json.Object :=
  match Json.parse? arguments with
  | none =>
      .error (.invalidArguments intent ("arguments are not valid JSON: " ++ details arguments))
  | some (.obj given) => takeFields intent given [] shape.fields
  | some other => .error (.invalidArgumentFormat intent ("got " ++ other.kind.withArticle))

end Parley
