/-
Module: Parley.Intent.Shape
Layer: Intent
Purpose: The declared arguments of an intent: an ordered list of fields, each with a type.  A shape
  is shown to the model as a schema.
Main exports: FieldType, Field, Shape, Shape.declare, Shape.schema, Shape.chars, Shape.ofText?
-/
import Parley.Json.Printer
import Parley.Json.Record

namespace Parley

/-- The types a field may have. -/
inductive FieldType where
  | string
  | integer
  | number
  | boolean
  | array
  | object
deriving DecidableEq, Repr, Inhabited

/-- The name of a type. -/
def FieldType.name : FieldType → String
  | .string => "string"
  | .integer => "integer"
  | .number => "number"
  | .boolean => "boolean"
  | .array => "array"
  | .object => "object"

/-- Different types have different names. -/
theorem FieldType.name_inj {type other : FieldType} (same : type.name = other.name) :
    type = other := by
  revert same
  cases type <;> cases other <;> decide

/-- The types by name. -/
def FieldType.names : List (String × FieldType) :=
  [("string", .string), ("integer", .integer), ("number", .number), ("boolean", .boolean),
    ("array", .array), ("object", .object)]

/-- One declared argument. -/
structure Field where
  key : String
  type : FieldType
  required : Bool
  description : String
deriving DecidableEq, Repr, Inhabited

/-- The declared arguments, in order of declaration. -/
structure Shape where
  fields : List Field
deriving DecidableEq, Repr, Inhabited

namespace Shape

/-- The shape without fields. -/
def empty : Shape := ⟨[]⟩

/-- Declare a field.  An earlier field with the same key is dropped, so the new one comes last. -/
def declare (shape : Shape) (field : Field) : Shape :=
  ⟨shape.fields.filter (fun other => !decide (other.key = field.key)) ++ [field]⟩

/-- The shape of a list of declarations. -/
def ofFields (fields : List Field) : Shape :=
  fields.foldl declare empty

/-- The first field with a key. -/
def field? (shape : Shape) (key : String) : Option Field :=
  shape.fields.find? fun field => field.key = key

/-- The keys in order of declaration. -/
def keys (shape : Shape) : List String := shape.fields.map (·.key)

/-- What the schema says about one field. -/
def property (field : Field) : Json :=
  let described := if field.description.isEmpty then []
    else [("description", Json.str field.description)]
  .obj (described ++ [("type", .str field.type.name)])

/-- The schema of a shape: the type of each field by key, and the keys that are required. -/
def schema (shape : Shape) : Json :=
  let properties := shape.fields.foldl
    (fun table field => Dictionary.insert field.key (property field) table) []
  let required := (shape.fields.filter (·.required)).map fun field => Json.str field.key
  .obj [("properties", .obj properties), ("required", .arr required), ("type", .str "object")]

end Shape

/-! ### Written form -/

/-- The written form of a field. -/
def Field.chars (field : Field) : List Char :=
  Json.recordChars
    [("json_key", Json.quoted field.key), ("param_type", Json.quoted field.type.name),
      ("required", (Json.bool field.required).chars),
      ("description", Json.quoted field.description)]

/-- Reads a field.  Only the description has a default. -/
def Field.decoder : Json.Decoder Field := fun depth document => do
  let members ← Json.members? .json ["json_key", "param_type", "required", "description"] depth
    document
  let key ← members.required "json_key" Json.Decoder.text
  let type ← members.required "param_type"
    (Json.Decoder.choice .json FieldType.names)
  let required ← members.required "required" Json.Decoder.bool
  let description ← members.withDefault "description" "" Json.Decoder.text
  pure { key := key, type := type, required := required, description := description }

namespace Shape

/-- The written form of a shape. -/
def chars (shape : Shape) : List Char :=
  Json.recordChars [("fields", Json.listChars (shape.fields.map Field.chars))]

/-- The written form of a shape as text. -/
def text (shape : Shape) : String := String.ofList shape.chars

/-- Reads a shape.  Repeated keys are kept as they are written. -/
def decoder : Json.Decoder Shape := fun depth document => do
  let members ← Json.members? .json ["fields"] depth document
  let fields ← members.required "fields" (Json.Decoder.list Field.decoder)
  pure ⟨fields⟩

/-- The shape a text spells. -/
def ofText? (text : String) : Option Shape := Json.decode? decoder text

end Shape

end Parley
