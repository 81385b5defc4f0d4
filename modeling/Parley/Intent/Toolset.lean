/-
Module: Parley.Intent.Toolset
Layer: Intent
Purpose: Intents, the catalog of all intents known, and the toolset of an exchange: the intents that
  may be called in it, all of the catalog or a subset.  An intent has a fingerprint, so that results
  can be tied to one version of it.
Main exports: Intent, Intent.fingerprint, Catalog, Catalog.register, Catalog.toolset, Toolset,
  ToolDefinition
-/
import Parley.Digest.Sha256
import Parley.Intent.Shape

namespace Parley

variable {η : Type}

/-- A callable with declared arguments.  What runs when it is called is known to the surroundings
only; `handler` says which of their handlers it is. -/
structure Intent (η : Type) where
  code : String
  description : List String
  shape : Shape
  handler : η
deriving DecidableEq, Inhabited

/-- The description of a tool for the model. -/
structure ToolDefinition where
  name : String
  description : String
  parameters : Json

namespace Intent

/-- The lines of the description as one text. -/
def descriptionText (intent : Intent η) : String :=
  "\n".intercalate intent.description

/-- The definition of an intent as a tool. -/
def definition (intent : Intent η) : ToolDefinition :=
  { name := intent.code
    description := intent.descriptionText
    parameters := intent.shape.schema }

/-- What is digested of a field. -/
def fieldMark (field : Field) : String :=
  "\x00field\x00" ++ field.key ++ "\x00" ++ field.type.name ++
    (if field.required then "\x00required\x00" else "\x00optional\x00") ++ field.description

/-- Put a field before the first one with a greater key. -/
def placeField (field : Field) : List Field → List Field
  | [] => [field]
  | other :: fields =>
      if field.key < other.key then field :: other :: fields
      else other :: placeField field fields

/-- The fields in key order; fields with one key stay in order of declaration. -/
def fieldsByKey (fields : List Field) : List Field :=
  fields.foldl (fun sorted field => placeField field sorted) []

/-- What is digested of an intent: its code, the lines of its description and its fields by key. -/
def stream (intent : Intent η) : String :=
  "code\x00" ++ intent.code ++
    String.join (intent.description.map fun line => "\x00desc\x00" ++ line) ++
    String.join ((fieldsByKey intent.shape.fields).map fieldMark)

/-- The fingerprint of an intent. -/
def fingerprint (intent : Intent η) : String :=
  Sha256.hex (Sha256.digest intent.stream.toUTF8.toList)

end Intent

/-- The intents that may be called in an exchange, by code, with their fingerprints. -/
structure Toolset (η : Type) where
  intents : Dictionary (Intent η)
  fingerprints : Dictionary String
  names : List String

namespace Toolset

/-- The toolset of a list of intents; of two with one code the later counts. -/
def ofIntents (intents : List (Intent η)) : Toolset η :=
  let table := Dictionary.ofList (intents.map fun intent => (intent.code, intent))
  { intents := table
    fingerprints := table.map fun entry => (entry.1, entry.2.fingerprint)
    names := table.keys }

/-- The intent with a code. -/
def find? (tools : Toolset η) (code : String) : Option (Intent η) :=
  Dictionary.find? tools.intents code

/-- The fingerprint of the intent with a code. -/
def fingerprint? (tools : Toolset η) (code : String) : Option String :=
  Dictionary.find? tools.fingerprints code

/-- The tools as the model is told about them, in name order. -/
def definitions (tools : Toolset η) : List ToolDefinition :=
  tools.intents.map fun entry => entry.2.definition

end Toolset

/-- All intents known, by code. -/
abbrev Catalog (η : Type) : Type := Dictionary (Intent η)

namespace Catalog

/-- Register an intent, unless its code is taken; says whether it was registered. -/
def register (catalog : Catalog η) (intent : Intent η) : Catalog η × Bool :=
  if Dictionary.has catalog intent.code then (catalog, false)
  else (Dictionary.insert intent.code intent catalog, true)

/-- The catalog of a list of intents, registered one after another. -/
def ofIntents (intents : List (Intent η)) : Catalog η :=
  intents.foldl (fun catalog intent => (register catalog intent).1) []

/-- The toolset of the catalog or of a subset of it; unknown codes are passed over. -/
def toolset (catalog : Catalog η) : Option (List String) → Toolset η
  | none => Toolset.ofIntents (catalog.map (·.2))
  | some codes => Toolset.ofIntents (codes.filterMap (Dictionary.find? catalog))

end Catalog

end Parley
