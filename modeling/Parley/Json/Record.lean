/-
Module: Parley.Json.Record
Layer: Json
Purpose: Reading typed values off a document.  A record may be written with its members by name,
  where unknown names are passed over and a known name may occur once, or as the list of its members
  in declaration order, where the last ones may be missing.  A member that is missing takes its
  default or makes the record unreadable.  Written formats differ in two details of this, which make
  up a dialect.
Main exports: Json.Dialect, Json.Decoder, Json.Decoder.text, Json.Decoder.natural,
  Json.Decoder.choice, Json.Members, Json.members?, Json.decode?
-/
import Parley.Json.Document

namespace Parley.Json

/-- The details in which written formats differ. -/
structure Dialect where
  /-- The value that stands beside the name where a choice is written as a record. -/
  isBare : Document → Bool
  /-- Whether a record written as a list may go on after its last member. -/
  hasSpareItems : Bool

/-- In JSON the bare value is null, and a list ends with the last member. -/
def Dialect.json : Dialect where
  isBare := fun document =>
    match document with
    | .null => true
    | _ => false
  hasSpareItems := false

/-- Reads a value off a document in which `depth` more lists and records may be nested. -/
abbrev Decoder (α : Type) : Type := (depth : Nat) → Document → Option α

namespace Decoder

variable {α : Type}

/-- Text. -/
def text : Decoder String := fun _ document =>
  match document with
  | .text value? => value?
  | _ => none

/-- A truth value. -/
def bool : Decoder Bool := fun _ document =>
  match document with
  | .bool value => some value
  | _ => none

/-- A natural number of 64 bits, written as an integer. -/
def natural : Decoder Nat := fun _ document =>
  match document with
  | .number (some (.int value)) =>
      if 0 ≤ value ∧ value < Int.pow 2 64 then some value.toNat else none
  | _ => none

/-- A value of any form. -/
def free : Decoder Json := Document.value?

/-- A value or nothing, which is written as null. -/
def optional (inner : Decoder α) : Decoder (Option α) := fun depth document =>
  match document with
  | .null => some none
  | other => (inner depth other).map some

/-- A list of values. -/
def list (inner : Decoder α) : Decoder (List α) := fun depth document =>
  match depth, document with
  | depth + 1, .list items => items.mapM (inner depth)
  | _, _ => none

/-- One of several names.  A name may also be written as a record with that one member, whose
value is bare. -/
def choice (dialect : Dialect) (names : List (String × α)) : Decoder α :=
  fun depth document =>
    match depth, document with
    | _, .text (some name) => names.lookup name
    | _ + 1, .record [(some name, value)] =>
        if dialect.isBare value then names.lookup name else none
    | _, _ => none

end Decoder

/-- The members of a record that were given, by declared name. -/
structure Members where
  depth : Nat
  given : List (String × Document)

/-- The members of a record with the declared names. -/
def members? (dialect : Dialect) (names : List String) (depth : Nat) (document : Document) :
    Option Members :=
  match depth, document with
  | depth + 1, .record members => do
      let named ← members.mapM fun member => member.1.map fun name => (name, member.2)
      let known := named.filter fun member => names.contains member.1
      if (known.map (·.1)).Nodup then some ⟨depth, known⟩ else none
  | depth + 1, .list items =>
      if dialect.hasSpareItems || items.length ≤ names.length then some ⟨depth, names.zip items⟩
      else none
  | _, _ => none

namespace Members

variable {α : Type}

/-- A member that must be given. -/
def required (members : Members) (name : String) (decoder : Decoder α) : Option α :=
  (members.given.lookup name).bind (decoder members.depth)

/-- A member that has a default. -/
def withDefault (members : Members) (name : String) (default : α) (decoder : Decoder α) :
    Option α :=
  match members.given.lookup name with
  | none => some default
  | some document => decoder members.depth document

end Members

/-- Read a typed value off a JSON text. -/
def decode? {α : Type} (decoder : Decoder α) (text : String) : Option α :=
  (Document.parse? text).bind (decoder Document.greatestDepth)

end Parley.Json
