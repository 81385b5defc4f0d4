/-
Module: Parley.Proofs.Intent.Schema
Layer: Proofs
Purpose: What a model is told of a shape and what is then asked of its arguments agree.  A schema is
  read as the value that it is, by its properties and its required names, with no shape in view; an
  object that satisfies the schema of a declared shape is accepted as it is but for what is no
  property, and whatever is accepted satisfies the schema.
Main exports: Json.properties, Json.requiredNames, Json.Satisfies, Shape.nodup_keys_ofFields,
  Shape.satisfies_schema_iff, Shape.schema_agrees
-/
import Parley.Proofs.Intent.Acceptance
import Parley.Proofs.Json.Reading

namespace Parley

open Dictionary (find?)

/-! ### Schemas -/

namespace Json

/-- What a schema says about the fields of an object, by key. -/
def properties (schema : Json) : Json.Object :=
  match schema.field? "properties" with
  | some (.obj table) => table
  | _ => []

/-- The names of the fields that an object has to have. -/
def requiredNames (schema : Json) : List String :=
  match schema.field? "required" with
  | some (.arr names) => names.filterMap fun
      | .str name => some name
      | _ => none
  | _ => []

/-- An object satisfies a schema: the required names are there, and each property that is there is
of the type that is advertised for it. -/
structure Satisfies (schema : Json) (given : Json.Object) : Prop where
  required : ∀ name ∈ schema.requiredNames, ∃ value, find? given name = some value
  typed : ∀ key property value, find? schema.properties key = some property →
    find? given key = some value →
    ∃ type : FieldType, property.field? "type" = some (.str type.name) ∧ type.Holds value

end Json

/-! ### Types -/

theorem FieldType.Holds.not_null {type : FieldType} {value : Json} (holds : type.Holds value) :
    value ≠ .null := by
  rintro rfl
  cases holds

/-- A value of a type is taken as it is. -/
theorem FieldType.Holds.takes {type : FieldType} {value : Json} (holds : type.Holds value) :
    type.Takes value value := by
  cases holds with
  | boolean truth => exact .boolean (.bool truth)
  | integer => exact .integer _
  | string text => exact .same (by decide) (by decide) (.string text)
  | whole n => exact .same (by decide) (by decide) (.whole n)
  | number x => exact .same (by decide) (by decide) (.number x)
  | array items => exact .same (by decide) (by decide) (.array items)
  | object fields => exact .same (by decide) (by decide) (.object fields)

/-- What is taken at a type is of the type, if an integer that is given is one of 64 bits. -/
theorem FieldType.Takes.holds {type : FieldType} {value taken : Json}
    (takes : type.Takes value taken) (regular : value.Regular) : type.Holds taken := by
  cases takes with
  | boolean => exact .boolean _
  | integer n =>
      obtain ⟨least, greatest⟩ := regular.inRange n rfl
      exact .integer least greatest
  | @integral x n same least greatest =>
      rw [same] at least greatest
      have leastInt : -2 ^ 63 ≤ n := by exact_mod_cast least
      have greatestInt : n < 2 ^ 63 := by exact_mod_cast greatest
      exact .integer leastInt (by omega)
  | same _ _ holds => exact holds

namespace Shape

variable {shape : Shape} {intent arguments : String} {given taken : Json.Object}

/-! ### Declarations -/

theorem nodup_keys_declare (distinct : shape.keys.Nodup) (field : Field) :
    (shape.declare field).keys.Nodup := by
  rw [keys, declare, List.map_append, List.nodup_append]
  refine ⟨distinct.sublist (List.filter_sublist.map _), List.nodup_singleton _, ?_⟩
  intro key member other isNew same
  obtain ⟨earlier, isEarlier, rfl⟩ := List.mem_map.1 member
  have different := (List.mem_filter.1 isEarlier).2
  simp only [List.map_cons, List.map_nil, List.mem_singleton] at isNew
  simp [same, isNew] at different

/-- However fields are declared, again or not, no two fields of a shape have one key. -/
theorem nodup_keys_ofFields (declarations : List Field) : (ofFields declarations).keys.Nodup := by
  suffices kept : ∀ shape : Shape, shape.keys.Nodup →
      (declarations.foldl declare shape).keys.Nodup from kept empty List.nodup_nil
  induction declarations with
  | nil => exact fun _ distinct => distinct
  | cons field declarations ih => exact fun _ distinct => ih _ (nodup_keys_declare distinct field)

/-! ### The schema of a shape -/

theorem type_property (field : Field) :
    (property field).field? "type" = some (.str field.type.name) := by
  rw [property]
  split
  · rfl
  · rfl

theorem properties_schema (shape : Shape) :
    shape.schema.properties =
      Dictionary.ofList (shape.fields.map fun field => (field.key, property field)) := by
  rw [Dictionary.ofList, List.foldl_map]
  rfl

/-- Each property is that of a field. -/
theorem exists_field_of_property {key : String} {found : Json}
    (isProperty : find? shape.schema.properties key = some found) :
    ∃ field ∈ shape.fields, field.key = key ∧ found = property field := by
  rw [properties_schema] at isProperty
  have member := Dictionary.mem_of_mem_ofList (Dictionary.mem_of_find? isProperty)
  obtain ⟨field, isField, same⟩ := List.mem_map.1 member
  cases same
  exact ⟨field, isField, rfl, rfl⟩

theorem eq_of_key (distinct : shape.keys.Nodup) {one two : Field} (isField : one ∈ shape.fields)
    (isFieldToo : two ∈ shape.fields) (same : one.key = two.key) : one = two :=
  List.inj_on_of_nodup_map distinct isField isFieldToo same

/-- Each field is listed with its own property: none is hidden by another with its key. -/
theorem find?_properties (distinct : shape.keys.Nodup) {field : Field}
    (isField : field ∈ shape.fields) :
    find? shape.schema.properties field.key = some (property field) := by
  rw [properties_schema]
  have listed : (field.key, property field) ∈
      shape.fields.map fun field => (field.key, property field) := List.mem_map_of_mem isField
  refine Dictionary.find?_ofList_of_agree listed fun other member => ?_
  obtain ⟨second, isSecond, same⟩ := List.mem_map.1 member
  obtain ⟨sameKey, rfl⟩ := Prod.mk.inj same
  rw [eq_of_key distinct isSecond isField sameKey]

theorem mem_requiredNames_schema_iff {name : String} :
    name ∈ shape.schema.requiredNames ↔
      ∃ field ∈ shape.fields, field.required = true ∧ field.key = name := by
  have names : shape.schema.requiredNames =
      ((shape.fields.filter (·.required)).map fun field => Json.str field.key).filterMap fun
        | .str name => some name
        | _ => none := rfl
  rw [names]
  simp [List.mem_filter, and_assoc]

/-- What the schema of a shape asks of an object, field by field. -/
theorem satisfies_schema_iff (distinct : shape.keys.Nodup) :
    shape.schema.Satisfies given ↔ ∀ field ∈ shape.fields,
      (field.required = true → ∃ value, find? given field.key = some value) ∧
        ∀ value, find? given field.key = some value → field.type.Holds value := by
  constructor
  · rintro ⟨required, typed⟩ field isField
    refine ⟨fun isRequired => required field.key ?_, fun value found => ?_⟩
    · exact mem_requiredNames_schema_iff.2 ⟨field, isField, isRequired, rfl⟩
    · obtain ⟨type, advertised, holds⟩ :=
        typed field.key _ value (find?_properties distinct isField) found
      rw [type_property, Option.some.injEq, Json.str.injEq] at advertised
      exact FieldType.name_inj advertised ▸ holds
  · intro each
    refine ⟨fun name isRequired => ?_, fun key property value isProperty found => ?_⟩
    · obtain ⟨field, isField, required, rfl⟩ := mem_requiredNames_schema_iff.1 isRequired
      exact (each field isField).1 required
    · obtain ⟨field, isField, rfl, rfl⟩ := exists_field_of_property isProperty
      exact ⟨field.type, type_property field, (each field isField).2 value found⟩

/-- The properties of the schema are the declared fields. -/
theorem has_properties_iff (distinct : shape.keys.Nodup) {key : String} :
    Dictionary.has shape.schema.properties key = true ↔ key ∈ shape.keys := by
  rw [Dictionary.has, Option.isSome_iff_exists]
  constructor
  · rintro ⟨property, isProperty⟩
    obtain ⟨field, isField, rfl, -⟩ := exists_field_of_property isProperty
    exact List.mem_map_of_mem isField
  · intro declared
    obtain ⟨field, isField, rfl⟩ := List.mem_map.1 declared
    exact ⟨_, find?_properties distinct isField⟩

/-! ### Agreement -/

/-- An object that satisfies the schema is as the fields have to be, and its properties are what is
taken of it. -/
theorem taken_of_satisfies (distinct : shape.keys.Nodup) (sorted : Dictionary.Sorted given)
    (satisfies : shape.schema.Satisfies given) :
    shape.Fits given ∧ shape.Taken given
      (given.filter fun entry => Dictionary.has shape.schema.properties entry.1) := by
  have each := (satisfies_schema_iff distinct).1 satisfies
  have restricted : ∀ key,
      find? (given.filter fun entry => Dictionary.has shape.schema.properties entry.1) key =
        if key ∈ shape.keys then find? given key else none := by
    intro key
    rw [Dictionary.find?_filter sorted]
    by_cases declared : key ∈ shape.keys
    · have shown := (has_properties_iff distinct).2 declared
      cases find? given key with
      | none => simp
      | some value => simp [declared, shown]
    · have hidden : Dictionary.has shape.schema.properties key = false := by
        rw [← Bool.not_eq_true, has_properties_iff distinct]
        exact declared
      simp [declared, hidden]
  refine ⟨fun field isField => ?_, List.Pairwise.filter _ sorted, fun key => ?_, ?_⟩
  · obtain ⟨present, typed⟩ := each field isField
    refine ⟨fun required => ?_, fun value offers => ⟨value, (typed value offers.1).takes⟩⟩
    obtain ⟨value, found⟩ := present required
    exact ⟨value, found, (typed value found).not_null⟩
  · rw [Dictionary.mem_keys_iff, restricted]
    constructor
    · intro found
      have declared : key ∈ shape.keys := by
        by_contra absent
        exact found (if_neg absent)
      rw [if_pos declared] at found
      obtain ⟨value, isValue⟩ := Option.ne_none_iff_exists'.1 found
      obtain ⟨field, isField, rfl⟩ := List.mem_map.1 declared
      exact ⟨declared, value, isValue, ((each field isField).2 value isValue).not_null⟩
    · rintro ⟨declared, value, offers⟩
      rw [if_pos declared, offers.1]
      exact Option.some_ne_none value
  · intro field isField value offers
    have declared : field.key ∈ shape.keys := List.mem_map_of_mem isField
    refine ⟨value, ?_, ((each field isField).2 value offers.1).takes⟩
    rw [restricted, if_pos declared, offers.1]

/-- What is taken of an object satisfies the schema, if integers in the object are of 64 bits. -/
theorem Taken.satisfies (distinct : shape.keys.Nodup) (took : shape.Taken given taken)
    (fits : shape.Fits given) (regular : (Json.obj given).Throughout Json.Regular) :
    shape.schema.Satisfies taken := by
  refine (satisfies_schema_iff distinct).2 fun field isField => ⟨fun required => ?_, ?_⟩
  · obtain ⟨value, offers⟩ := (fits field isField).present required
    obtain ⟨accepted, found, -⟩ := took.entries field isField value offers
    exact ⟨accepted, found⟩
  · intro accepted found
    have member : field.key ∈ Dictionary.keys taken :=
      Dictionary.mem_keys_iff.2 (by rw [found]; exact Option.some_ne_none accepted)
    obtain ⟨-, value, offers⟩ := (took.keys field.key).1 member
    obtain ⟨other, foundToo, takes⟩ := took.entries field isField value offers
    cases found.symm.trans foundToo
    exact takes.holds (regular.field (Dictionary.mem_of_find? offers.1)).here

/-- What the model is told and what is asked agree.  However the fields of a shape were declared, an
object that satisfies its schema is accepted and its properties are taken as they are; and whatever
is accepted, what is taken satisfies the schema and has no other fields than its properties. -/
theorem schema_agrees (details : String → String) (declarations : List Field)
    (intent arguments : String) :
    (∀ given, Json.parse? arguments = some (.obj given) →
      (ofFields declarations).schema.Satisfies given →
      (ofFields declarations).accept details intent arguments =
        .ok (given.filter fun entry =>
          Dictionary.has (ofFields declarations).schema.properties entry.1)) ∧
    ∀ taken, (ofFields declarations).accept details intent arguments = .ok taken →
      (ofFields declarations).schema.Satisfies taken ∧
        ∀ key ∈ Dictionary.keys taken,
          Dictionary.has (ofFields declarations).schema.properties key = true := by
  have distinct := nodup_keys_ofFields declarations
  constructor
  · intro given parsed satisfies
    have sorted := (Json.parse?_regular parsed).here.inOrder given rfl
    obtain ⟨fits, took⟩ := taken_of_satisfies distinct sorted satisfies
    exact (accept_eq_ok_iff distinct).2 ⟨given, parsed, fits, took⟩
  · intro taken accepted
    obtain ⟨given, parsed, fits, took⟩ := (accept_eq_ok_iff distinct).1 accepted
    refine ⟨took.satisfies distinct fits (Json.parse?_regular parsed), fun key member => ?_⟩
    exact (has_properties_iff distinct).2 ((took.keys key).1 member).1

/-- The number of seats was declared as text before. -/
def rebooking : List Field :=
  [⟨"seats", .string, false, ""⟩, ⟨"bookingRef", .string, true, ""⟩,
    ⟨"seats", .integer, true, "how many"⟩]

/-- Two seats, and a field that is no property. -/
def rebookingArguments : String :=
  "\x7b\"bookingRef\":\"X1\",\"note\":null,\"seats\":2\x7d"

theorem parse?_rebookingArguments :
    Json.parse? rebookingArguments =
      some (.obj [("bookingRef", .str "X1"), ("note", .null), ("seats", .int 2)]) := by
  have words : Json.Token.ofChars? rebookingArguments.toList =
      some [.braceOpen, .text (some "bookingRef"), .colon, .text (some "X1"), .comma,
        .text (some "note"), .colon, .null, .comma, .text (some "seats"), .colon,
        .number (some (.int 2)), .braceClose] := by
    decide +kernel
  rw [Json.parse?, Json.Document.parse?, words]
  rfl

theorem schema_agrees_rebooking :
    (ofFields rebooking).schema.Satisfies
        [("bookingRef", .str "X1"), ("note", .null), ("seats", .int 2)] ∧
      (ofFields rebooking).accept id "booking" rebookingArguments =
        .ok [("bookingRef", .str "X1"), ("seats", .int 2)] ∧
      (ofFields rebooking).schema.Satisfies [("bookingRef", .str "X1"), ("seats", .int 2)] := by
  obtain ⟨accepts, satisfied⟩ := schema_agrees id rebooking "booking" rebookingArguments
  have satisfies : (ofFields rebooking).schema.Satisfies
      [("bookingRef", .str "X1"), ("note", .null), ("seats", .int 2)] := by
    refine (satisfies_schema_iff (nodup_keys_ofFields rebooking)).2 ?_
    refine List.forall_mem_cons.2 ⟨⟨fun _ => ⟨_, rfl⟩, fun value found => ?_⟩,
      List.forall_mem_cons.2 ⟨⟨fun _ => ⟨_, rfl⟩, fun value found => ?_⟩, by simp⟩⟩
    · cases found
      exact .string "X1"
    · cases found
      exact .integer (by decide) (by decide)
  have accepted := accepts _ parse?_rebookingArguments satisfies
  exact ⟨satisfies, accepted, (satisfied _ accepted).1⟩

end Shape

end Parley
