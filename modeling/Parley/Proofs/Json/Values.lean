/-
Module: Parley.Proofs.Json.Values
Layer: Proofs
Purpose: Values that were printed are read back: all but floats exactly, and each float as a float.
  The text has no control characters.  That it is read depends on nothing but how deep the value is.
Main exports: Json.induct, Json.reread, Json.Nests, Json.writes_chars, Json.parse?_render,
  Json.visible_chars
-/
import Parley.Proofs.Json.Floats
import Parley.Proofs.Json.Written

namespace Parley.Json

/-! ### Induction on values -/

/-- What holds of the values without parts and goes over from parts to lists and records holds of
all values. -/
@[elab_as_elim]
theorem induct {motive : Json → Prop} (value : Json)
    (leaf : ∀ value : Json, (∀ items, value ≠ .arr items) → (∀ fields, value ≠ .obj fields) →
      motive value)
    (list : ∀ items : List Json, (∀ item ∈ items, motive item) → motive (.arr items))
    (record : ∀ fields : Json.Object, (∀ field ∈ fields, motive field.2) → motive (.obj fields)) :
    motive value := by
  refine @Json.rec motive (fun items => ∀ item ∈ items, motive item)
    (fun fields => ∀ field ∈ fields, motive field.2) (fun field => motive field.2)
    ?null ?bool ?int ?float ?str list record ?noItems ?items ?noFields ?fields ?field value
  case null => exact leaf _ (by simp) (by simp)
  case bool => exact fun _ => leaf _ (by simp) (by simp)
  case int => exact fun _ => leaf _ (by simp) (by simp)
  case float => exact fun _ => leaf _ (by simp) (by simp)
  case str => exact fun _ => leaf _ (by simp) (by simp)
  case noItems => simp
  case items => exact fun _ _ first others => List.forall_mem_cons.2 ⟨first, others⟩
  case noFields => simp
  case fields => exact fun _ _ first others => List.forall_mem_cons.2 ⟨first, others⟩
  case field => exact fun _ _ value => value

/-! ### Reading floats again -/

/-- The float that is read off the written form of a float. -/
def rereadFloat (x : Binary64) : Binary64 :=
  match nextToken? (floatChars x) with
  | some (.number (some (.float y)), _) => y
  | _ => x

theorem spells_floatChars (x : Binary64) :
    Spells (floatChars x) [.number (some (.float (rereadFloat x)))] := by
  obtain ⟨l, y, written, plain, value⟩ := reads_floatChars x
  have found := plain.nextToken? stops_nil
  rw [List.append_nil, ← written, value] at found
  have same : rereadFloat x = y := by
    rw [rereadFloat, found]
  have spells := plain.spells
  rwa [← written, value, ← same] at spells

theorem visible_digits {digits : List Nat} (all : ∀ digit ∈ digits, digit < 10) :
    Visible (digits.map Nat.digitChar) := by
  have each : ∀ digit : Fin 10, 32 ≤ (Nat.digitChar digit).toNat := by decide
  intro c member
  obtain ⟨digit, isDigit, rfl⟩ := List.mem_map.1 member
  exact each ⟨digit, all digit isDigit⟩

theorem Literal.Plain.visible {l : Literal} (plain : l.Plain) : Visible l.chars := by
  have fraction : Visible (fractionChars l.fraction) := by
    cases isFraction : l.fraction with
    | none => simp [fractionChars, Visible]
    | some digits =>
        exact visible_cons.2 ⟨by decide, visible_digits (plain.fraction digits isFraction).2⟩
  have exponent : Visible (exponentChars l.exponent) := by
    cases isExponent : l.exponent with
    | none => simp [exponentChars, Visible]
    | some parts =>
        obtain ⟨down, digits⟩ := parts
        have sign : 32 ≤ (if down then '-' else '+').toNat := by
          cases down <;> decide
        exact visible_cons.2 ⟨by decide, visible_cons.2 ⟨sign,
          visible_digits (plain.exponent down digits isExponent).2⟩⟩
  have magnitude : Visible l.magnitudeChars :=
    visible_append.2 ⟨visible_digits plain.wholeDigits, visible_append.2 ⟨fraction, exponent⟩⟩
  rw [chars]
  split
  · exact visible_cons.2 ⟨by decide, magnitude⟩
  · exact magnitude

theorem visible_floatChars (x : Binary64) : Visible (floatChars x) := by
  obtain ⟨l, y, written, plain, -⟩ := reads_floatChars x
  exact written ▸ plain.visible

/-! ### Integers -/

/-- An integer of 64 bits comes back from its decimal digits. -/
theorem spells_intChars {n : Int} (fits : Fits64 n) :
    Spells (intChars n) [.number (some (.int n))] := by
  obtain ⟨least, greatest⟩ := fits
  have bound : greatestSignificand = 2 ^ 64 - 1 := rfl
  cases n with
  | ofNat n =>
      rw [Int.ofNat_eq_natCast] at greatest
      exact spells_natChars (by omega)
  | negSucc n =>
      have fits : n + 1 ≤ greatestSignificand := by omega
      have small : n + 1 ≤ Nat.pow 2 63 := by
        have power : Nat.pow 2 63 = 2 ^ 63 := rfl
        omega
      have value : (Literal.mk true (decimals (n + 1)) none none).value? =
          some (.int (.negSucc n)) := by
        simp [Literal.value?, Literal.significand, Literal.isInteger, appendDigits_decimals fits,
          small, Int.negSucc_eq]
      have spells := (plain_decimals true (n + 1)).spells
      rwa [value, chars_decimals, if_pos rfl] at spells

theorem visible_intChars (n : Int) : Visible (intChars n) := by
  cases n with
  | ofNat n => exact visible_natChars n
  | negSucc n => exact visible_cons.2 ⟨by decide, visible_natChars (n + 1)⟩

/-! ### Whole values -/

mutual

/-- A value with each float as it is read off its written form. -/
def reread : Json → Json
  | .float value => .float (rereadFloat value)
  | .arr items => .arr (rereadItems items)
  | .obj fields => .obj (rereadFields fields)
  | other => other

/-- The items of a list, read again. -/
def rereadItems : List Json → List Json
  | [] => []
  | item :: items => reread item :: rereadItems items

/-- The fields of a record, read again. -/
def rereadFields : List (String × Json) → List (String × Json)
  | [] => []
  | (name, value) :: fields => (name, reread value) :: rereadFields fields

end

theorem rereadItems_eq (items : List Json) : rereadItems items = items.map reread := by
  induction items with
  | nil => rfl
  | cons item items ih => rw [rereadItems, ih, List.map_cons]

theorem rereadFields_eq (fields : List (String × Json)) :
    rereadFields fields = fields.map fun (name, value) => (name, reread value) := by
  induction fields with
  | nil => rfl
  | cons field fields ih => rw [rereadFields, ih, List.map_cons]

theorem itemChars_eq (items : List Json) : itemChars items = items.map chars := by
  induction items with
  | nil => rfl
  | cons item items ih => rw [itemChars, ih, List.map_cons]

theorem chars_obj (fields : List (String × Json)) :
    chars (.obj fields) = recordChars (fields.map fun field => (field.1, field.2.chars)) := by
  have written : fieldChars fields =
      fields.map fun field => quoted field.1 ++ ':' :: field.2.chars := by
    induction fields with
    | nil => rfl
    | cons field fields ih => rw [fieldChars, ih, List.map_cons]
  rw [chars, recordChars, written, List.map_map]
  rfl

theorem ofValues_eq (items : List Json) :
    Document.ofValues items = items.map Document.ofValue := by
  induction items with
  | nil => rfl
  | cons item items ih => rw [Document.ofValues, ih, List.map_cons]

theorem ofFields_eq (fields : List (String × Json)) :
    Document.ofFields fields =
      fields.map fun field => (some field.1, Document.ofValue field.2) := by
  induction fields with
  | nil => rfl
  | cons field fields ih => rw [Document.ofFields, ih, List.map_cons]

/-- The written form of a value whose integers are of 64 bits tells the value, read again. -/
theorem writes_chars (value : Json) (regular : Throughout Regular value) :
    Writes value.chars (Document.ofValue value.reread) := by
  induction value using induct with
  | leaf value notList notRecord =>
      cases value with
      | null => exact ⟨_, spells_word (by decide) fun _ => rfl, fun _ _ => rfl⟩
      | bool truth =>
          cases truth with
          | true => exact ⟨_, spells_word (by decide) fun _ => rfl, fun _ _ => rfl⟩
          | false => exact ⟨_, spells_word (by decide) fun _ => rfl, fun _ _ => rfl⟩
      | int n => exact ⟨_, spells_intChars (regular.here.inRange n rfl), fun _ _ => rfl⟩
      | float x => exact ⟨_, spells_floatChars x, fun _ _ => rfl⟩
      | str text => exact writes_quoted text
      | arr items => exact absurd rfl (notList items)
      | obj fields => exact absurd rfl (notRecord fields)
  | list items ih =>
      have writes : Writes (listChars (items.map chars))
          (.list (items.map fun item => Document.ofValue item.reread)) :=
        writes_listChars items fun item member => ih item member (regular.part member)
      rw [chars, itemChars_eq, reread, rereadItems_eq, Document.ofValue, ofValues_eq, List.map_map]
      exact writes
  | record fields ih =>
      have writes := writes_recordChars
        (fields.map fun field => (field.1, field.2.chars, Document.ofValue field.2.reread))
        (List.forall_mem_map.2 fun field member => ih field member (regular.field member))
      rw [List.map_map, List.map_map] at writes
      rw [chars_obj, reread, rereadFields_eq, Document.ofValue, ofFields_eq, List.map_map]
      exact writes

/-- At most `depth` lists and records stand inside one another. -/
inductive Nests : Nat → Json → Prop where
  | leaf {depth : Nat} {value : Json} : (∀ items, value ≠ .arr items) →
      (∀ fields, value ≠ .obj fields) → Nests depth value
  | arr {depth : Nat} {items : List Json} : (∀ item ∈ items, Nests depth item) →
      Nests (depth + 1) (.arr items)
  | obj {depth : Nat} {fields : Json.Object} : (∀ field ∈ fields, Nests depth field.2) →
      Nests (depth + 1) (.obj fields)

theorem values?_of_each {depth : Nat} {items : List Json}
    (each : ∀ item ∈ items,
      Document.value? depth (Document.ofValue item.reread) = some item.reread) :
    Document.values? depth (Document.ofValues (rereadItems items)) = some (rereadItems items) := by
  induction items with
  | nil => rfl
  | cons item items ih =>
      obtain ⟨first, others⟩ := List.forall_mem_cons.1 each
      simp [rereadItems, Document.ofValues, Document.values?, first, ih others]

theorem fields?_of_each {depth : Nat} {fields : Json.Object}
    (each : ∀ field ∈ fields,
      Document.value? depth (Document.ofValue field.2.reread) = some field.2.reread) :
    Document.fields? depth (Document.ofFields (rereadFields fields)) =
      some (rereadFields fields) := by
  induction fields with
  | nil => rfl
  | cons field fields ih =>
      obtain ⟨first, others⟩ := List.forall_mem_cons.1 each
      simp [rereadFields, Document.ofFields, Document.fields?, first, ih others]

/-- A value that is not too deep is read off its document. -/
theorem value?_ofValue_reread {depth : Nat} {value : Json} (regular : Throughout Regular value)
    (nests : Nests depth value) :
    Document.value? depth (Document.ofValue value.reread) = some value.reread := by
  induction nests with
  | @leaf depth value notList notRecord =>
      cases value with
      | arr items => exact absurd rfl (notList items)
      | obj fields => exact absurd rfl (notRecord fields)
      | _ => rfl
  | @arr depth items nests ih =>
      have each := values?_of_each fun item member => ih item member (regular.part member)
      rw [reread, Document.ofValue, Document.value?, each]
      rfl
  | @obj depth fields nests ih =>
      have each := fields?_of_each fun field member => ih field member (regular.field member)
      have sorted : Dictionary.Sorted (rereadFields fields) := by
        rw [rereadFields_eq]
        exact (regular.here.inOrder fields rfl).map_values reread
      rw [reread, Document.ofValue, Document.value?, each, Option.map_some, sorted.ofList_eq]

/-- What is printed is read back but for the floats in it, if it is not too deep. -/
theorem parse?_render {value : Json} (regular : Throughout Regular value)
    (nests : Nests Document.greatestDepth value) : parse? value.render = some value.reread := by
  rw [parse?, render, (writes_chars value regular).parse?]
  exact value?_ofValue_reread regular nests

/-- No control character is in the written form of a value. -/
theorem visible_chars (value : Json) : Visible value.chars := by
  induction value using induct with
  | leaf value notList notRecord =>
      cases value with
      | null => simp [chars, Visible]
      | bool truth =>
          cases truth with
          | true => simp [chars, Visible]
          | false => simp [chars, Visible]
      | int n => exact visible_intChars n
      | float x => exact visible_floatChars x
      | str text => exact visible_quoted text
      | arr items => exact absurd rfl (notList items)
      | obj fields => exact absurd rfl (notRecord fields)
  | list items ih =>
      rw [chars, itemChars_eq]
      exact visible_listChars (List.forall_mem_map.2 ih)
  | record fields ih =>
      rw [chars_obj]
      exact visible_recordChars (List.forall_mem_map.2 ih)

end Parley.Json
