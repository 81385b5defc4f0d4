/-
Module: Parley.Proofs.Opening.Kept
Layer: Proofs
Purpose: Where the parts of a value stand in its compaction.  A part that the compaction comes to
  stands, compacted, at the end of the path that leads to it in the value, unless a record on the way
  counts what it leaves out under the key of the field that the path goes through.  What else stands
  in a compaction are counts and markers.
Main exports: Json.Along, Json.Enters, Json.Covers, Json.Reached, Json.Kept, Json.keptItems,
  Json.keptFields, Json.Becomes, Json.Kept.at?_compacted, Json.Stands, Json.stands_of_at?
-/
import Parley.Proofs.Dictionary
import Parley.Proofs.Json.Paths
import Parley.Proofs.Opening.Compaction

namespace Parley.Json

/-! ### Ways into a value -/

/-- Parts of a value with the paths to them, whose steps may depend on the depth and the part that
they are taken from. -/
inductive Along (goes : Nat → Json → Step → Json → Prop) (value : Json) : List Step → Json → Prop where
  | whole : Along goes value [] value
  | step {path : List Step} {part inner : Json} {step : Step} :
      Along goes value path part → goes path.length part step inner →
      Along goes value (path ++ [step]) inner

/-- A compaction goes from a list or record above the depth limit into an item or a field among the
first. -/
inductive Enters (limits : Limits) (depth : Nat) : Json → Step → Json → Prop where
  | item {items : List Json} {index : Nat} {part : Json} : depth < limits.depth →
      index < limits.arrayItems → items[index]? = some part →
      Enters limits depth (.arr items) (.item index) part
  | field {fields : Json.Object} {key : String} {part : Json} : depth < limits.depth →
      Dictionary.find? (fields.take limits.objectKeys) key = some part →
      Enters limits depth (.obj fields) (.field key) part

/-- A record that leaves fields out has their number under one key, whatever it had there. -/
def Covers (limits : Limits) (part : Json) (step : Step) : Prop :=
  step = .field omittedKey ∧ ∃ fields, part = .obj fields ∧ limits.objectKeys < fields.length

/-- The parts that a compaction comes to. -/
def Reached (limits : Limits) (value : Json) : List Step → Json → Prop :=
  Along (Enters limits) value

/-- The parts that a compaction comes to and whose places are not taken by a count. -/
def Kept (limits : Limits) (value : Json) : List Step → Json → Prop :=
  Along (fun depth part step inner => Enters limits depth part step inner ∧ ¬Covers limits part step)
    value

variable {limits : Limits} {depth : Nat} {value part found : Json} {path : List Step} {step : Step}

theorem Kept.reached (kept : Kept limits value path part) : Reached limits value path part := by
  induction kept with
  | whole => exact .whole
  | step _ goes ih => exact .step ih goes.1

/-- What a compaction comes to is the part of the value at the end of the path. -/
theorem Reached.at? (reached : Reached limits value path part) : value.at? path = some part := by
  induction reached with
  | whole => rfl
  | step _ goes ih =>
      rw [at?_concat, ih, Option.bind_some]
      cases goes with
      | item _ _ isItem => exact isItem
      | field _ isField => exact Dictionary.find?_of_find?_take isField

/-! ### Lists and records above the depth limit -/

/-- The compactions of the first items of a list, and the number of the others. -/
def keptItems (limits : Limits) (depth : Nat) (items : List Json) : List Json :=
  (items.take limits.arrayItems).map (bounded limits (depth + 1)) ++
    if limits.arrayItems < items.length then [remainingItems (items.length - limits.arrayItems)]
    else []

/-- The compactions of the first fields of a record. -/
def firstFields (limits : Limits) (depth : Nat) (fields : Json.Object) : Json.Object :=
  (fields.take limits.objectKeys).map fun (key, value) => (key, bounded limits (depth + 1) value)

/-- The compactions of the first fields of a record, and the number of the others. -/
def keptFields (limits : Limits) (depth : Nat) (fields : Json.Object) : Json.Object :=
  if limits.objectKeys < fields.length then
    Dictionary.insert omittedKey (.int (fields.length - limits.objectKeys : Nat))
      (firstFields limits depth fields)
  else firstFields limits depth fields

theorem bounded_arr (shallow : depth < limits.depth) (items : List Json) :
    bounded limits depth (.arr items) = .arr (keptItems limits depth items) := by
  rw [bounded, if_neg (by omega), keptItems, boundedItems_eq]
  split
  · rfl
  · simp

theorem bounded_obj (shallow : depth < limits.depth) (fields : Json.Object) :
    bounded limits depth (.obj fields) = .obj (keptFields limits depth fields) := by
  rw [bounded, if_neg (by omega), keptFields, firstFields, boundedFields_eq]
  split
  · rfl
  · rfl

theorem bounded_arr_deep (deep : limits.depth ≤ depth) (items : List Json) :
    bounded limits depth (.arr items) = depthMarker "array" items.length := by
  rw [bounded, if_pos deep]

theorem bounded_obj_deep (deep : limits.depth ≤ depth) (fields : Json.Object) :
    bounded limits depth (.obj fields) = depthMarker "object" fields.length := by
  rw [bounded, if_pos deep]

/-- Lists and records. -/
def Composite (value : Json) : Prop :=
  (∃ items, value = .arr items) ∨ ∃ fields, value = .obj fields

/-- What a part at a depth becomes. -/
inductive Becomes (limits : Limits) (depth : Nat) : Json → Json → Prop where
  | list (items : List Json) : depth < limits.depth →
      Becomes limits depth (.arr items) (.arr (keptItems limits depth items))
  | record (fields : Json.Object) : depth < limits.depth →
      Becomes limits depth (.obj fields) (.obj (keptFields limits depth fields))
  | marker {part : Json} (kind : String) (size : Nat) : limits.depth ≤ depth → Composite part →
      Becomes limits depth part (depthMarker kind size)
  | text (original : String) :
      Becomes limits depth (.str original) (.str (Text.cut original limits.stringChars))
  | other {part : Json} : ¬Composite part → (∀ text, part ≠ .str text) → Becomes limits depth part part

theorem becomes_bounded (limits : Limits) (depth : Nat) (part : Json) :
    Becomes limits depth part (bounded limits depth part) := by
  cases part with
  | arr items =>
      by_cases shallow : depth < limits.depth
      · exact bounded_arr shallow items ▸ .list items shallow
      · have deep : limits.depth ≤ depth := by omega
        exact bounded_arr_deep deep items ▸ .marker _ _ deep (.inl ⟨items, rfl⟩)
  | obj fields =>
      by_cases shallow : depth < limits.depth
      · exact bounded_obj shallow fields ▸ .record fields shallow
      · have deep : limits.depth ≤ depth := by omega
        exact bounded_obj_deep deep fields ▸ .marker _ _ deep (.inr ⟨fields, rfl⟩)
  | str text =>
      rw [bounded]
      exact .text text
  | _ =>
      simp only [bounded]
      exact .other (by simp [Composite]) (by simp)

theorem length_keptItems_le (limits : Limits) (depth : Nat) (items : List Json) :
    (keptItems limits depth items).length ≤ limits.arrayItems + 1 := by
  rw [keptItems, List.length_append, List.length_map, List.length_take]
  split
  · simp only [List.length_singleton]
    omega
  · simp only [List.length_nil]
    omega

theorem length_firstFields (limits : Limits) (depth : Nat) (fields : Json.Object) :
    (firstFields limits depth fields).length = min limits.objectKeys fields.length := by
  rw [firstFields, List.length_map, List.length_take]

theorem length_keptFields_le (limits : Limits) (depth : Nat) (fields : Json.Object) :
    (keptFields limits depth fields).length ≤ limits.objectKeys + 1 := by
  have first := length_firstFields limits depth fields
  rw [keptFields]
  split
  · have inserted := Dictionary.length_insert_le omittedKey
      (.int (fields.length - limits.objectKeys : Nat)) (firstFields limits depth fields)
    omega
  · omega

/-- What stands in a list is the compaction of an item in its place, or the number of the others. -/
theorem getElem?_keptItems {items : List Json} {index : Nat}
    (stands : (keptItems limits depth items)[index]? = some found) :
    (index < limits.arrayItems ∧ ∃ part, items[index]? = some part ∧
        found = bounded limits (depth + 1) part) ∨
      found = remainingItems (items.length - limits.arrayItems) := by
  rw [keptItems, List.getElem?_append] at stands
  split at stands
  · next within =>
      rw [List.length_map, List.length_take] at within
      have first : index < limits.arrayItems := by omega
      rw [List.getElem?_map, List.getElem?_take_of_lt first, Option.map_eq_some_iff] at stands
      obtain ⟨part, isItem, same⟩ := stands
      exact .inl ⟨first, part, isItem, same.symm⟩
  · split at stands
    · exact .inr (List.mem_singleton.1 (List.mem_of_getElem? stands))
    · simp at stands

theorem getElem?_keptItems_of_lt {items : List Json} {index : Nat}
    (first : index < limits.arrayItems) (isItem : items[index]? = some part) :
    (keptItems limits depth items)[index]? = some (bounded limits (depth + 1) part) := by
  have within := (List.getElem?_eq_some_iff.1 isItem).1
  rw [keptItems, List.getElem?_append_left, List.getElem?_map, List.getElem?_take_of_lt first,
    isItem, Option.map_some]
  rw [List.length_map, List.length_take]
  omega

/-- What is found in a record is the compaction of what was under the key, or a number under the key
for it. -/
theorem find?_keptFields (limits : Limits) (depth : Nat) (fields : Json.Object) (key : String) :
    Dictionary.find? (keptFields limits depth fields) key =
      if limits.objectKeys < fields.length ∧ key = omittedKey then
        some (.int (fields.length - limits.objectKeys : Nat))
      else
        (Dictionary.find? (fields.take limits.objectKeys) key).map (bounded limits (depth + 1)) := by
  have first : Dictionary.find? (firstFields limits depth fields) key =
      (Dictionary.find? (fields.take limits.objectKeys) key).map (bounded limits (depth + 1)) :=
    Dictionary.find?_map_values _ _ key
  rw [keptFields, ← first]
  by_cases cut : limits.objectKeys < fields.length
  · rw [if_pos cut]
    by_cases same : key = omittedKey
    · rw [same, if_pos ⟨cut, rfl⟩, Dictionary.find?_insert_self]
    · rw [if_neg fun both => same both.2, Dictionary.find?_insert_of_ne _ _ (Ne.symm same)]
  · rw [if_neg cut, if_neg fun both => cut both.1]

/-! ### One step -/

/-- A step that a compaction takes leads in the result to the compaction of what it leads to. -/
theorem Enters.child?_bounded {inner : Json} (enters : Enters limits depth part step inner)
    (free : ¬Covers limits part step) :
    (bounded limits depth part).child? step = some (bounded limits (depth + 1) inner) := by
  cases enters with
  | item shallow first isItem =>
      rw [bounded_arr shallow, child?, getElem?_keptItems_of_lt first isItem]
  | @field fields key _ shallow isField =>
      have elsewhere : ¬(limits.objectKeys < fields.length ∧ key = omittedKey) := by
        rintro ⟨cut, rfl⟩
        exact free ⟨rfl, fields, rfl, cut⟩
      rw [bounded_obj shallow, child?, find?_keptFields, if_neg elsewhere, isField, Option.map_some]

/-- A part that is kept stands where it stood, compacted. -/
theorem Kept.at?_compacted (kept : Kept limits value path part) :
    (compacted limits value).at? path = some (bounded limits path.length part) := by
  induction kept with
  | whole => rfl
  | step _ goes ih =>
      rw [at?_concat, ih, Option.bind_some, goes.1.child?_bounded goes.2, List.length_append,
        List.length_singleton]

/-- A list or record that is kept but stands too deep. -/
def Deep (limits : Limits) (value : Json) (path : List Step) : Prop :=
  limits.depth ≤ path.length ∧ ∃ part, Kept limits value path part ∧ Composite part

/-- What can stand in a compaction. -/
inductive Stands (limits : Limits) (value : Json) : List Step → Json → Prop where
  /-- The compaction of a part in the place of the part. -/
  | part {path : List Step} {part : Json} : Kept limits value path part →
      Stands limits value path (bounded limits path.length part)
  /-- An entry of a marker. -/
  | entry {path : List Step} {step : Step} {found : Json} : Deep limits value path →
      ¬Composite found → Stands limits value (path ++ [step]) found
  /-- The number of the items that a list leaves out. -/
  | remaining (path : List Step) (count : Nat) : Stands limits value path (remainingItems count)
  /-- The number of what is left out. -/
  | count (path : List Step) (count : Nat) : Stands limits value path (.int count)

theorem child?_leaf (leaf : ¬Composite value) (step : Step) : value.child? step = none := by
  cases value with
  | arr items => exact absurd (.inl ⟨items, rfl⟩) leaf
  | obj fields => exact absurd (.inr ⟨fields, rfl⟩) leaf
  | _ => rfl

/-- The entries of a marker are neither lists nor records. -/
theorem leaf_of_child?_depthMarker {kind : String} {size : Nat}
    (stands : (depthMarker kind size).child? step = some found) : ¬Composite found := by
  cases step with
  | item index => cases stands
  | field key =>
      have member := Dictionary.mem_of_find? stands
      simp only [List.mem_cons, Prod.mk.injEq, List.not_mem_nil, or_false] at member
      rcases member with ⟨-, rfl⟩ | ⟨-, rfl⟩ | ⟨-, rfl⟩
      all_goals simp [Composite]

theorem child?_remainingItems {count : Nat}
    (stands : (remainingItems count).child? step = some found) : found = .int count := by
  cases step with
  | item index => cases stands
  | field key =>
      have member := Dictionary.mem_of_find? stands
      exact (Prod.mk.inj (List.mem_singleton.1 member)).2

/-- What stands one step inside the compaction of a part that is kept. -/
theorem Kept.stands_child (kept : Kept limits value path part)
    (stands : (bounded limits path.length part).child? step = some found) :
    Stands limits value (path ++ [step]) found := by
  have enter {inner : Json} (enters : Enters limits path.length part step inner)
      (free : ¬Covers limits part step) :
      Stands limits value (path ++ [step]) (bounded limits (path.length + 1) inner) := by
    have isPart : Stands limits value (path ++ [step])
        (bounded limits (path ++ [step]).length inner) := .part (.step kept ⟨enters, free⟩)
    rwa [List.length_append, List.length_singleton] at isPart
  have becomes := becomes_bounded limits path.length part
  generalize bounded limits path.length part = result at becomes stands
  cases becomes with
  | list items shallow =>
      cases step with
      | item index =>
          rcases getElem?_keptItems stands with ⟨first, inner, isItem, rfl⟩ | rfl
          · exact enter (.item shallow first isItem) fun covers => nomatch covers.1
          · exact .remaining _ _
      | field key => cases stands
  | record fields shallow =>
      cases step with
      | item index => cases stands
      | field key =>
          rw [child?, find?_keptFields] at stands
          split at stands
          · cases stands
            exact .count _ _
          · next elsewhere =>
              obtain ⟨inner, isField, rfl⟩ := Option.map_eq_some_iff.1 stands
              refine enter (.field shallow isField) ?_
              rintro ⟨same, others, isRecord, cut⟩
              cases same
              cases isRecord
              exact elsewhere ⟨cut, rfl⟩
  | marker kind size deep composite =>
      exact .entry ⟨deep, part, kept, composite⟩ (leaf_of_child?_depthMarker stands)
  | text original => cases stands
  | other leaf _ =>
      rw [child?_leaf leaf] at stands
      cases stands

/-- Whatever is found in a compaction, it is one of these. -/
theorem stands_of_at? (stands : (compacted limits value).at? path = some found) :
    Stands limits value path found := by
  induction path using List.reverseRecOn generalizing found with
  | nil =>
      cases stands
      exact .part .whole
  | append_singleton path step ih =>
      rw [at?_concat, Option.bind_eq_some_iff] at stands
      obtain ⟨outer, isOuter, isChild⟩ := stands
      cases ih isOuter with
      | part kept => exact kept.stands_child isChild
      | entry _ leaf =>
          rw [child?_leaf leaf] at isChild
          cases isChild
      | remaining _ count =>
          rw [child?_remainingItems isChild]
          exact .count _ count
      | count _ count => cases isChild

end Parley.Json
