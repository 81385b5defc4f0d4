/-
Module: Parley.Proofs.Opening.Compaction
Layer: Proofs
Purpose: What a compaction makes of a value is not deeper than its limit allows, and it is a value
  whose written form can be read whenever this holds of the value that was compacted.
Main exports: Json.Nests.mono, Json.Stored, Json.nests_bounded, Json.regular_bounded
-/
import Parley.Opening.Compaction
import Parley.Proofs.Json.Values

namespace Parley.Json

/-! ### Lists and records above the limit -/

theorem boundedItems_eq (limits : Limits) (depth count : Nat) (items : List Json) :
    boundedItems limits depth count items = (items.take count).map (bounded limits depth) := by
  induction items generalizing count with
  | nil => simp [boundedItems]
  | cons item items ih =>
      cases count with
      | zero => simp [boundedItems]
      | succ count => simp [boundedItems, ih]

theorem boundedFields_eq (limits : Limits) (depth count : Nat) (fields : Json.Object) :
    boundedFields limits depth count fields =
      (fields.take count).map fun (key, value) => (key, bounded limits depth value) := by
  induction fields generalizing count with
  | nil => simp [boundedFields]
  | cons field fields ih =>
      cases count with
      | zero => simp [boundedFields]
      | succ count => simp [boundedFields, ih]

section Kept

variable {limits : Limits} {depth : Nat}

/-- A list above the limit becomes a list of compacted items and perhaps a count. -/
theorem bounded_list (shallow : depth < limits.depth) (items : List Json) :
    ∃ kept, bounded limits depth (.arr items) = .arr kept ∧
      ∀ item ∈ kept, (∃ old ∈ items, item = bounded limits (depth + 1) old) ∨
        item = remainingItems (items.length - limits.arrayItems) := by
  have compacted : ∀ item ∈ boundedItems limits (depth + 1) limits.arrayItems items,
      ∃ old ∈ items, item = bounded limits (depth + 1) old := by
    intro item member
    rw [boundedItems_eq] at member
    obtain ⟨old, isOld, rfl⟩ := List.mem_map.1 member
    exact ⟨old, List.mem_of_mem_take isOld, rfl⟩
  by_cases cut : limits.arrayItems < items.length
  · refine ⟨_, by rw [bounded, if_neg (by omega), if_pos cut], fun item member => ?_⟩
    rcases List.mem_append.1 member with kept | last
    · exact .inl (compacted item kept)
    · exact .inr (List.mem_singleton.1 last)
  · exact ⟨_, by rw [bounded, if_neg (by omega), if_neg cut],
      fun item member => .inl (compacted item member)⟩

/-- A record above the limit becomes a record of compacted fields and perhaps a count, in key order
if it was in key order. -/
theorem bounded_record (shallow : depth < limits.depth) (fields : Json.Object) :
    ∃ kept, bounded limits depth (.obj fields) = .obj kept ∧
      (Dictionary.Sorted fields → Dictionary.Sorted kept) ∧
      ∀ field ∈ kept, (∃ old ∈ fields, field.2 = bounded limits (depth + 1) old.2) ∨
        field.2 = .int (fields.length - limits.objectKeys : Nat) := by
  have compacted : ∀ field ∈ boundedFields limits (depth + 1) limits.objectKeys fields,
      ∃ old ∈ fields, field.2 = bounded limits (depth + 1) old.2 := by
    intro field member
    rw [boundedFields_eq] at member
    obtain ⟨old, isOld, rfl⟩ := List.mem_map.1 member
    exact ⟨old, List.mem_of_mem_take isOld, rfl⟩
  have inOrder (sorted : Dictionary.Sorted fields) :
      Dictionary.Sorted (boundedFields limits (depth + 1) limits.objectKeys fields) := by
    have first : Dictionary.Sorted (fields.take limits.objectKeys) :=
      List.Pairwise.sublist (List.take_sublist _ _) sorted
    rw [boundedFields_eq]
    exact first.map_values (bounded limits (depth + 1))
  by_cases cut : limits.objectKeys < fields.length
  · refine ⟨_, by rw [bounded, if_neg (by omega), if_pos cut],
      fun sorted => (inOrder sorted).insert _ _, fun field member => ?_⟩
    rcases Dictionary.mem_insert member with rfl | kept
    · exact .inr rfl
    · exact .inl (compacted field kept)
  · exact ⟨_, by rw [bounded, if_neg (by omega), if_neg cut], inOrder,
      fun field member => .inl (compacted field member)⟩

end Kept

/-! ### Depth -/

theorem Nests.mono {depth deeper : Nat} {value : Json} (nests : Nests depth value)
    (more : depth ≤ deeper) : Nests deeper value := by
  induction nests generalizing deeper with
  | leaf notList notRecord => exact .leaf notList notRecord
  | arr nests ih =>
      obtain ⟨inner, rfl⟩ : ∃ inner, deeper = inner + 1 := ⟨deeper - 1, by omega⟩
      exact .arr fun item member => ih item member (by omega)
  | obj nests ih =>
      obtain ⟨inner, rfl⟩ : ∃ inner, deeper = inner + 1 := ⟨deeper - 1, by omega⟩
      exact .obj fun field member => ih field member (by omega)

theorem nests_depthMarker (depth : Nat) (kind : String) (size : Nat) :
    Nests (depth + 1) (depthMarker kind size) := by
  refine .obj fun field member => ?_
  simp only [List.mem_cons, List.not_mem_nil, or_false] at member
  rcases member with rfl | rfl | rfl
  all_goals exact .leaf (by simp) (by simp)

theorem nests_remainingItems (depth count : Nat) : Nests (depth + 1) (remainingItems count) := by
  refine .obj fun field member => ?_
  rw [List.mem_singleton.1 member]
  exact .leaf (by simp) (by simp)

/-- The lists and records of a compaction stand above the limit, but for one that counts. -/
theorem nests_bounded (limits : Limits) (depth : Nat) (value : Json) :
    Nests (limits.depth - depth + 1) (bounded limits depth value) := by
  induction value using induct generalizing depth with
  | leaf value notList notRecord =>
      cases value with
      | arr items => exact absurd rfl (notList items)
      | obj fields => exact absurd rfl (notRecord fields)
      | _ => exact .leaf (by simp [bounded]) (by simp [bounded])
  | list items ih =>
      by_cases shallow : depth < limits.depth
      · obtain ⟨kept, isKept, each⟩ := bounded_list shallow items
        rw [isKept]
        refine .arr fun item member => ?_
        rcases each item member with ⟨old, isOld, rfl⟩ | rfl
        · exact (ih old isOld (depth + 1)).mono (by omega)
        · exact (nests_remainingItems 0 _).mono (by omega)
      · rw [bounded, if_pos (by omega)]
        exact nests_depthMarker _ _ _
  | record fields ih =>
      by_cases shallow : depth < limits.depth
      · obtain ⟨kept, isKept, -, each⟩ := bounded_record shallow fields
        rw [isKept]
        refine .obj fun field member => ?_
        rcases each field member with ⟨old, isOld, same⟩ | same
        · exact same ▸ (ih old isOld (depth + 1)).mono (by omega)
        · exact same ▸ .leaf (by simp) (by simp)
      · rw [bounded, if_pos (by omega)]
        exact nests_depthMarker _ _ _

/-! ### Numbers and keys -/

/-- A value that a machine of 64 bits can hold: its integers are of 64 bits, its records are in key
order, and its parts can be counted. -/
structure Stored (value : Json) : Prop extends Regular value where
  counted : value.parts.length < 2 ^ 64

theorem regular_count {count : Nat} (fits : count < 2 ^ 64) : Throughout Regular (.int count) :=
  regular_int ⟨by omega, by omega⟩

theorem regular_depthMarker (kind : String) {size : Nat} (fits : size < 2 ^ 64) :
    Throughout Regular (depthMarker kind size) := by
  have keys : ["size", "truncated", "type"].Pairwise (· < ·) := by decide
  refine regular_record (List.pairwise_map.1 keys) fun field member => ?_
  simp only [List.mem_cons, List.not_mem_nil, or_false] at member
  rcases member with rfl | rfl | rfl
  · exact regular_count fits
  · exact regular_leaf (by simp) (by simp) rfl
  · exact regular_str kind

theorem regular_remainingItems {count : Nat} (fits : count < 2 ^ 64) :
    Throughout Regular (remainingItems count) := by
  refine regular_record (by simp [Dictionary.Sorted]) fun field member => ?_
  rw [List.mem_singleton.1 member]
  exact regular_count fits

/-- The compaction of a value that can be held can be read back: the counts in it are integers of 64
bits, and counting what a record leaves out keeps its order. -/
theorem regular_bounded (limits : Limits) (depth : Nat) {value : Json}
    (stored : Throughout Stored value) : Throughout Regular (bounded limits depth value) := by
  induction value using induct generalizing depth with
  | leaf value notList notRecord =>
      cases value with
      | arr items => exact absurd rfl (notList items)
      | obj fields => exact absurd rfl (notRecord fields)
      | str text => exact regular_str _
      | _ => exact .intro stored.here.toRegular (by simp [bounded, parts])
  | list items ih =>
      have counted : items.length < 2 ^ 64 := stored.here.counted
      by_cases shallow : depth < limits.depth
      · obtain ⟨kept, isKept, each⟩ := bounded_list shallow items
        rw [isKept]
        refine regular_list fun item member => ?_
        rcases each item member with ⟨old, isOld, rfl⟩ | rfl
        · exact ih old isOld (depth + 1) (stored.part isOld)
        · exact regular_remainingItems (by omega)
      · rw [bounded, if_pos (by omega)]
        exact regular_depthMarker _ counted
  | record fields ih =>
      have counted : fields.length < 2 ^ 64 := by
        simpa [parts] using stored.here.counted
      by_cases shallow : depth < limits.depth
      · obtain ⟨kept, isKept, sorted, each⟩ := bounded_record shallow fields
        rw [isKept]
        refine regular_record (sorted (stored.here.inOrder fields rfl))
          fun field member => ?_
        rcases each field member with ⟨old, isOld, same⟩ | same
        · exact same ▸ ih old isOld (depth + 1) (stored.field isOld)
        · exact same ▸ regular_count (by omega)
      · rw [bounded, if_pos (by omega)]
        exact regular_depthMarker _ counted

end Parley.Json
