/-
Module: Parley.Proofs.Opening.Account
Layer: Proofs
Purpose: Compaction leaves nothing out without saying so.  At every depth above the limit, what is
  left of a list are its first items and the number of the others, and what is left of a record are
  its first fields and the number of the others, exactly if none of the first fields has the key
  under which the number stands.
Main exports: Json.Accounts, Json.Collides, Json.accounts_iff, Json.accounts_compacted
-/
import Parley.Proofs.Opening.Kept

namespace Parley.Json

variable {limits : Limits} {depth : Nat} {fields : Json.Object}

/-- What is left of a record accounts for all its fields. -/
structure Accounts (limits : Limits) (depth : Nat) (fields kept : Json.Object) : Prop where
  /-- Under each of the first keys stands the compaction of what stood there. -/
  own : ∀ key part, Dictionary.find? (fields.take limits.objectKeys) key = some part →
    Dictionary.find? kept key = some (bounded limits (depth + 1) part)
  /-- If there are no more fields than the limit, all keys are left and no others are added. -/
  whole : fields.length ≤ limits.objectKeys → Dictionary.keys kept = Dictionary.keys fields
  /-- If there are more, their number stands under a key of its own, -/
  counted : limits.objectKeys < fields.length →
    Dictionary.find? kept omittedKey = some (.int (fields.length - limits.objectKeys : Nat))
  /-- the other keys are the first keys, -/
  others : limits.objectKeys < fields.length →
    Dictionary.keys (Dictionary.erase kept omittedKey) =
      Dictionary.keys (fields.take limits.objectKeys)
  /-- and these and the number add up to all fields. -/
  total : limits.objectKeys < fields.length →
    (Dictionary.erase kept omittedKey).length + (fields.length - limits.objectKeys) = fields.length

/-- A record that has to leave fields out has the key of the count among its first. -/
def Collides (limits : Limits) (fields : Json.Object) : Prop :=
  limits.objectKeys < fields.length ∧ omittedKey ∈ Dictionary.keys (fields.take limits.objectKeys)

theorem keys_firstFields (limits : Limits) (depth : Nat) (fields : Json.Object) :
    Dictionary.keys (firstFields limits depth fields) =
      Dictionary.keys (fields.take limits.objectKeys) := by
  simp [firstFields, Dictionary.keys, Function.comp_def]

/-- Forgetting a key that is not there changes nothing. -/
theorem erase_firstFields (absent : omittedKey ∉ Dictionary.keys (fields.take limits.objectKeys)) :
    Dictionary.erase (firstFields limits depth fields) omittedKey =
      firstFields limits depth fields := by
  refine List.filter_eq_self.2 fun field member => ?_
  have isKey : field.1 ∈ Dictionary.keys (fields.take limits.objectKeys) :=
    keys_firstFields limits depth fields ▸ List.mem_map_of_mem member
  have different : field.1 ≠ omittedKey := fun same => absent (same ▸ isKey)
  simp [different]

theorem accounts_of_not_collides (free : ¬Collides limits fields) :
    Accounts limits depth fields (keptFields limits depth fields) := by
  have absent (cut : limits.objectKeys < fields.length) :
      omittedKey ∉ Dictionary.keys (fields.take limits.objectKeys) := fun member => free ⟨cut, member⟩
  have erased (cut : limits.objectKeys < fields.length) :
      Dictionary.erase (keptFields limits depth fields) omittedKey =
        firstFields limits depth fields := by
    rw [keptFields, if_pos cut, Dictionary.erase_insert_self, erase_firstFields (absent cut)]
  constructor
  · intro key part found
    have elsewhere : ¬(limits.objectKeys < fields.length ∧ key = omittedKey) := by
      rintro ⟨cut, rfl⟩
      refine absent cut (Dictionary.mem_keys_iff.2 ?_)
      rw [found]
      exact Option.some_ne_none part
    rw [find?_keptFields, if_neg elsewhere, found, Option.map_some]
  · intro short
    rw [keptFields, if_neg (by omega), keys_firstFields, List.take_of_length_le short]
  · intro cut
    rw [find?_keptFields, if_pos ⟨cut, rfl⟩]
  · intro cut
    rw [erased cut, keys_firstFields]
  · intro cut
    rw [erased cut, length_firstFields]
    omega

/-- A record accounts for its fields exactly if the count does not take the place of one of them. -/
theorem accounts_iff (limits : Limits) (depth : Nat) (fields : Json.Object) :
    Accounts limits depth fields (keptFields limits depth fields) ↔ ¬Collides limits fields := by
  refine ⟨?_, accounts_of_not_collides⟩
  rintro accounts ⟨cut, collides⟩
  rw [← accounts.others cut] at collides
  obtain ⟨field, member, same⟩ := List.mem_map.1 collides
  have different := (List.mem_filter.1 member).2
  simp [same] at different

/-- Whatever the limits are, each list and each record above the depth limit that is kept stands in
its place with its first items or fields, compacted, and the number of the others if there are
others.  A record does so exactly if the count has a key of its own. -/
theorem accounts_compacted (limits : Limits) (value : Json) (path : List Step)
    (shallow : path.length < limits.depth) :
    (∀ fields, Kept limits value path (.obj fields) →
      ∃ kept, (compacted limits value).at? path = some (.obj kept) ∧
        (Dictionary.Sorted fields → Dictionary.Sorted kept) ∧
        (Accounts limits path.length fields kept ↔ ¬Collides limits fields)) ∧
    ∀ items, Kept limits value path (.arr items) →
      (compacted limits value).at? path = some (.arr
        ((items.take limits.arrayItems).map (bounded limits (path.length + 1)) ++
          if limits.arrayItems < items.length then
            [remainingItems (items.length - limits.arrayItems)] else [])) := by
  constructor
  · intro fields kept
    have same := bounded_obj shallow fields
    obtain ⟨others, sameToo, sorted, -⟩ := bounded_record shallow fields
    rw [same, Json.obj.injEq] at sameToo
    refine ⟨keptFields limits path.length fields, ?_, sameToo ▸ sorted, accounts_iff _ _ _⟩
    rw [kept.at?_compacted, same]
  · intro items kept
    rw [kept.at?_compacted, bounded_arr shallow, keptItems]

/-- The fields of a record whose second key is that of the count. -/
def labelled : Json.Object :=
  [("A", .int 2), (omittedKey, .str "mine"), ("a", .int 3), ("b", .int 1)]

/-- A record inside a list, with one field more than is kept, and the key of the count after the
cut. -/
theorem accounts_compacted_labelled :
    let limits : Limits := ⟨4, 20, 1, 280, 12000, 2000⟩
    ∃ kept, (compacted limits (.arr [.obj labelled])).at? [.item 0] = some (.obj kept) ∧
      Accounts limits 1 labelled kept := by
  intro limits
  have inner : Kept limits (.arr [.obj labelled]) [.item 0] (.obj labelled) :=
    .step .whole ⟨.item (by decide) (by decide) rfl, fun covers => nomatch covers.1⟩
  obtain ⟨kept, stands, -, accounts⟩ :=
    (accounts_compacted limits (.arr [.obj labelled]) [.item 0] (by decide)).1 labelled inner
  have free : ¬Collides limits labelled := fun collides => absurd collides.2 (by decide)
  exact ⟨kept, stands, accounts.2 free⟩

/-- If the key of the count is among the first, what stood under it is gone and is not counted. -/
theorem count_in_place :
    let limits : Limits := ⟨4, 20, 3, 280, 12000, 2000⟩
    Reached limits (.obj labelled) [.field omittedKey] (.str "mine") ∧
      compacted limits (.obj labelled) =
        .obj [("A", .int 2), (omittedKey, .int 1), ("a", .int 3)] ∧
      ¬Accounts limits 0 labelled [("A", .int 2), (omittedKey, .int 1), ("a", .int 3)] := by
  intro limits
  refine ⟨.step .whole (.field (by decide) rfl), rfl, fun accounts => ?_⟩
  have own := accounts.own omittedKey (.str "mine") rfl
  cases own

end Parley.Json
