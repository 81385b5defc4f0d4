/-
Module: Parley.Proofs.Opening.Bounds
Layer: Proofs
Purpose: How a compaction is bounded.  Lists, records and texts keep within the limits but for what
  says that something was left out; what is too deep is told by its kind and its size; and a value
  that is within the limits is not changed.
Main exports: Json.CutFrom, Json.Bounds, Json.Moderate, Json.bounded_eq_self, Json.bounds_compacted
-/
import Parley.Proofs.Opening.Kept

namespace Parley.Json

variable {limits : Limits} {depth : Nat} {value : Json} {path : List Step}

/-! ### Texts -/

/-- A text has no more characters than the limit and a mark of twelve, and the first of them are those
of the text it is cut from, up to the limit. -/
def CutFrom (limit : Nat) (original text : String) : Prop :=
  text.toList.length ≤ limit + 12 ∧
    original.toList.take (min original.toList.length limit) <+: text.toList

theorem cutFrom_cut (original : String) (limit : Nat) :
    CutFrom limit original (Text.cut original limit) := by
  have mark : Text.cutMark.toList.length = 12 := by decide
  by_cases short : original.toList.length ≤ limit
  · rw [Text.cut, if_pos short, CutFrom, Nat.min_eq_left short]
    exact ⟨by omega, List.take_prefix _ _⟩
  · have cut : (Text.cut original limit).toList =
        original.toList.take limit ++ Text.cutMark.toList := by
      simp [Text.cut, short, Text.firstChars]
    rw [CutFrom, cut, Nat.min_eq_right (by omega), List.length_append, mark]
    exact ⟨Nat.add_le_add_right (List.length_take_le _ _) 12, List.prefix_append _ _⟩

/-! ### Bounds -/

/-- A result as the compaction of a value is bounded by the limits. -/
structure Bounds (limits : Limits) (value result : Json) : Prop where
  /-- No more lists and records than the limit stand inside one another, but for one. -/
  nested : Nests (limits.depth + 1) result
  /-- A list that is too deep has become a marker of its kind with the number of its items, -/
  deepList : ∀ path items, Kept limits value path (.arr items) → limits.depth ≤ path.length →
    result.at? path = some (depthMarker "array" items.length)
  /-- and a record with the number of its fields. -/
  deepRecord : ∀ path fields, Kept limits value path (.obj fields) → limits.depth ≤ path.length →
    result.at? path = some (depthMarker "object" fields.length)
  /-- Each list has no more items than the limit, but for one. -/
  lists : ∀ path items, result.at? path = some (.arr items) →
    items.length ≤ limits.arrayItems + 1
  /-- Each record that is no such marker has no more fields than the limit, but for one. -/
  records : ∀ path fields, result.at? path = some (.obj fields) → ¬Deep limits value path →
    fields.length ≤ limits.objectKeys + 1
  /-- Each text that is not in such a marker is cut from the text that stands in its place. -/
  texts : ∀ path text, result.at? path = some (.str text) →
    (∀ outer step, path = outer ++ [step] → ¬Deep limits value outer) →
      ∃ original, value.at? path = some (.str original) ∧
        CutFrom limits.stringChars original text

theorem length_of_stands_arr {items : List Json} (stands : Stands limits value path (.arr items)) :
    items.length ≤ limits.arrayItems + 1 := by
  generalize isList : Json.arr items = found at stands
  cases stands with
  | @part _ part kept =>
      have becomes := becomes_bounded limits path.length part
      rw [← isList] at becomes
      cases becomes with
      | list old _ => exact length_keptItems_le limits path.length old
      | other leaf _ => exact absurd (.inl ⟨items, rfl⟩) leaf
  | entry _ leaf => exact absurd (.inl ⟨items, isList.symm⟩) leaf
  | remaining => cases isList
  | count => cases isList

theorem length_of_stands_obj {fields : Json.Object} (stands : Stands limits value path (.obj fields))
    (notDeep : ¬Deep limits value path) : fields.length ≤ limits.objectKeys + 1 := by
  generalize isRecord : Json.obj fields = found at stands
  cases stands with
  | @part _ part kept =>
      have becomes := becomes_bounded limits path.length part
      rw [← isRecord] at becomes
      cases becomes with
      | record old _ => exact length_keptFields_le limits path.length old
      | marker _ _ deep composite => exact absurd ⟨deep, part, kept, composite⟩ notDeep
      | other leaf _ => exact absurd (.inr ⟨fields, rfl⟩) leaf
  | entry _ leaf => exact absurd (.inr ⟨fields, isRecord.symm⟩) leaf
  | remaining _ count =>
      cases isRecord
      exact Nat.le_add_left 1 _
  | count => cases isRecord

theorem cutFrom_of_stands_str {text : String} (stands : Stands limits value path (.str text))
    (notEntry : ∀ outer step, path = outer ++ [step] → ¬Deep limits value outer) :
    ∃ original, value.at? path = some (.str original) ∧
      CutFrom limits.stringChars original text := by
  generalize isText : Json.str text = found at stands
  cases stands with
  | @part _ part kept =>
      have becomes := becomes_bounded limits path.length part
      rw [← isText] at becomes
      cases becomes with
      | text original => exact ⟨original, kept.reached.at?, cutFrom_cut original limits.stringChars⟩
      | other _ notText => exact absurd rfl (notText text)
  | entry deep => exact absurd deep (notEntry _ _ rfl)
  | remaining => cases isText
  | count => cases isText

/-! ### Values within the limits -/

/-- A part that is not longer than the limits allow. -/
structure Moderate (limits : Limits) (part : Json) : Prop where
  lists : ∀ items, part = .arr items → items.length ≤ limits.arrayItems
  records : ∀ fields, part = .obj fields → fields.length ≤ limits.objectKeys
  texts : ∀ text, part = .str text → text.toList.length ≤ limits.stringChars

/-- Where the lists and records of a value fit in what the depth limit leaves, and nothing in it is
too long, compaction leaves it as it is. -/
theorem bounded_eq_self {room : Nat} (nests : Nests room value)
    (moderate : Throughout (Moderate limits) value) (fits : depth + room ≤ limits.depth) :
    bounded limits depth value = value := by
  induction nests generalizing depth with
  | @leaf _ value notList notRecord =>
      cases value with
      | arr items => exact absurd rfl (notList items)
      | obj fields => exact absurd rfl (notRecord fields)
      | str text => rw [bounded, Text.cut, if_pos (moderate.here.texts text rfl)]
      | _ => simp [bounded]
  | @arr room items _ ih =>
      have short : items.length ≤ limits.arrayItems := moderate.here.lists items rfl
      have same : ∀ item ∈ items, bounded limits (depth + 1) item = item :=
        fun item member => ih item member (moderate.part member) (by omega)
      rw [bounded_arr (by omega), keptItems, if_neg (by omega), List.append_nil,
        List.take_of_length_le short, List.map_congr_left same, List.map_id']
  | @obj room fields _ ih =>
      have short : fields.length ≤ limits.objectKeys := moderate.here.records fields rfl
      have same : ∀ field ∈ fields, (field.1, bounded limits (depth + 1) field.2) = field := by
        intro field member
        rw [ih field member (moderate.field member) (by omega)]
      rw [bounded_obj (by omega), keptFields, if_neg (by omega), firstFields,
        List.take_of_length_le short, List.map_congr_left same, List.map_id']

/-! ### The compaction of a value -/

/-- A compaction is bounded by its limits, whatever the value and the limits are; and a value that is
within them is its own compaction.  A list or record that is too deep has its marker in its place
where it is kept. -/
theorem bounds_compacted (limits : Limits) (value : Json) :
    Bounds limits value (compacted limits value) ∧
      (Nests limits.depth value → Throughout (Moderate limits) value →
        compacted limits value = value) := by
  refine ⟨?_, fun nests moderate => bounded_eq_self nests moderate (by omega)⟩
  constructor
  · exact nests_bounded limits 0 value
  · intro path items kept deep
    rw [kept.at?_compacted, bounded_arr_deep deep]
  · intro path fields kept deep
    rw [kept.at?_compacted, bounded_obj_deep deep]
  · exact fun path items found => length_of_stands_arr (stands_of_at? found)
  · exact fun path fields found => length_of_stands_obj (stands_of_at? found)
  · exact fun path text found => cutFrom_of_stands_str (stands_of_at? found)

/-- A list in a list, and a text, where no more than one list may stand inside another and texts have
three characters. -/
theorem bounds_compacted_list :
    let limits : Limits := ⟨1, 2, 2, 3, 12000, 2000⟩
    (compacted limits (.arr [.arr [.int 1, .int 2], .str "long"])).at? [.item 0] =
        some (depthMarker "array" 2) ∧
      compacted limits (.arr [.str "abc"]) = .arr [.str "abc"] := by
  intro limits
  have inner : Kept limits (.arr [.arr [.int 1, .int 2], .str "long"]) [.item 0]
      (.arr [.int 1, .int 2]) :=
    .step .whole ⟨.item (by decide) (by decide) rfl, fun covers => nomatch covers.1⟩
  have text : Throughout (Moderate limits) (.str "abc") :=
    .intro ⟨by simp, by simp, by simp [limits]⟩ (by simp [parts])
  have list : Throughout (Moderate limits) (.arr [.str "abc"]) :=
    .intro ⟨by simp [limits], by simp, by simp⟩ (by simpa [parts] using text)
  have nests : Nests limits.depth (.arr [.str "abc"]) :=
    .arr fun item member => List.mem_singleton.1 member ▸ .leaf (by simp) (by simp)
  exact ⟨(bounds_compacted limits _).1.deepList _ _ inner (by decide),
    (bounds_compacted limits _).2 nests list⟩

/-- A list that is too deep, under the key that counts are given. -/
def covered : Json := .obj [(omittedKey, .arr [.int 1]), ("b", .int 2)]

/-- A compaction can come to a list that is too deep and leave no marker of it, where the record
around it counts what it leaves out under the key of the list. -/
theorem reached_unmarked :
    ¬∀ (limits : Limits) (value : Json) (path : List Step) (items : List Json),
      Reached limits value path (.arr items) → limits.depth ≤ path.length →
        (compacted limits value).at? path = some (depthMarker "array" items.length) := by
  intro marked
  have reached : Reached ⟨1, 20, 1, 280, 12000, 2000⟩ covered [.field omittedKey] (.arr [.int 1]) :=
    .step .whole (.field (by decide) rfl)
  have counted : (compacted ⟨1, 20, 1, 280, 12000, 2000⟩ covered).at? [.field omittedKey] =
      some (.int 1) := rfl
  have both := counted.symm.trans (marked _ _ _ _ reached (by decide))
  cases both

end Parley.Json
