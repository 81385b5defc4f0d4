/-
Module: Parley.Proofs.Dictionary
Layer: Proofs
Purpose: Tables read after entries were left out, tables made of lists of entries, and the entries
  and keys of a table against what is found in it.
Main exports: Dictionary.find?_filter, Dictionary.find?_of_find?_take, Dictionary.mem_of_find?,
  Dictionary.mem_iff_find?, Dictionary.mem_keys_iff, Dictionary.Sorted.ext, Dictionary.Sorted.keys,
  Dictionary.find?_ofList, Dictionary.find?_map_values, Dictionary.length_insert_le,
  Dictionary.erase_insert_self
-/
import Parley.Dictionary

namespace Parley.Dictionary

variable {α : Type}

/-- A key that none of the entries has is not found. -/
theorem find?_eq_none {table : Dictionary α} {key : String}
    (absent : ∀ entry ∈ table, entry.1 ≠ key) : find? table key = none := by
  induction table with
  | nil => rfl
  | cons head rest ih =>
      obtain ⟨name, value⟩ := head
      have here : name ≠ key := absent (name, value) List.mem_cons_self
      rw [find?, if_neg here]
      exact ih fun entry member => absent entry (List.mem_cons_of_mem _ member)

/-- What is found is an entry. -/
theorem mem_of_find? {table : Dictionary α} {key : String} {value : α}
    (found : find? table key = some value) : (key, value) ∈ table := by
  induction table with
  | nil => simp at found
  | cons head rest ih =>
      obtain ⟨name, old⟩ := head
      rw [find?] at found
      split at found
      · next same =>
          cases found
          exact same ▸ List.mem_cons_self
      · exact List.mem_cons_of_mem _ (ih found)

/-- In a table whose keys increase, every entry is found under its key. -/
theorem mem_iff_find? {table : Dictionary α} (sorted : Sorted table) {key : String} {value : α} :
    (key, value) ∈ table ↔ find? table key = some value := by
  constructor
  · intro member
    induction table with
    | nil => simp at member
    | cons head rest ih =>
        obtain ⟨name, old⟩ := head
        obtain ⟨above, restSorted⟩ := List.pairwise_cons.1 sorted
        rcases List.mem_cons.1 member with here | there
        · cases here
          simp [find?]
        · have different : name ≠ key := fun same =>
            String.lt_irrefl key (same ▸ above (key, value) there)
          rw [find?, if_neg different]
          exact ih restSorted there
  · exact mem_of_find?

/-- The keys of a table are those under which something is found. -/
theorem mem_keys_iff {table : Dictionary α} {key : String} :
    key ∈ keys table ↔ find? table key ≠ none := by
  constructor
  · rw [keys, List.mem_map]
    rintro ⟨entry, isEntry, rfl⟩ none
    induction table with
    | nil => simp at isEntry
    | cons head rest ih =>
        obtain ⟨name, old⟩ := head
        rw [find?] at none
        split at none
        · contradiction
        · next different =>
            rcases List.mem_cons.1 isEntry with here | there
            · exact different (congrArg Prod.fst here).symm
            · exact ih there none
  · intro found
    obtain ⟨value, isValue⟩ := Option.ne_none_iff_exists'.1 found
    exact List.mem_map_of_mem (mem_of_find? isValue)

/-- Tables in which the same is found under each key are the same. -/
theorem Sorted.ext {one two : Dictionary α} (sorted : Sorted one) (sortedToo : Sorted two)
    (same : ∀ key, find? one key = find? two key) : one = two := by
  have antisymmetric : ∀ first second : String × α, first ∈ one → second ∈ two →
      first.1 < second.1 → second.1 < first.1 → first = second :=
    fun _ _ _ _ below above => absurd (String.lt_trans below above) (String.lt_irrefl _)
  have distinct : ∀ {table : Dictionary α}, Sorted table → table.Nodup := by
    intro table sorted
    refine List.Pairwise.imp (S := (· ≠ ·)) ?_ sorted
    rintro first _ below rfl
    exact String.lt_irrefl _ below
  have members : ∀ entry, entry ∈ one ↔ entry ∈ two := fun (key, value) => by
    rw [mem_iff_find? sorted, mem_iff_find? sortedToo, same key]
  have perm := (List.perm_ext_iff_of_nodup (distinct sorted) (distinct sortedToo)).2 members
  exact perm.eq_of_pairwise antisymmetric sorted sortedToo

theorem Sorted.keys {table : Dictionary α} (sorted : Sorted table) :
    (Dictionary.keys table).Pairwise (· < ·) :=
  List.pairwise_map.2 sorted

/-- In the table of a list of entries, the last entry with a key is found. -/
theorem find?_ofList (entries : List (String × α)) (key : String) :
    find? (ofList entries) key =
      (entries.reverse.find? fun entry => entry.1 = key).map (·.2) := by
  have folded : ∀ table : Dictionary α,
      find? (entries.foldl (fun table entry => insert entry.1 entry.2 table) table) key =
        ((entries.reverse.find? fun entry => entry.1 = key).map (·.2)).or (find? table key) := by
    induction entries with
    | nil => exact fun _ => rfl
    | cons entry entries ih =>
        intro table
        rw [List.foldl_cons, ih, List.reverse_cons, List.find?_append]
        cases entries.reverse.find? fun entry => entry.1 = key with
        | some found => rfl
        | none =>
            by_cases same : entry.1 = key
            · subst same
              simp
            · simp [same, find?_insert_of_ne]
  have whole := folded []
  rwa [find?_nil, Option.or_none] at whole

/-- The entries of a table are among those it is made of. -/
theorem mem_of_mem_ofList {entries : List (String × α)} {entry : String × α}
    (member : entry ∈ ofList entries) : entry ∈ entries := by
  obtain ⟨key, value⟩ := entry
  have found := (mem_iff_find? (Sorted.ofList entries)).1 member
  rw [find?_ofList, Option.map_eq_some_iff] at found
  obtain ⟨⟨name, _⟩, first, rfl⟩ := found
  have same : name = key := by simpa using List.find?_some first
  exact same ▸ List.mem_reverse.1 (List.mem_of_find?_eq_some first)

/-- Where all entries with a key have one value, this value is found. -/
theorem find?_ofList_of_agree {entries : List (String × α)} {key : String} {value : α}
    (member : (key, value) ∈ entries)
    (agree : ∀ other, (key, other) ∈ entries → other = value) :
    find? (ofList entries) key = some value := by
  rw [find?_ofList]
  cases found : entries.reverse.find? fun entry => entry.1 = key with
  | none =>
      have absent := List.find?_eq_none.1 found (key, value) (List.mem_reverse.2 member)
      simp at absent
  | some entry =>
      obtain ⟨name, other⟩ := entry
      have same : name = key := by simpa using List.find?_some found
      subst same
      have isEntry := List.mem_reverse.1 (List.mem_of_find?_eq_some found)
      rw [Option.map_some, agree other isEntry]

/-- A table whose keys increase is made of its own entries. -/
theorem Sorted.ofList_eq {table : Dictionary α} (sorted : Sorted table) :
    Dictionary.ofList table = table := by
  refine (Sorted.ofList table).ext sorted fun key => ?_
  cases found : find? table key with
  | some value =>
      refine find?_ofList_of_agree (mem_of_find? found) fun other member => ?_
      exact Option.some.inj (((mem_iff_find? sorted).1 member).symm.trans found)
  | none =>
      refine find?_eq_none ?_
      rintro ⟨name, value⟩ member rfl
      have isEntry := (mem_iff_find? sorted).1 (mem_of_mem_ofList member)
      rw [found] at isEntry
      cases isEntry

/-- Leaving entries out of a table leaves out what is found under their keys: no second entry with
the key comes to light. -/
theorem find?_filter {table : Dictionary α} (sorted : Sorted table) (keeps : String × α → Bool)
    (key : String) :
    find? (table.filter keeps) key = (find? table key).filter fun value => keeps (key, value) := by
  induction table with
  | nil => rfl
  | cons head rest ih =>
      obtain ⟨name, value⟩ := head
      obtain ⟨above, restSorted⟩ := List.pairwise_cons.1 sorted
      by_cases same : name = key
      · subst same
        cases kept : keeps (name, value) with
        | true => simp [find?, Option.filter, kept]
        | false =>
            -- The rest of the table has only greater keys.
            have absent : find? (rest.filter keeps) name = none :=
              find?_eq_none fun entry member equal =>
                absurd (above entry (List.mem_filter.1 member).1) (equal ▸ String.lt_irrefl name)
            simp [find?, Option.filter, kept, absent]
      · cases kept : keeps (name, value) with
        | true => simp [find?, kept, same, ih restSorted]
        | false => simp [find?, kept, same, ih restSorted]

/-- What is found in a table whose values were replaced. -/
theorem find?_map_values {β : Type} (replace : α → β) (table : Dictionary α) (key : String) :
    find? (table.map fun (name, value) => (name, replace value)) key =
      (find? table key).map replace := by
  induction table with
  | nil => rfl
  | cons head rest ih =>
      obtain ⟨name, value⟩ := head
      by_cases same : name = key
      · simp [find?, same]
      · simpa [find?, same] using ih

/-- What is found among the first entries of a table is found in the table. -/
theorem find?_of_find?_take {table : Dictionary α} {count : Nat} {key : String} {value : α}
    (found : find? (table.take count) key = some value) : find? table key = some value := by
  induction table generalizing count with
  | nil => simp at found
  | cons head rest ih =>
      obtain ⟨name, old⟩ := head
      cases count with
      | zero => simp at found
      | succ count =>
          rw [List.take_succ_cons, find?] at found
          rw [find?]
          split
          · next same => rwa [if_pos same] at found
          · next different => exact ih (by rwa [if_neg different] at found)

theorem length_insert_le (key : String) (value : α) (table : Dictionary α) :
    (insert key value table).length ≤ table.length + 1 := by
  induction table with
  | nil => simp [insert]
  | cons head rest ih =>
      rw [insert]
      split
      · simp
      · split
        · simp
        · simpa using ih

/-- What was stored under a key does not matter once the key is forgotten. -/
theorem erase_insert_self (key : String) (value : α) (table : Dictionary α) :
    erase (insert key value table) key = erase table key := by
  induction table with
  | nil => simp [insert, erase]
  | cons head rest ih =>
      obtain ⟨name, old⟩ := head
      rw [insert]
      split
      · simp [erase]
      · split
        · next same => simp [erase, same]
        · next different => simpa [erase, Ne.symm different] using ih

/-- Replacing values leaves the order of the keys. -/
theorem Sorted.map_values {β : Type} {table : Dictionary α} (sorted : Sorted table)
    (replace : α → β) : Sorted (table.map fun (name, value) => (name, replace value)) :=
  List.pairwise_map.2 sorted

end Parley.Dictionary
