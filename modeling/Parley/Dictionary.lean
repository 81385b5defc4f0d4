/-
Module: Parley.Dictionary
Layer: Foundations
Purpose: Tables keyed by text.  A table is an association list whose keys strictly increase in
  code-point order, so a table has one spelling: reading it front to back gives its entries in the
  order in which every listing of this library shows them.
Main exports: Dictionary, Dictionary.Sorted, Dictionary.find?, Dictionary.insert,
  Dictionary.erase, Dictionary.ofList, Dictionary.Sorted.insert, Dictionary.Sorted.ofList
-/

namespace Parley

/-- A table from text to `α`.  Every operation below keeps the keys strictly increasing. -/
abbrev Dictionary (α : Type) : Type := List (String × α)

namespace Dictionary

variable {α : Type}

/-- The keys strictly increase, so no key occurs twice. -/
def Sorted (table : Dictionary α) : Prop :=
  table.Pairwise fun one two => one.1 < two.1

/-- The value stored under a key. -/
def find? (table : Dictionary α) (key : String) : Option α :=
  match table with
  | [] => none
  | (name, value) :: rest => if name = key then some value else find? rest key

/-- Whether a key is present. -/
def has (table : Dictionary α) (key : String) : Bool :=
  (find? table key).isSome

/-- The keys in increasing order. -/
def keys (table : Dictionary α) : List String :=
  table.map (·.1)

/-- Store a value under a key, in place of the value that was there. -/
def insert (key : String) (value : α) : Dictionary α → Dictionary α
  | [] => [(key, value)]
  | (name, old) :: rest =>
      if key < name then (key, value) :: (name, old) :: rest
      else if key = name then (key, value) :: rest
      else (name, old) :: insert key value rest

/-- Forget a key. -/
def erase (table : Dictionary α) (key : String) : Dictionary α :=
  table.filter fun entry => !decide (entry.1 = key)

/-- The table of a list of entries; of two entries with one key the later wins. -/
def ofList (entries : List (String × α)) : Dictionary α :=
  entries.foldl (fun table entry => insert entry.1 entry.2 table) []

/-! ### Reading back what was written -/

@[simp] theorem find?_nil (key : String) : find? ([] : Dictionary α) key = none := rfl

@[simp] theorem find?_insert_self (key : String) (value : α) (table : Dictionary α) :
    find? (insert key value table) key = some value := by
  induction table with
  | nil => simp [insert, find?]
  | cons head rest ih =>
      obtain ⟨name, old⟩ := head
      rw [insert]
      split
      · simp [find?]
      · split
        · simp [find?]
        · next different => simp [find?, Ne.symm different, ih]

theorem find?_insert_of_ne {key other : String} (value : α) (table : Dictionary α)
    (different : key ≠ other) :
    find? (insert key value table) other = find? table other := by
  induction table with
  | nil => simp [insert, find?, different]
  | cons head rest ih =>
      obtain ⟨name, old⟩ := head
      rw [insert]
      split
      · simp [find?, different]
      · split
        · next same => subst same; simp [find?, different]
        · by_cases found : name = other <;> simp [find?, found, ih]

@[simp] theorem find?_erase_self (key : String) (table : Dictionary α) :
    find? (erase table key) key = none := by
  induction table with
  | nil => simp [erase]
  | cons head rest ih =>
      obtain ⟨name, old⟩ := head
      by_cases same : name = key
      · simpa [erase, same] using ih
      · simpa [erase, same, find?] using ih

theorem find?_erase_of_ne {key other : String} (table : Dictionary α) (different : key ≠ other) :
    find? (erase table key) other = find? table other := by
  induction table with
  | nil => simp [erase]
  | cons head rest ih =>
      obtain ⟨name, old⟩ := head
      by_cases same : name = key
      · subst same
        simpa [erase, find?, different] using ih
      · by_cases found : name = other
        · simp [erase, find?, found, Ne.symm different]
        · simpa [erase, find?, same, found] using ih

/-! ### Order -/

/-- What a table holds after storing a value is that value or was there before. -/
theorem mem_insert {key : String} {value : α} {table : Dictionary α} {entry : String × α}
    (member : entry ∈ insert key value table) : entry = (key, value) ∨ entry ∈ table := by
  induction table with
  | nil => simpa [insert] using member
  | cons head rest ih =>
      obtain ⟨name, old⟩ := head
      rw [insert] at member
      split at member
      · simpa using member
      · split at member
        · rcases List.mem_cons.1 member with here | there
          · exact .inl here
          · exact .inr (List.mem_cons_of_mem _ there)
        · rcases List.mem_cons.1 member with here | there
          · exact .inr (here ▸ List.mem_cons_self)
          · rcases ih there with same | old
            · exact .inl same
            · exact .inr (List.mem_cons_of_mem _ old)

theorem Sorted.insert {table : Dictionary α} (sorted : Sorted table) (key : String) (value : α) :
    Sorted (Dictionary.insert key value table) := by
  induction table with
  | nil => simp [Dictionary.insert, Sorted]
  | cons head rest ih =>
      obtain ⟨name, old⟩ := head
      obtain ⟨above, restSorted⟩ := List.pairwise_cons.1 sorted
      rw [Dictionary.insert]
      split
      · next before =>
          refine List.pairwise_cons.2 ⟨?_, sorted⟩
          intro entry member
          rcases List.mem_cons.1 member with here | there
          · subst here
            exact before
          · exact String.lt_trans before (above entry there)
      · next notBefore =>
          split
          · next same =>
              subst same
              exact List.pairwise_cons.2 ⟨above, restSorted⟩
          · next different =>
              refine List.pairwise_cons.2 ⟨?_, ih restSorted⟩
              intro entry member
              rcases mem_insert member with here | there
              · subst here
                exact Std.lt_of_le_of_ne (String.not_lt.1 notBefore) (Ne.symm different)
              · exact above entry there

theorem Sorted.ofList (entries : List (String × α)) : Sorted (Dictionary.ofList entries) := by
  suffices kept : ∀ table : Dictionary α, Sorted table →
      Sorted (entries.foldl (fun table entry => Dictionary.insert entry.1 entry.2 table) table) from
    kept [] List.Pairwise.nil
  induction entries with
  | nil => exact fun _ sorted => sorted
  | cons entry entries ih => exact fun table sorted => ih _ (sorted.insert entry.1 entry.2)

theorem Sorted.erase {table : Dictionary α} (sorted : Sorted table) (key : String) :
    Sorted (erase table key) :=
  List.Pairwise.filter _ sorted

end Dictionary

end Parley
