/-
Module: Parley.Proofs.Intent.Toolset
Layer: Proofs
Purpose: Which intents may be called.  Of the intents registered under one code the first counts, and
  of a catalog the codes of the subset, if there is one, whatever else the subset names and however
  often.  The names of a toolset and the names under which its tools are described are these codes,
  in order and each once.
Main exports: Callable, Catalog.find?_ofIntents, Catalog.find?_toolset, Catalog.mem_names_iff,
  Catalog.names_sorted, Catalog.names_definitions
-/
import Parley.Intent.Toolset
import Parley.Proofs.Dictionary

namespace Parley

open Dictionary (find?)

variable {η : Type}

/-- Whether an intent is registered under a code and, if there is a subset, named in it. -/
def Callable (intents : List (Intent η)) (subset : Option (List String)) (code : String) : Prop :=
  (∃ intent ∈ intents, intent.code = code) ∧ ∀ codes, subset = some codes → code ∈ codes

namespace Catalog

/-! ### Registering -/

section Register

variable (intents : List (Intent η)) (code : String)

theorem find?_register (catalog : Catalog η) (intent : Intent η) :
    find? (register catalog intent).1 code =
      (find? catalog code).or (if intent.code = code then some intent else none) := by
  rw [register]
  split
  · next taken =>
      rw [Dictionary.has, Option.isSome_iff_exists] at taken
      obtain ⟨earlier, found⟩ := taken
      by_cases same : intent.code = code
      · rw [← same, found]
        rfl
      · rw [if_neg same, Option.or_none]
  · next free =>
      rw [Dictionary.has, Option.not_isSome_iff_eq_none] at free
      by_cases same : intent.code = code
      · subst same
        rw [free, if_pos rfl]
        exact Dictionary.find?_insert_self _ _ _
      · rw [if_neg same, Option.or_none]
        exact Dictionary.find?_insert_of_ne _ _ same

/-- Of the intents registered under one code the first counts. -/
theorem find?_ofIntents :
    find? (ofIntents intents) code = intents.find? fun intent => intent.code = code := by
  have folded : ∀ catalog : Catalog η,
      find? (intents.foldl (fun catalog intent => (register catalog intent).1) catalog) code =
        (find? catalog code).or (intents.find? fun intent => intent.code = code) := by
    induction intents with
    | nil => exact fun catalog => (Option.or_none).symm
    | cons intent intents ih =>
        intro catalog
        rw [List.foldl_cons, ih, find?_register, Option.or_assoc]
        by_cases same : intent.code = code
        · simp [same]
        · simp [same]
  have whole := folded []
  rwa [Dictionary.find?_nil, Option.none_or] at whole

theorem sorted_ofIntents : Dictionary.Sorted (ofIntents intents) := by
  have folded : ∀ catalog : Catalog η, Dictionary.Sorted catalog →
      Dictionary.Sorted
        (intents.foldl (fun catalog intent => (register catalog intent).1) catalog) := by
    induction intents with
    | nil => exact fun _ sorted => sorted
    | cons intent intents ih =>
        intro catalog sorted
        apply ih
        simp only [register]
        split
        · exact sorted
        · exact sorted.insert _ _
  exact folded [] .nil

variable {intents code}

/-- What is found under a code has this code and was registered. -/
theorem code_of_find? {intent : Intent η} (found : find? (ofIntents intents) code = some intent) :
    intent ∈ intents ∧ intent.code = code := by
  rw [find?_ofIntents] at found
  exact ⟨List.mem_of_find?_eq_some found, by simpa using List.find?_some found⟩

theorem exists_find?_iff :
    (∃ intent, find? (ofIntents intents) code = some intent) ↔
      ∃ intent ∈ intents, intent.code = code := by
  rw [find?_ofIntents, ← Option.isSome_iff_exists, List.find?_isSome]
  simp

end Register

/-! ### The toolset of a catalog -/

section Toolset

variable (intents : List (Intent η)) (subset : Option (List String)) {code : String}

/-- The intents from which a toolset is made. -/
def offered (catalog : Catalog η) : Option (List String) → List (Intent η)
  | none => catalog.map (·.2)
  | some codes => codes.filterMap (Dictionary.find? catalog)

theorem toolset_eq (catalog : Catalog η) :
    catalog.toolset subset = Toolset.ofIntents (offered catalog subset) := by
  cases subset <;> rfl

/-- They are those found under the codes of the subset. -/
theorem mem_offered_iff {intent : Intent η} :
    intent ∈ offered (ofIntents intents) subset ↔
      find? (ofIntents intents) intent.code = some intent ∧
        ∀ codes, subset = some codes → intent.code ∈ codes := by
  cases subset with
  | none =>
      constructor
      · intro member
        obtain ⟨⟨name, other⟩, isEntry, rfl⟩ := List.mem_map.1 member
        have found := (Dictionary.mem_iff_find? (sorted_ofIntents intents)).1 isEntry
        obtain ⟨-, rfl⟩ := code_of_find? found
        exact ⟨found, fun _ same => nomatch same⟩
      · rintro ⟨found, -⟩
        exact List.mem_map.2 ⟨_, Dictionary.mem_of_find? found, rfl⟩
  | some codes =>
      constructor
      · intro member
        obtain ⟨name, isName, found⟩ := List.mem_filterMap.1 member
        obtain ⟨-, rfl⟩ := code_of_find? found
        refine ⟨found, ?_⟩
        rintro _ ⟨⟩
        exact isName
      · rintro ⟨found, named⟩
        exact List.mem_filterMap.2 ⟨_, named codes rfl, found⟩

/-- A tool is found under a code if the code may be called, and it is the intent registered there. -/
theorem find?_toolset (intent : Intent η) :
    ((ofIntents intents).toolset subset).find? code = some intent ↔
      Callable intents subset code ∧ find? (ofIntents intents) code = some intent := by
  rw [toolset_eq, Toolset.find?, Toolset.ofIntents]
  constructor
  · intro found
    have isEntry := Dictionary.mem_of_find? found
    rw [Dictionary.find?_ofList, Option.map_eq_some_iff] at found
    obtain ⟨⟨name, other⟩, isLast, rfl⟩ := found
    have same : name = code := by simpa using List.find?_some isLast
    subst same
    have member := List.mem_reverse.1 (List.mem_of_find?_eq_some isLast)
    obtain ⟨offer, isOffer, sameEntry⟩ := List.mem_map.1 member
    cases sameEntry
    obtain ⟨registered, named⟩ := (mem_offered_iff intents subset).1 isOffer
    exact ⟨⟨exists_find?_iff.1 ⟨_, registered⟩, named⟩, registered⟩
  · rintro ⟨⟨-, named⟩, registered⟩
    obtain ⟨-, rfl⟩ := code_of_find? registered
    have isOffer := (mem_offered_iff intents subset).2 ⟨registered, named⟩
    have isEntry : (intent.code, intent) ∈
        (offered (ofIntents intents) subset).map fun intent => (intent.code, intent) :=
      List.mem_map_of_mem isOffer
    apply Dictionary.find?_ofList_of_agree isEntry
    intro other member
    obtain ⟨offer, isOther, sameEntry⟩ := List.mem_map.1 member
    obtain ⟨sameCode, rfl⟩ := Prod.mk.inj sameEntry
    have found := ((mem_offered_iff intents subset).1 isOther).1
    rw [sameCode, registered] at found
    exact (Option.some.inj found).symm

/-- No tool is found under a code that may not be called. -/
theorem find?_toolset_eq_none_iff :
    ((ofIntents intents).toolset subset).find? code = none ↔ ¬Callable intents subset code := by
  constructor
  · intro none callable
    obtain ⟨intent, registered⟩ := exists_find?_iff.2 callable.1
    rw [(find?_toolset intents subset intent).2 ⟨callable, registered⟩] at none
    contradiction
  · intro notCallable
    cases found : ((ofIntents intents).toolset subset).find? code with
    | none => rfl
    | some intent => exact absurd ((find?_toolset intents subset intent).1 found).1 notCallable

theorem names_eq_keys (catalog : Catalog η) :
    (catalog.toolset subset).names = Dictionary.keys (catalog.toolset subset).intents := by
  rw [toolset_eq]
  rfl

/-- The names of a toolset are the codes that may be called. -/
theorem mem_names_iff :
    code ∈ ((ofIntents intents).toolset subset).names ↔ Callable intents subset code := by
  rw [names_eq_keys, Dictionary.mem_keys_iff]
  exact (not_congr (find?_toolset_eq_none_iff intents subset)).trans Classical.not_not

/-- They are in order, and none occurs twice. -/
theorem names_sorted (catalog : Catalog η) :
    (catalog.toolset subset).names.Pairwise (· < ·) := by
  rw [names_eq_keys, toolset_eq]
  exact (Dictionary.Sorted.ofList _).keys

/-- The tools are described to the model under these names, in the same order. -/
theorem names_definitions (catalog : Catalog η) :
    (catalog.toolset subset).definitions.map (·.name) = (catalog.toolset subset).names := by
  rw [names_eq_keys, Toolset.definitions, Dictionary.keys, List.map_map]
  apply List.map_congr_left
  rintro ⟨name, intent⟩ member
  rw [toolset_eq] at member
  have found := (Dictionary.mem_iff_find? (Dictionary.Sorted.ofList _)).1 member
  rw [Dictionary.find?_ofList, Option.map_eq_some_iff] at found
  obtain ⟨⟨other, same⟩, isLast, rfl⟩ := found
  have isName : other = name := by simpa using List.find?_some isLast
  obtain ⟨offer, -, sameEntry⟩ :=
    List.mem_map.1 (List.mem_reverse.1 (List.mem_of_find?_eq_some isLast))
  cases sameEntry
  exact isName

end Toolset

end Catalog

end Parley
