/-
Module: Parley.Proofs.Intent.Catalog
Layer: Proofs
Purpose: The catalog and its toolsets over every history of registrations.  Registering succeeds for
  the first intent of a code and for no other, and this intent is what the catalog and its toolsets
  give for the code from then on.  In a toolset the intents, their fingerprints, the names and the
  descriptions stand under the same codes; it depends on the subset as a set, and on the
  registrations of each code by themselves.
Main exports: Catalog.First, Catalog.register_snd_iff, Catalog.find?_eq_some_iff_first,
  Catalog.toolset_ext, Catalog.InStep, Catalog.Settled, Catalog.first_settles
-/
import Parley.Proofs.Intent.Toolset

namespace Parley.Catalog

open Dictionary (find?)

variable {η : Type}

/-! ### The first intent of a code -/

section First

variable {intents others : List (Intent η)} {intent : Intent η} {code : String}

/-- Whether an intent was registered, and none with its code before it. -/
def First (intents : List (Intent η)) (intent : Intent η) : Prop :=
  ∃ earlier later, intents = earlier ++ intent :: later ∧
    ∀ other ∈ earlier, other.code ≠ intent.code

/-- More registrations leave the first intent of a code the first. -/
theorem First.append (first : First intents intent) (more : List (Intent η)) :
    First (intents ++ more) intent := by
  obtain ⟨earlier, later, rfl, none⟩ := first
  exact ⟨earlier, later ++ more, by rw [List.append_assoc, List.cons_append], none⟩

theorem find?_eq_some_iff_first :
    find? (ofIntents intents) code = some intent ↔ intent.code = code ∧ First intents intent := by
  rw [find?_ofIntents, List.find?_eq_some_iff_append]
  constructor
  · rintro ⟨same, earlier, later, split, none⟩
    have same : intent.code = code := of_decide_eq_true same
    subst same
    exact ⟨rfl, earlier, later, split, fun other member => by simpa using none other member⟩
  · rintro ⟨rfl, earlier, later, split, none⟩
    exact ⟨decide_eq_true rfl, earlier, later, split,
      fun other member => by simpa using none other member⟩

/-- Registering succeeds if the code is free. -/
theorem register_snd_iff (catalog : Catalog η) :
    (register catalog intent).2 = true ↔ find? catalog intent.code = none := by
  rw [register, Dictionary.has]
  cases find? catalog intent.code <;> simp

/-- After a history of registrations, these are the codes that none of the intents had. -/
theorem register_ofIntents_iff :
    (register (ofIntents intents) intent).2 = true ↔
      ∀ other ∈ intents, other.code ≠ intent.code := by
  rw [register_snd_iff, find?_ofIntents, List.find?_eq_none]
  simp

/-- Histories in which each code has the same first intent give one catalog. -/
theorem ofIntents_congr
    (same : ∀ code, (others.find? fun intent => intent.code = code) =
      intents.find? fun intent => intent.code = code) :
    ofIntents others = ofIntents intents := by
  refine (sorted_ofIntents others).ext (sorted_ofIntents intents) fun code => ?_
  rw [find?_ofIntents, find?_ofIntents, same]

end First

/-! ### One table seen four ways -/

section Toolset

variable {intents : List (Intent η)} {subset : Option (List String)} {code : String}

theorem sorted_toolset (catalog : Catalog η) :
    Dictionary.Sorted (catalog.toolset subset).intents := by
  rw [toolset_eq]
  exact Dictionary.Sorted.ofList _

theorem fingerprints_eq (catalog : Catalog η) :
    (catalog.toolset subset).fingerprints =
      (catalog.toolset subset).intents.map fun entry => (entry.1, entry.2.fingerprint) := by
  rw [toolset_eq]
  rfl

/-- The fingerprint stored under a code is that of the intent stored there. -/
theorem fingerprint?_toolset (catalog : Catalog η) :
    (catalog.toolset subset).fingerprint? code =
      ((catalog.toolset subset).find? code).map Intent.fingerprint := by
  rw [Toolset.fingerprint?, fingerprints_eq]
  exact Dictionary.find?_map_values Intent.fingerprint _ code

theorem keys_fingerprints (catalog : Catalog η) :
    Dictionary.keys (catalog.toolset subset).fingerprints = (catalog.toolset subset).names := by
  rw [names_eq_keys, fingerprints_eq, Dictionary.keys, Dictionary.keys, List.map_map]
  rfl

/-- The tools are described from the intents found under the names, one by one. -/
theorem definitions_eq (catalog : Catalog η) :
    (catalog.toolset subset).names.map (catalog.toolset subset).find? =
        (catalog.toolset subset).intents.map (fun entry => some entry.2) ∧
      (catalog.toolset subset).definitions =
        (catalog.toolset subset).intents.map fun entry => entry.2.definition := by
  refine ⟨?_, rfl⟩
  rw [names_eq_keys, Dictionary.keys, List.map_map]
  apply List.map_congr_left
  rintro ⟨name, intent⟩ member
  exact (Dictionary.mem_iff_find? (sorted_toolset catalog)).1 member

/-- All of a toolset is made of its table of intents. -/
theorem toolset_eq_table (catalog : Catalog η) :
    catalog.toolset subset =
      { intents := (catalog.toolset subset).intents
        fingerprints := (catalog.toolset subset).intents.map fun entry =>
          (entry.1, entry.2.fingerprint)
        names := Dictionary.keys (catalog.toolset subset).intents } := by
  rw [toolset_eq]
  rfl

/-- Toolsets that give the same intent for each code are the same. -/
theorem toolset_ext {one two : Catalog η} {first second : Option (List String)}
    (same : ∀ code, (one.toolset first).find? code = (two.toolset second).find? code) :
    one.toolset first = two.toolset second := by
  have table : (one.toolset first).intents = (two.toolset second).intents :=
    (sorted_toolset one).ext (sorted_toolset two) same
  rw [toolset_eq_table one, toolset_eq_table two, table]

/-- A subset counts as a set: neither order nor repetition matters. -/
theorem toolset_congr {codes names : List String} (same : ∀ code, code ∈ codes ↔ code ∈ names) :
    (ofIntents intents).toolset (some codes) = (ofIntents intents).toolset (some names) := by
  refine toolset_ext fun code => Option.ext fun intent => ?_
  simp only [find?_toolset, Callable, Option.some.injEq, forall_eq', same]

end Toolset

/-! ### Every history and every subset -/

/-- The parts of a toolset of a history of registrations: each callable code is in all of them, and
no other code in any. -/
structure InStep (intents : List (Intent η)) (subset : Option (List String)) (tools : Toolset η) :
    Prop where
  /-- The names are the codes registered, those of them in the subset if there is one. -/
  callable : ∀ code, code ∈ tools.names ↔ Callable intents subset code
  /-- Under each stands the intent that was registered first. -/
  intent : ∀ code intent, tools.find? code = some intent ↔
    code ∈ tools.names ∧ intent.code = code ∧ First intents intent
  /-- The names strictly increase. -/
  ordered : tools.names.Pairwise (· < ·)
  /-- The table of intents has the names for its keys. -/
  intents : Dictionary.keys tools.intents = tools.names
  /-- So has the table of fingerprints. -/
  fingerprints : Dictionary.keys tools.fingerprints = tools.names
  /-- The tools are described under the names, in the same order. -/
  definitions : tools.definitions.map (·.name) = tools.names
  /-- Each description is that of the intent under its name. -/
  described : tools.definitions.map some =
    tools.names.map fun code => (tools.find? code).map Intent.definition
  /-- Each fingerprint is that of the intent under the same code. -/
  fingerprint : ∀ code, tools.fingerprint? code = (tools.find? code).map Intent.fingerprint

/-- What holds of the catalog of a history of registrations. -/
structure Settled (intents : List (Intent η)) : Prop where
  /-- Registering succeeds for the first intent of a code, and for no other. -/
  answers : ∀ earlier intent later, intents = earlier ++ intent :: later →
    ((register (ofIntents earlier) intent).2 = true ↔
      ∀ other ∈ earlier, other.code ≠ intent.code)
  /-- Whatever is registered later, the first intent of a code is the one in the catalog and in
  every toolset the code is in. -/
  stays : ∀ intent, First intents intent → ∀ more,
    find? (ofIntents (intents ++ more)) intent.code = some intent ∧
      ∀ subset, (∀ codes, subset = some codes → intent.code ∈ codes) →
        ((ofIntents (intents ++ more)).toolset subset).find? intent.code = some intent
  /-- The parts of each toolset agree. -/
  inStep : ∀ subset, InStep intents subset ((ofIntents intents).toolset subset)
  /-- Subsets with the same codes, in whatever order and however often, give one toolset. -/
  subsets : ∀ codes names : List String, (∀ code, code ∈ codes ↔ code ∈ names) →
    (ofIntents intents).toolset (some codes) = (ofIntents intents).toolset (some names)
  /-- So do histories in which the intents of each code come in the same order. -/
  orders : ∀ others : List (Intent η),
    (∀ code, (others.filter fun intent => intent.code = code) =
      intents.filter fun intent => intent.code = code) →
    ∀ subset, (ofIntents others).toolset subset = (ofIntents intents).toolset subset

theorem inStep (intents : List (Intent η)) (subset : Option (List String)) :
    InStep intents subset ((ofIntents intents).toolset subset) where
  callable code := mem_names_iff intents subset
  intent code intent := by
    rw [find?_toolset, find?_eq_some_iff_first, mem_names_iff]
  ordered := names_sorted subset _
  intents := (names_eq_keys subset _).symm
  fingerprints := keys_fingerprints _
  definitions := names_definitions subset _
  described := by
    obtain ⟨found, made⟩ := @definitions_eq η subset (ofIntents intents)
    calc ((ofIntents intents).toolset subset).definitions.map some
        = (((ofIntents intents).toolset subset).intents.map fun entry => some entry.2).map
            (Option.map Intent.definition) := by rw [made, List.map_map, List.map_map]; rfl
      _ = _ := by rw [← found, List.map_map]; rfl
  fingerprint code := fingerprint?_toolset _

/-- The first intent of a code settles what is registered, kept and offered under it, after every
history of registrations and for every subset. -/
theorem first_settles (intents : List (Intent η)) : Settled intents where
  answers earlier intent later _ := register_ofIntents_iff
  stays intent first more := by
    have found := find?_eq_some_iff_first.2 ⟨rfl, first.append more⟩
    refine ⟨found, fun subset named => ?_⟩
    exact (find?_toolset _ subset intent).2 ⟨⟨exists_find?_iff.1 ⟨_, found⟩, named⟩, found⟩
  inStep := inStep intents
  subsets _ _ same := toolset_congr same
  orders others same subset := by
    have catalogs : ofIntents others = ofIntents intents := ofIntents_congr fun code => by
      rw [← List.head?_filter, ← List.head?_filter, same]
    rw [catalogs]

end Parley.Catalog
