/-
Module: Parley.Proofs.Exchange.RequestIds
Layer: Proofs
Purpose: The ids that the requests of a round are given.  The names tried for a request are all
  different, so one of them is free after as many as there are names in use, and the search for it
  ends.  The invariant, `Accounted`, is carried from request to request: the ids in use are different
  and not blank, and the supplied ones among them are those of requests met before.
Main exports: Text.trim_eq_empty_iff, RequestIds.Finds, RequestIds.finds_firstFree,
  RequestIds.Accounted, RequestIds.Accounted.run, RequestIds.Renames, RequestIds.renames_distinct
-/
import Mathlib.Data.List.DropRight
import Mathlib.Data.List.Nodup
import Parley.Proofs.Transcript.Protocol

namespace Parley

namespace Text

/-- A blank text is one of which nothing is left without the white space at its ends. -/
theorem trim_eq_empty_iff {text : String} : trim text = "" ↔ isBlank text = true := by
  have ends : trim text = "" ↔ ∀ c ∈ text.toList.dropWhile isSpace, isSpace c = true := by
    rw [trim, String.ofList_eq_empty_iff]
    exact List.rdropWhile_eq_nil_iff
  rw [ends, isBlank, List.all_eq_true]
  constructor
  · intro rest
    -- what stands before the rest was dropped as white space
    rw [← List.takeWhile_append_dropWhile (p := isSpace) (l := text.toList), List.forall_mem_append]
    exact ⟨fun c member => List.mem_takeWhile_imp member, rest⟩
  · intro all c member
    exact all c ((List.dropWhile_sublist isSpace).subset member)

end Text

namespace RequestIds

/-! ### Candidates -/

variable {stem : String} {taken : List String}

/-- Different numbers have different digits. -/
theorem repr_inj {m n : Nat} (same : m.repr = n.repr) : m = n := by
  rw [Nat.repr_eq_ofList_toDigits, Nat.repr_eq_ofList_toDigits, String.ofList_inj] at same
  rw [← Nat.ofDigitChars_ten_toDigits (n := m), same, Nat.ofDigitChars_ten_toDigits]

/-- The candidates for one base are different from one another. -/
theorem candidate_inj {m n : Nat} (same : candidate stem m = candidate stem n) : m = n := by
  have numbered : ∀ k, candidate stem (k + 1) ≠ stem := by
    intro k plain
    have sizes := congrArg String.length plain
    simp only [candidate, String.length_append] at sizes
    have mark : "_".length = 1 := rfl
    omega
  cases m with
  | zero =>
      cases n with
      | zero => rfl
      | succ n => exact absurd same.symm (numbered n)
  | succ m =>
      cases n with
      | zero => exact absurd same (numbered m)
      | succ n =>
          exact repr_inj ((String.append_right_inj _).1 same)

/-- Not all of the first candidates are taken if there is one more of them than there are taken
names. -/
theorem exists_free (taken : List String) (stem : String) :
    ∃ n, n ≤ taken.length ∧ candidate stem n ∉ taken := by
  by_contra allTaken
  have distinct : ((List.range (taken.length + 1)).map (candidate stem)).Nodup :=
    List.Pairwise.map _ (fun _ _ different same => different (candidate_inj same)) List.nodup_range
  have within : (List.range (taken.length + 1)).map (candidate stem) ⊆ taken := by
    intro name member
    obtain ⟨n, bound, rfl⟩ := List.mem_map.1 member
    rw [List.mem_range] at bound
    by_contra free
    exact allTaken ⟨n, by omega, free⟩
  have long := distinct.length_le_of_subset within
  rw [List.length_map, List.length_range] at long
  omega

/-- The search for a free name as it goes, without any bound: it comes to the candidate of a number
if that is free, and otherwise to what it comes to from the next number on. -/
inductive Finds (isTaken : String → Prop) (stem : String) : Nat → String → Prop where
  | free {n : Nat} : ¬isTaken (candidate stem n) → Finds isTaken stem n (candidate stem n)
  | next {n : Nat} {name : String} :
      isTaken (candidate stem n) → Finds isTaken stem (n + 1) name → Finds isTaken stem n name

theorem Finds.isFree {isTaken : String → Prop} {n : Nat} {name : String}
    (finds : Finds isTaken stem n name) : ¬isTaken name := by
  induction finds with
  | free isFree => exact isFree
  | next _ _ ih => exact ih

theorem Finds.begins {isTaken : String → Prop} {n : Nat} {name : String}
    (finds : Finds isTaken stem n name) : ∃ ending, name = stem ++ ending := by
  induction finds with
  | @free n _ =>
      cases n with
      | zero => exact ⟨"", String.append_empty.symm⟩
      | succ n => exact ⟨"_" ++ (n + 1).repr, String.append_assoc⟩
  | next _ _ ih => exact ih

/-- The bound on the search does not cut it short where a free candidate lies within it. -/
theorem finds_firstFreeFrom {n tries free : Nat} (after : n ≤ free) (within : free ≤ n + tries)
    (isFree : candidate stem free ∉ taken) :
    Finds (· ∈ taken) stem n (firstFreeFrom taken stem n tries) := by
  induction tries generalizing n with
  | zero =>
      have here : free = n := by omega
      exact .free (here ▸ isFree)
  | succ tries ih =>
      rw [firstFreeFrom]
      split
      · next isTaken =>
          rw [List.contains_iff_mem] at isTaken
          have later : n ≠ free := fun same => isFree (same ▸ isTaken)
          exact .next isTaken (ih (by omega) (by omega))
      · next notTaken =>
          rw [List.contains_iff_mem] at notTaken
          exact .free notTaken

/-- The search ends, and `firstFree` is what it comes to. -/
theorem finds_firstFree (taken : List String) (stem : String) :
    Finds (· ∈ taken) stem 0 (firstFree taken stem) := by
  obtain ⟨free, within, isFree⟩ := exists_free taken stem
  exact finds_firstFreeFrom (Nat.zero_le _) (by omega) isFree

/-! ### One request after another -/

variable {supplied before seen : List String} {round index : Nat} {id : String}

/-- The ids in use once the requests with the ids `before` have been given theirs. -/
structure Accounted (supplied before seen : List String) : Prop where
  distinct : seen.Nodup
  visible : ∀ id ∈ seen, Text.isBlank id = false
  /-- Of the supplied ids those are in use that were met and are not blank. -/
  met : ∀ id ∈ supplied, id ∈ seen ↔ id ∈ before ∧ Text.isBlank id = false

theorem accounted_nil (supplied : List String) : Accounted supplied [] [] where
  distinct := List.nodup_nil
  visible := by simp
  met := by simp

/-- An id that is not blank and not in use is kept; in the place of any other the search for a free
name is made. -/
theorem choose_cases (supplied seen : List String) (round index : Nat) (id : String) :
    (Text.isBlank id = false ∧ id ∉ seen ∧ choose supplied seen round index id = id) ∨
      (Text.isBlank id = true ∨ id ∈ seen) ∧
        Finds (· ∈ seen ++ supplied) (base round index) 0 (choose supplied seen round index id) := by
  rw [choose]
  split
  · next replaced =>
      right
      rw [Bool.or_eq_true, List.contains_iff_mem] at replaced
      exact ⟨replaced, finds_firstFree _ _⟩
  · next kept =>
      left
      rw [Bool.or_eq_true, not_or, Bool.not_eq_true, List.contains_iff_mem] at kept
      exact ⟨kept.1, kept.2, rfl⟩

theorem isBlank_base_append (round index : Nat) (ending : String) :
    Text.isBlank (base round index ++ ending) = false := by
  rw [Text.isBlank, List.all_eq_false]
  exact ⟨'c', by simp [base], by decide⟩

/-- Giving an id to one more request keeps the account. -/
theorem Accounted.choose (accounted : Accounted supplied before seen) (member : id ∈ supplied)
    (round index : Nat) :
    Accounted supplied (id :: before) (RequestIds.choose supplied seen round index id :: seen) := by
  rcases choose_cases supplied seen round index id with ⟨visible, fresh, isKept⟩ | ⟨replaced, finds⟩
  · rw [isKept]
    constructor
    · exact List.nodup_cons.2 ⟨fresh, accounted.distinct⟩
    · exact List.forall_mem_cons.2 ⟨visible, accounted.visible⟩
    · intro other otherMember
      rw [List.mem_cons, List.mem_cons, accounted.met other otherMember, or_and_right]
      exact or_congr_left ⟨fun same => ⟨same, same ▸ visible⟩, fun both => both.1⟩
  · generalize RequestIds.choose supplied seen round index id = name at finds
    have isFree := finds.isFree
    rw [List.mem_append, not_or] at isFree
    obtain ⟨ending, isName⟩ := finds.begins
    constructor
    · exact List.nodup_cons.2 ⟨isFree.1, accounted.distinct⟩
    · exact List.forall_mem_cons.2 ⟨isName ▸ isBlank_base_append _ _ _, accounted.visible⟩
    · intro other otherMember
      have notName : other ≠ name := fun same => isFree.2 (same ▸ otherMember)
      rw [List.mem_cons, or_iff_right notName, accounted.met other otherMember, List.mem_cons]
      -- the id that was replaced is blank or was met before, so it adds nothing
      have addsNothing : other = id → Text.isBlank other = false → other ∈ before := by
        rintro rfl visible
        rcases replaced with isBlank | isSeen
        · rw [visible] at isBlank
          contradiction
        · exact ((accounted.met other otherMember).1 isSeen).1
      exact and_congr_left fun visible =>
        ⟨.inr, fun met => met.elim (fun same => addsNothing same visible) fun old => old⟩

/-- The ids of requests, the latest first. -/
def latestIds (requests : List ToolRequest) : List String :=
  (requests.map (·.id)).reverse

theorem mem_latestIds {requests : List ToolRequest} :
    id ∈ latestIds requests ↔ ∃ request ∈ requests, request.id = id := by
  rw [latestIds, List.mem_reverse, List.mem_map]

/-- Giving ids to any number of requests keeps the account. -/
theorem Accounted.run {requests : List ToolRequest} (accounted : Accounted supplied before seen)
    (members : ∀ request ∈ requests, request.id ∈ supplied) (round index : Nat) :
    Accounted supplied (latestIds requests ++ before)
      (latestIds (distinctFrom supplied round seen index requests) ++ seen) := by
  induction requests generalizing before seen index with
  | nil => exact accounted
  | cons request requests ih =>
      have first := accounted.choose (members request List.mem_cons_self) round index
      have rest := ih first (fun other member => members other (List.mem_cons_of_mem _ member))
        (index + 1)
      simpa [latestIds, distinctFrom] using rest

theorem distinctFrom_append (supplied : List String) (round : Nat) (seen : List String)
    (index : Nat) (first second : List ToolRequest) :
    distinctFrom supplied round seen index (first ++ second) =
      distinctFrom supplied round seen index first ++
        distinctFrom supplied round
          (latestIds (distinctFrom supplied round seen index first) ++ seen)
          (index + first.length) second := by
  induction first generalizing seen index with
  | nil => rfl
  | cons request first ih =>
      simp only [List.cons_append, distinctFrom, ih, latestIds, List.map_cons, List.reverse_cons,
        List.append_assoc, List.nil_append, List.length_cons]
      rw [Nat.add_right_comm, Nat.add_assoc]

/-! ### All requests of a round -/

/-- What the ids given to the requests of a round owe to the ids that the model supplied. -/
structure Renames (round : Nat) (requests given : List ToolRequest) : Prop where
  length : given.length = requests.length
  distinct : (given.map (·.id)).Nodup
  visible : ∀ request ∈ given, Text.trim request.id ≠ ""
  /-- The first request with an id that is not blank stays as it is. -/
  kept : ∀ index request, requests[index]? = some request → Text.trim request.id ≠ "" →
    (∀ earlier ∈ requests.take index, earlier.id ≠ request.id) → given[index]? = some request
  /-- Every other request gets an id made from the round and its index, and keeps all else.  The id
  is no supplied one, and the search for it comes to an end. -/
  renamed : ∀ index request, requests[index]? = some request →
    (Text.trim request.id = "" ∨ ∃ earlier ∈ requests.take index, earlier.id = request.id) →
    ∃ id ending, given[index]? = some { request with id := id } ∧
      id = "call_" ++ round.repr ++ "_" ++ index.repr ++ ending ∧
      (∀ other ∈ requests, other.id ≠ id) ∧
      Finds (fun name => name ∈ (given.take index).map (·.id) ∨ name ∈ requests.map (·.id))
        ("call_" ++ round.repr ++ "_" ++ index.repr) 0 id

/-- The request in a place is given an id when those before it have theirs. -/
theorem getElem?_distinct {requests : List ToolRequest} {request : ToolRequest}
    (round : Nat) (found : requests[index]? = some request) :
    let supplied := requests.map (·.id)
    let seen := latestIds ((distinct round requests).take index)
    (distinct round requests)[index]? =
        some { request with id := choose supplied seen round index request.id } ∧
      Accounted supplied (latestIds (requests.take index)) seen := by
  intro supplied seen
  obtain ⟨bound, isRequest⟩ := List.getElem?_eq_some_iff.1 found
  have split : requests = requests.take index ++ request :: requests.drop (index + 1) := by
    rw [← isRequest, ← List.drop_eq_getElem_cons bound, List.take_append_drop]
  have long : (requests.take index).length = index := List.length_take_of_le (by omega)
  let given := distinctFrom supplied round [] 0 (requests.take index)
  have givenLong : given.length = index := (length_distinctFrom ..).trans long
  have whole : distinct round requests = given ++ distinctFrom supplied round (latestIds given) index
      (request :: requests.drop (index + 1)) := by
    have parts := distinctFrom_append supplied round [] 0 (requests.take index)
      (request :: requests.drop (index + 1))
    rwa [← split, List.append_nil, Nat.zero_add, long] at parts
  have isGiven : (distinct round requests).take index = given := by
    rw [whole, List.take_left' givenLong]
  have isSeen : seen = latestIds given := congrArg latestIds isGiven
  constructor
  · rw [whole, List.getElem?_append_right (Nat.le_of_eq givenLong), givenLong, Nat.sub_self, isSeen]
    rfl
  · have accounted : Accounted supplied (latestIds (requests.take index) ++ [])
        (latestIds given ++ []) :=
      (accounted_nil supplied).run
        (fun other member => List.mem_map_of_mem (List.mem_of_mem_take member)) round 0
    rwa [List.append_nil, List.append_nil, ← isSeen] at accounted

/-- Whatever ids the model supplies, those given are different and not blank.  The first request with
an id keeps it, and every other one is found a name that no request has or brings. -/
theorem renames_distinct (round : Nat) (requests : List ToolRequest) :
    Renames round requests (distinct round requests) := by
  have accounted : Accounted (requests.map (·.id)) (latestIds requests ++ [])
      (latestIds (distinct round requests) ++ []) :=
    (accounted_nil _).run (fun request member => List.mem_map_of_mem member) round 0
  rw [List.append_nil, List.append_nil] at accounted
  constructor
  · exact length_distinct round requests
  · exact List.nodup_reverse.1 accounted.distinct
  · intro request member isEmpty
    rw [Text.trim_eq_empty_iff,
      accounted.visible _ (List.mem_reverse.2 (List.mem_map_of_mem member))] at isEmpty
    contradiction
  · intro index request found visible isFirst
    obtain ⟨isGiven, before⟩ := getElem?_distinct round found
    have member : request.id ∈ requests.map (·.id) := List.mem_map_of_mem (List.mem_of_getElem? found)
    rcases choose_cases _ _ round index request.id with ⟨-, -, isKept⟩ | ⟨isBlank | isSeen, -⟩
    · rw [isGiven, isKept]
    · exact absurd (Text.trim_eq_empty_iff.2 isBlank) visible
    · obtain ⟨earlier, isEarlier, same⟩ := mem_latestIds.1 ((before.met _ member).1 isSeen).1
      exact absurd same (isFirst earlier isEarlier)
  · intro index request found replaced
    obtain ⟨isGiven, before⟩ := getElem?_distinct round found
    have member : request.id ∈ requests.map (·.id) := List.mem_map_of_mem (List.mem_of_getElem? found)
    rcases choose_cases _ _ round index request.id with ⟨visible, fresh, -⟩ | ⟨-, finds⟩
    · rcases replaced with isEmpty | isMet
      · rw [Text.trim_eq_empty_iff, visible] at isEmpty
        contradiction
      · exact absurd ((before.met _ member).2 ⟨mem_latestIds.2 isMet, visible⟩) fresh
    · obtain ⟨ending, isName⟩ := finds.begins
      have isFree := finds.isFree
      rw [List.mem_append, not_or] at isFree
      refine ⟨_, ending, isGiven, isName, ?_, ?_⟩
      · intro other isOther same
        exact isFree.2 (same ▸ List.mem_map_of_mem isOther)
      · have alike : ∀ name, name ∈ latestIds ((distinct round requests).take index) ++
            requests.map (·.id) ↔ name ∈ ((distinct round requests).take index).map (·.id) ∨
              name ∈ requests.map (·.id) := by
          intro name
          rw [List.mem_append, latestIds, List.mem_reverse]
        simp only [alike] at finds
        exact finds

example :
    (distinct 1 [⟨"call_1_1", "lamp", ""⟩, ⟨"call_1_1", "lamp", ""⟩, ⟨" ", "bell", ""⟩,
      ⟨"call_1_2", "bell", ""⟩]).map (·.id) =
        ["call_1_1", "call_1_1_1", "call_1_2_1", "call_1_2"] := by
  decide

end RequestIds

end Parley
