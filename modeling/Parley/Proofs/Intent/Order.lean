/-
Module: Parley.Proofs.Intent.Order
Layer: Proofs
Purpose: The order of the layers of a chain.  A chain that is built by adding layers is always in
  order of priority, so the place for one more layer is where the layers of greater priority begin,
  and it may be looked for by halving.  The chain is the stable sort of the layers by priority.
Main exports: Chain.Orders, Chain.orders_ofLayers, Chain.ofLayers_eq_mergeSort, Chain.place,
  Chain.foldl_insertIdx_place
-/
import Parley.Intent.Chain

namespace Parley.Chain

variable {η : Type} {H : Interface}

/-! ### Sorting by priority -/

/-- A chain has some layers in order of priority, and those of one priority in the order in which
they were added. -/
structure Orders (layers : List (Layer η H)) (chain : Chain η H) : Prop where
  ordered : chain.Pairwise fun outer inner => outer.priority ≤ inner.priority
  stable : ∀ priority : Int, chain.filter (fun layer => layer.priority = priority) =
    layers.filter fun layer => layer.priority = priority

section Orders

variable {layers : List (Layer η H)} {chain other : Chain η H} {layer first second : Layer η H}

theorem Orders.mem_iff (orders : Orders layers chain) : layer ∈ chain ↔ layer ∈ layers := by
  have same := orders.stable layer.priority
  have inChain : layer ∈ chain ↔
      layer ∈ chain.filter fun other => other.priority = layer.priority := by simp
  rw [inChain, same]
  simp

theorem Orders.of_cons (orders : Orders (first :: layers) (first :: chain)) :
    Orders layers chain where
  ordered := orders.ordered.of_cons
  stable priority := by
    have same := orders.stable priority
    rw [List.filter_cons, List.filter_cons] at same
    split at same
    · exact List.tail_eq_of_cons_eq same
    · exact same

/-- The outermost layer has the least priority. -/
theorem Orders.head_le (orders : Orders layers (first :: chain)) (member : layer ∈ layers) :
    first.priority ≤ layer.priority := by
  rcases List.mem_cons.1 (orders.mem_iff.2 member) with rfl | later
  · exact Int.le_refl _
  · exact List.rel_of_pairwise_cons orders.ordered later

/-- There is only one such chain. -/
theorem Orders.unique (one : Orders layers chain) (two : Orders layers other) : chain = other := by
  induction chain generalizing layers other with
  | nil =>
      cases other with
      | nil => rfl
      | cons second rest =>
          have member := one.mem_iff.2 (two.mem_iff.1 List.mem_cons_self)
          contradiction
  | cons first chain ih =>
      cases other with
      | nil =>
          have member := two.mem_iff.2 (one.mem_iff.1 List.mem_cons_self)
          contradiction
      | cons second rest =>
          have isFirst : first ∈ layers := one.mem_iff.1 List.mem_cons_self
          have isSecond : second ∈ layers := two.mem_iff.1 List.mem_cons_self
          have least : first.priority = second.priority :=
            Int.le_antisymm (one.head_le isSecond) (two.head_le isFirst)
          -- Both are the first layer of the least priority that was added.
          have same : first = second := by
            have heads := (one.stable first.priority).trans (two.stable first.priority).symm
            simp only [List.filter_cons, least, decide_true, if_true] at heads
            exact List.head_eq_of_cons_eq heads
          subst same
          have whole : Orders (first :: rest) (first :: chain) :=
            ⟨one.ordered, fun priority => (one.stable priority).trans (two.stable priority).symm⟩
          have itself : Orders rest rest := ⟨two.ordered.of_cons, fun _ => rfl⟩
          rw [ih whole.of_cons itself]

end Orders

/-! ### Adding a layer -/

section Add

variable {layers : List (Layer η H)} {chain : Chain η H} {layer : Layer η H}

/-- A layer is added where the layers of greater priority begin. -/
theorem add_eq_insertIdx {place : Nat} (isBound : place ≤ chain.length)
    (begins : ∀ index (inside : index < chain.length),
      chain[index].priority ≤ layer.priority ↔ index < place) :
    add layer chain = chain.insertIdx place layer := by
  induction chain generalizing place with
  | nil =>
      obtain rfl : place = 0 := Nat.le_zero.1 isBound
      rfl
  | cons outer inner ih =>
      have atOuter : outer.priority ≤ layer.priority ↔ 0 < place := begins 0 (Nat.succ_pos _)
      rw [add]
      cases place with
      | zero =>
          rw [if_neg fun before => absurd (atOuter.1 before) (Nat.lt_irrefl 0)]
          rfl
      | succ place =>
          rw [if_pos (atOuter.2 (Nat.succ_pos place)), List.insertIdx_succ_cons]
          rw [ih (Nat.le_of_succ_le_succ isBound)]
          intro index inside
          exact (begins (index + 1) (Nat.succ_lt_succ inside)).trans Nat.succ_lt_succ_iff

theorem mem_add {other : Layer η H} : other ∈ add layer chain ↔ other = layer ∨ other ∈ chain := by
  induction chain with
  | nil => simp [add]
  | cons outer inner ih =>
      rw [add]
      split
      · simp only [List.mem_cons, ih]
        exact or_left_comm
      · simp only [List.mem_cons]

/-- A layer that is added to layers in order of priority leaves them so. -/
theorem pairwise_add (layer : Layer η H)
    (ordered : chain.Pairwise fun outer inner => outer.priority ≤ inner.priority) :
    (add layer chain).Pairwise fun outer inner => outer.priority ≤ inner.priority := by
  induction chain with
  | nil => exact List.pairwise_singleton _ _
  | cons outer inner ih =>
      obtain ⟨least, orderedInner⟩ := List.pairwise_cons.1 ordered
      rw [add]
      split
      · next before =>
          refine List.pairwise_cons.2 ⟨?_, ih orderedInner⟩
          intro other member
          rcases mem_add.1 member with rfl | isInner
          · exact before
          · exact least other isInner
      · next after =>
          have isLess : layer.priority ≤ outer.priority := Int.le_of_lt (Int.not_le.1 after)
          refine List.pairwise_cons.2 ⟨?_, ordered⟩
          intro other member
          rcases List.mem_cons.1 member with rfl | isInner
          · exact isLess
          · exact Int.le_trans isLess (least other isInner)

/-- It stands behind all others of its priority, which stay in their order. -/
theorem filter_add (layer : Layer η H)
    (ordered : chain.Pairwise fun outer inner => outer.priority ≤ inner.priority) (priority : Int) :
    (add layer chain).filter (fun layer => layer.priority = priority) =
      chain.filter (fun layer => layer.priority = priority) ++
        [layer].filter fun layer => layer.priority = priority := by
  induction chain with
  | nil => rfl
  | cons outer inner ih =>
      obtain ⟨least, orderedInner⟩ := List.pairwise_cons.1 ordered
      rw [add]
      split
      · simp only [List.filter_cons, ih orderedInner]
        split <;> rfl
      · next after =>
          have isLess : layer.priority < outer.priority := Int.not_le.1 after
          by_cases counts : layer.priority = priority
          · have none : (outer :: inner).filter (fun layer => layer.priority = priority) = [] := by
              rw [List.filter_eq_nil_iff]
              intro other member isPriority
              have isEqual : other.priority = priority := of_decide_eq_true isPriority
              rcases List.mem_cons.1 member with rfl | isInner
              · omega
              · have := least other isInner
                omega
            rw [List.filter_cons, none]
            simp [counts]
          · simp [List.filter_cons, counts]

/-- A chain that is in order stays so. -/
theorem Orders.add (orders : Orders layers chain) (layer : Layer η H) :
    Orders (layers ++ [layer]) (Chain.add layer chain) where
  ordered := pairwise_add layer orders.ordered
  stable priority := by rw [filter_add layer orders.ordered, orders.stable, List.filter_append]

/-- So does one to which several layers are added. -/
theorem Orders.foldl_add (orders : Orders layers chain) (more : List (Layer η H)) :
    Orders (layers ++ more) (more.foldl (fun chain layer => Chain.add layer chain) chain) := by
  induction more generalizing layers chain with
  | nil =>
      rw [List.append_nil]
      exact orders
  | cons layer more ih =>
      rw [List.append_cons]
      exact ih (orders.add layer)

theorem orders_nil : Orders [] ([] : Chain η H) where
  ordered := .nil
  stable _ := rfl

theorem orders_ofLayers (layers : List (Layer η H)) : Orders layers (ofLayers layers) :=
  orders_nil.foldl_add layers

end Add

/-! ### The stable sort -/

/-- Whether a layer may stand further out than another. -/
def mayPrecede (outer inner : Layer η H) : Bool :=
  outer.priority ≤ inner.priority

theorem orders_mergeSort (layers : List (Layer η H)) :
    Orders layers (layers.mergeSort mayPrecede) := by
  have trans : ∀ one two three : Layer η H,
      mayPrecede one two → mayPrecede two three → mayPrecede one three := by
    simp only [mayPrecede, decide_eq_true_eq]
    intro one two three
    exact Int.le_trans
  have total : ∀ one two : Layer η H, mayPrecede one two || mayPrecede two one := by
    intro one two
    simpa [mayPrecede] using Int.le_total one.priority two.priority
  constructor
  · have ordered := List.pairwise_mergeSort trans total layers
    simpa only [mayPrecede, decide_eq_true_eq] using ordered
  · intro priority
    -- The layers of one priority are in order already, so the sort leaves them in their order.
    have alike : (layers.filter fun layer => layer.priority = priority).Pairwise
        fun one two => mayPrecede one two := by
      apply List.pairwise_of_forall_mem_list
      intro one isOne two isTwo
      have atOne : one.priority = priority := of_decide_eq_true (List.mem_filter.1 isOne).2
      have atTwo : two.priority = priority := of_decide_eq_true (List.mem_filter.1 isTwo).2
      simp [mayPrecede, atOne, atTwo]
    have kept := (List.sublist_mergeSort trans total alike List.filter_sublist).filter
      fun layer => layer.priority = priority
    rw [List.filter_filter] at kept
    simp only [Bool.and_self] at kept
    exact (kept.eq_of_length ((List.mergeSort_perm layers mayPrecede).filter _).length_eq.symm).symm

theorem ofLayers_eq_mergeSort (layers : List (Layer η H)) :
    ofLayers layers = layers.mergeSort mayPrecede :=
  (orders_ofLayers layers).unique (orders_mergeSort layers)

/-! ### Looking for the place by halving -/

/-- The first number from which on a condition fails, between two bounds: the middle decides in
which half it is. -/
def firstFailing (holds : Nat → Bool) (low high : Nat) : Nat :=
  if low < high then
    let middle := low + (high - low) / 2
    if holds middle then firstFailing holds (middle + 1) high else firstFailing holds low middle
  else low
termination_by high - low

/-- If the condition once it fails fails for good, it is found where it first fails. -/
theorem firstFailing_spec (holds : Nat → Bool) (low high : Nat)
    (descends : ∀ small large, small ≤ large → large < high → holds large → holds small)
    (inOrder : low ≤ high) (below : ∀ number < low, holds number) :
    firstFailing holds low high ≤ high ∧
      ∀ number < high, holds number ↔ number < firstFailing holds low high := by
  fun_induction firstFailing holds low high with
  | case1 low high between middle holdsMiddle ih =>
      refine ih descends (by omega) ?_
      intro number isBelow
      exact descends number middle (by omega) (by omega) holdsMiddle
  | case2 low high between middle failsMiddle ih =>
      obtain ⟨bounded, found⟩ := ih
        (fun small large atMost inside => descends small large atMost (by omega)) (by omega) below
      refine ⟨by omega, ?_⟩
      intro number inside
      by_cases isBelow : number < middle
      · exact found number isBelow
      · constructor
        · intro holdsNumber
          exact absurd (descends middle number (by omega) inside holdsNumber) failsMiddle
        · intro isFound
          omega
  | case3 low high met =>
      refine ⟨inOrder, ?_⟩
      intro number inside
      exact iff_of_true (below number (by omega)) (by omega)

/-- The place for a layer, looked for by halving. -/
def place (layer : Layer η H) (chain : Chain η H) : Nat :=
  firstFailing (fun index => chain[index]?.any fun outer => outer.priority ≤ layer.priority) 0
    chain.length

/-- In a chain that is in order, a layer looked for by halving goes where it is added. -/
theorem insertIdx_place {layers : List (Layer η H)} {chain : Chain η H}
    (orders : Orders layers chain) (layer : Layer η H) :
    chain.insertIdx (place layer chain) layer = add layer chain := by
  have descends : ∀ small large, small ≤ large → large < chain.length →
      (chain[large]?.any fun outer => outer.priority ≤ layer.priority) →
      chain[small]?.any fun outer => outer.priority ≤ layer.priority := by
    intro small large atMost inside
    have ordered := List.pairwise_iff_getElem.1 orders.ordered
    have insideToo : small < chain.length := Nat.lt_of_le_of_lt atMost inside
    simp only [List.getElem?_eq_getElem inside, List.getElem?_eq_getElem insideToo, Option.any_some,
      decide_eq_true_eq]
    rcases Nat.eq_or_lt_of_le atMost with rfl | isLess
    · exact id
    · exact Int.le_trans (ordered small large insideToo inside isLess)
  obtain ⟨bounded, found⟩ := firstFailing_spec _ 0 chain.length descends (Nat.zero_le _)
    fun number isBelow => absurd isBelow (Nat.not_lt_zero _)
  refine (add_eq_insertIdx bounded ?_).symm
  intro index inside
  rw [← found index inside, List.getElem?_eq_getElem inside, Option.any_some,
    decide_eq_true_eq]

/-- So the chain of some layers is the same if the place for each of them is looked for by halving.
-/
theorem foldl_insertIdx_place (layers : List (Layer η H)) :
    layers.foldl (fun chain layer => chain.insertIdx (place layer chain) layer) [] =
      ofLayers layers := by
  suffices same : ∀ (before : List (Layer η H)) (chain : Chain η H), Orders before chain →
      layers.foldl (fun chain layer => chain.insertIdx (place layer chain) layer) chain =
        layers.foldl (fun chain layer => add layer chain) chain from same [] [] orders_nil
  induction layers with
  | nil => exact fun _ _ _ => rfl
  | cons layer layers ih =>
      intro before chain orders
      rw [List.foldl_cons, List.foldl_cons, insertIdx_place orders]
      exact ih _ _ (orders.add layer)

end Parley.Chain
