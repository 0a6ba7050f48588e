import Mathlib.Data.Finset.Card
import Phrasebook.Node.Graph
import Phrasebook.Proofs.Node.Place

/-!
# Positions in graphs of nodes

A position under some nodes of a graph is one of the nodes by its index, or the index and a position under the
children of the node. Positions may be many more than nodes, because a node stands at each position that leads
to it. A walk of the graph meets the positions in depth-first order up to the first one whose node it has met
before, and so it never meets more of them than there are nodes and one.
-/

namespace Phrasebook.NodeGraph

variable {graph : NodeGraph} {numbers : List Nat}

/-! ### Children -/

/-- The numbers of the children of a node. -/
def childrenOf (graph : NodeGraph) (number : Nat) : List Nat :=
  (graph.nodes[number]?.bind GraphNode.children).getD []

/-- The key of a node. -/
def keyAt? (graph : NodeGraph) (number : Nat) : Option Text := graph.nodes[number]?.map GraphNode.key

theorem childrenOf_eq {number : Nat} (bound : number < graph.nodes.size) :
    graph.childrenOf number = graph.nodes[number].children.getD [] := by
  rw [childrenOf, Array.getElem?_eq_getElem bound]
  rfl

theorem keyAt?_eq {number : Nat} (bound : number < graph.nodes.size) :
    graph.keyAt? number = some graph.nodes[number].key := by
  rw [keyAt?, Array.getElem?_eq_getElem bound]
  rfl

theorem lt_of_mem_childrenOf {number child : Nat} (member : child ∈ graph.childrenOf number) : child < number := by
  by_cases bound : number < graph.nodes.size
  · rw [childrenOf_eq bound] at member
    exact graph.descending number bound child member
  · rw [childrenOf, Array.getElem?_eq_none (Nat.not_lt.mp bound)] at member
    cases member

/-- A bound of some numbers. -/
def ceiling : List Nat → Nat
  | [] => 0
  | number :: rest => max (number + 1) (ceiling rest)

theorem lt_ceiling {number : Nat} (member : number ∈ numbers) : number < ceiling numbers := by
  induction numbers with
  | nil => cases member
  | cons first rest ih =>
    rw [ceiling]
    rcases List.mem_cons.mp member with rfl | later
    · omega
    · have := ih later
      omega

theorem ceiling_le {bound : Nat} (below : ∀ number ∈ numbers, number < bound) : ceiling numbers ≤ bound := by
  induction numbers with
  | nil => exact Nat.zero_le bound
  | cons first rest ih =>
    rw [List.forall_mem_cons] at below
    exact Nat.max_le.mpr ⟨below.1, ih below.2⟩

theorem ceiling_childrenOf_lt (graph : NodeGraph) {number : Nat} (member : number ∈ numbers) :
    ceiling (graph.childrenOf number) < ceiling numbers :=
  Nat.lt_of_le_of_lt (ceiling_le fun _ => lt_of_mem_childrenOf) (lt_ceiling member)

/-- What holds of nodes if it holds of the children of each of them holds of all nodes. -/
@[elab_as_elim]
theorem children_induction (graph : NodeGraph) {motive : List Nat → Prop}
    (step : ∀ numbers, (∀ number ∈ numbers, motive (graph.childrenOf number)) → motive numbers)
    (numbers : List Nat) : motive numbers := by
  induction size : ceiling numbers using Nat.strongRecOn generalizing numbers with
  | ind size ih =>
    subst size
    apply step
    intro number member
    exact ih _ (ceiling_childrenOf_lt graph member) _ rfl

/-! ### Positions -/

/-- A position under some nodes of a graph: that of one of them, or one under it. -/
inductive Position (graph : NodeGraph) : List Nat → Type where
  | root {numbers : List Nat} (index : Fin numbers.length) : Position graph numbers
  | under {numbers : List Nat} (index : Fin numbers.length)
      (position : Position graph (graph.childrenOf numbers[index])) : Position graph numbers

namespace Position

/-- The node at a position, by its number. -/
def occupant {numbers : List Nat} : Position graph numbers → Nat
  | root index => numbers[index]
  | under _ position => position.occupant

/-- The index of the node that a position is that of, or is under. -/
def index {numbers : List Nat} : Position graph numbers → Fin numbers.length
  | root index => index
  | under index _ => index

/-- Depth-first order: a node comes before what is under it, and with all that is under it before the next
node. -/
inductive Before : {numbers : List Nat} → Position graph numbers → Position graph numbers → Prop
  | aside {numbers : List Nat} {first second : Position graph numbers} (earlier : first.index < second.index) :
      Before first second
  | above {numbers : List Nat} (index : Fin numbers.length)
      (position : Position graph (graph.childrenOf numbers[index])) : Before (root index) (under index position)
  | within {numbers : List Nat} (index : Fin numbers.length)
      {first second : Position graph (graph.childrenOf numbers[index])} (earlier : Before first second) :
      Before (under index first) (under index second)

/-- The node at a position stands at an earlier position too. -/
def IsRepeat (position : Position graph numbers) : Prop :=
  ∃ earlier : Position graph numbers, earlier.Before position ∧ earlier.occupant = position.occupant

/-- A position is the first one in depth-first order whose node stands at an earlier position too. -/
def IsFirstRepeat (position : Position graph numbers) : Prop :=
  position.IsRepeat ∧ ∀ earlier : Position graph numbers, earlier.Before position → ¬earlier.IsRepeat

theorem Before.index_le {first second : Position graph numbers} (before : first.Before second) :
    first.index ≤ second.index := by
  cases before with
  | aside earlier => exact Fin.le_of_lt earlier
  | above | within => exact Fin.le_refl _

theorem Before.asymm {first second : Position graph numbers} (before : first.Before second) :
    ¬second.Before first := by
  induction before with
  | aside earlier => exact fun other => absurd earlier (Fin.not_lt.mpr other.index_le)
  | above index position =>
    intro other
    cases other with
    | aside earlier => exact absurd earlier (Fin.lt_irrefl index)
  | within index _ ih =>
    intro other
    cases other with
    | aside earlier => exact absurd earlier (Fin.lt_irrefl index)
    | within _ earlier => exact ih earlier

/-- All positions, in depth-first order. -/
def all (graph : NodeGraph) (numbers : List Nat) : List (Position graph numbers) :=
  (List.finRange numbers.length).flatMap fun index =>
    root index :: (all graph (graph.childrenOf numbers[index])).map (under index)
termination_by ceiling numbers
decreasing_by exact ceiling_childrenOf_lt graph (List.getElem_mem index.isLt)

theorem mem_all (position : Position graph numbers) : position ∈ all graph numbers := by
  induction position with
  | root index =>
    rw [all, List.mem_flatMap]
    exact ⟨index, List.mem_finRange index, List.mem_cons_self⟩
  | under index position ih =>
    rw [all, List.mem_flatMap]
    exact ⟨index, List.mem_finRange index, List.mem_cons_of_mem _ (List.mem_map_of_mem ih)⟩

theorem index_of_mem_block {index : Fin numbers.length} {position : Position graph numbers}
    (member : position ∈ root index :: (all graph (graph.childrenOf numbers[index])).map (under index)) :
    position.index = index := by
  rcases List.mem_cons.mp member with rfl | below
  · rfl
  · rcases List.mem_map.mp below with ⟨_, _, rfl⟩
    rfl

theorem pairwise_all (graph : NodeGraph) (numbers : List Nat) : (all graph numbers).Pairwise Before := by
  induction numbers using children_induction graph with
  | step numbers ih =>
    rw [all, List.pairwise_flatMap]
    constructor
    · intro index _
      rw [List.pairwise_cons]
      constructor
      · intro position member
        rcases List.mem_map.mp member with ⟨below, _, rfl⟩
        exact .above index below
      · rw [List.pairwise_map]
        exact (ih _ (List.getElem_mem index.isLt)).imp (.within index)
    · apply (List.pairwise_lt_finRange numbers.length).imp
      intro first second earlier position inFirst other inSecond
      apply Before.aside
      rwa [index_of_mem_block inFirst, index_of_mem_block inSecond]

theorem nodup_all (graph : NodeGraph) (numbers : List Nat) : (all graph numbers).Nodup := by
  apply (pairwise_all graph numbers).imp
  rintro first second earlier rfl
  exact earlier.asymm earlier

/-- The positions before one are those that are listed before it. -/
theorem before_iff_mem {before after : List (Position graph numbers)} {position other : Position graph numbers}
    (split : all graph numbers = before ++ position :: after) : other.Before position ↔ other ∈ before := by
  have ordered := pairwise_all graph numbers
  rw [split, List.pairwise_append, List.pairwise_cons] at ordered
  constructor
  · intro earlier
    have listed := mem_all other
    rw [split, List.mem_append, List.mem_cons] at listed
    rcases listed with listed | rfl | later
    · exact listed
    · exact absurd earlier earlier.asymm
    · exact absurd earlier (ordered.2.1.1 other later).asymm
  · intro listed
    exact ordered.2.2 other listed position List.mem_cons_self

/-- A position repeats an earlier one if its node stands at one that is listed before it. -/
theorem isRepeat_iff_mem {before after : List (Position graph numbers)} {position : Position graph numbers}
    (split : all graph numbers = before ++ position :: after) :
    position.IsRepeat ↔ position.occupant ∈ before.map occupant := by
  simp only [IsRepeat, before_iff_mem split, List.mem_map]

/-- The nodes of the first positions are distinct if none of these repeats an earlier one. -/
theorem nodup_map_occupant_iff {before after : List (Position graph numbers)}
    (split : all graph numbers = before ++ after) :
    (before.map occupant).Nodup ↔ ∀ position ∈ before, ¬position.IsRepeat := by
  induction before using List.reverseRecOn generalizing after with
  | nil => simp
  | append_singleton before last ih =>
    rw [List.append_assoc, List.singleton_append] at split
    rw [List.map_append, List.map_singleton, List.nodup_append_comm, List.singleton_append, List.nodup_cons,
      List.forall_mem_append, List.forall_mem_singleton, ih split, isRepeat_iff_mem split]
    exact and_comm

/-- A position is the first repeat if its node is one of those at the positions listed before it, which are
distinct. -/
theorem isFirstRepeat_iff {before after : List (Position graph numbers)} {position : Position graph numbers}
    (split : all graph numbers = before ++ position :: after) :
    position.IsFirstRepeat ↔ (before.map occupant).Nodup ∧ position.occupant ∈ before.map occupant := by
  rw [IsFirstRepeat, isRepeat_iff_mem split, nodup_map_occupant_iff split, and_comm]
  simp only [before_iff_mem split]

end Position

/-! ### Nodes by position -/

/-- The nodes at all positions under some nodes, in depth-first order. -/
def occupants (graph : NodeGraph) (numbers : List Nat) : List Nat :=
  (Position.all graph numbers).map Position.occupant

theorem occupants_eq_flatMap (graph : NodeGraph) (numbers : List Nat) :
    graph.occupants numbers = numbers.flatMap fun number => number :: graph.occupants (graph.childrenOf number) := by
  rw [Place.flatMap_eq_finRange, occupants, Position.all, List.map_flatMap]
  simp only [List.map_cons, List.map_map]
  rfl

@[simp]
theorem occupants_nil (graph : NodeGraph) : graph.occupants [] = [] := by
  rw [occupants_eq_flatMap, List.flatMap_nil]

theorem occupants_cons (graph : NodeGraph) (number : Nat) (rest : List Nat) :
    graph.occupants (number :: rest) =
      number :: (graph.occupants (graph.childrenOf number) ++ graph.occupants rest) := by
  rw [occupants_eq_flatMap, List.flatMap_cons, List.cons_append, ← occupants_eq_flatMap]

theorem occupants_append (graph : NodeGraph) (first second : List Nat) :
    graph.occupants (first ++ second) = graph.occupants first ++ graph.occupants second := by
  simp only [occupants_eq_flatMap graph first, occupants_eq_flatMap graph second,
    occupants_eq_flatMap graph (first ++ second), List.flatMap_append]

/-- No node stands at two positions. -/
theorem nodup_occupants_iff :
    (graph.occupants numbers).Nodup ↔
      ∀ first second : Position graph numbers, first.occupant = second.occupant → first = second := by
  rw [occupants, List.nodup_map_iff_inj_on (Position.nodup_all graph numbers)]
  constructor
  · intro injective first second
    exact injective first first.mem_all second second.mem_all
  · intro injective first _ second _
    exact injective first second

end Phrasebook.NodeGraph
