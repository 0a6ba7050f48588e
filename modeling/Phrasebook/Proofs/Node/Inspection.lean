import Phrasebook.Proofs.Node.Position
import Phrasebook.Proofs.Node.Sharing

/-!
# Walks that look for shared nodes

A walk visits the nodes at the positions of a graph in depth-first order and ends at the first one that it has
visited before. The nodes it has visited and those at the positions that are left make up a list that no step
changes, and what the walk finds can be told from this list: that no node stands in it twice, or the first
node that does.
-/

namespace Phrasebook.NodeGraph

variable {graph : NodeGraph} {numbers : List Nat}

/-! ### What a walk finds -/

/-- What a walk that is to visit some nodes in order finds: that they are distinct, or the first of them that it
has visited before. -/
inductive Finds (graph : NodeGraph) (ahead : List Nat) : List Nat × Option Failure → Prop
  | nothing (distinct : ahead.Nodup) : Finds graph ahead (ahead.reverse, none)
  | shared {before after : List Nat} {number : Nat} {key : Text} (split : ahead = before ++ number :: after)
      (distinct : before.Nodup) (again : number ∈ before) (named : graph.keyAt? number = some key) :
      Finds graph ahead (number :: before.reverse, some (.problem (.sharedNode key)))

/-- Whatever has been visited, a walk finds what the nodes at the positions ahead of it are. -/
theorem finds_inspect {visited : List Nat} (distinct : visited.Nodup)
    (bounded : ∀ number ∈ numbers, number < graph.nodes.size) :
    Finds graph (visited.reverse ++ graph.occupants numbers) (graph.inspect visited (numbers.map .node)) := by
  -- What has been visited and what is ahead make up one list, which is the same after every step.
  generalize places : numbers.map GraphPlace.node = waiting
  fun_induction inspect graph visited waiting generalizing numbers with
  | case1 visited =>
    rw [List.map_eq_nil_iff.mp places, occupants_nil, List.append_nil]
    have found : Finds graph _ _ := .nothing (List.nodup_reverse.mpr distinct)
    rwa [List.reverse_reverse] at found
  | case2 =>
    rcases List.map_eq_cons_iff.mp places with ⟨_, _, _, impossible, _⟩
    cases impossible
  | case3 visited number rest bound =>
    rename_i seen
    rcases List.map_eq_cons_iff.mp places with ⟨_, others, rfl, same, _⟩
    cases same
    have again : number ∈ visited.reverse := List.mem_reverse.mpr (List.contains_iff_mem.mp seen)
    have found : Finds graph _ _ := .shared (congrArg (visited.reverse ++ ·) (occupants_cons graph number others))
      (List.nodup_reverse.mpr distinct) again (keyAt?_eq bound)
    rwa [List.reverse_reverse] at found
  | case4 visited number rest bound node fresh =>
    rename_i ih
    rcases List.map_eq_cons_iff.mp places with ⟨_, others, rfl, same, rfl⟩
    cases same
    rw [List.forall_mem_cons] at bounded
    have below : ∀ child ∈ graph.childrenOf number ++ others, child < graph.nodes.size := by
      intro child member
      rcases List.mem_append.mp member with under | beside
      · exact Nat.lt_trans (lt_of_mem_childrenOf under) bound
      · exact bounded.2 child beside
    have unmet : number ∉ visited := fun member => fresh (List.contains_iff_mem.mpr member)
    have found := ih (List.nodup_cons.mpr ⟨unmet, distinct⟩) below
      (by rw [List.map_append, childrenOf_eq bound])
    rwa [List.reverse_cons, List.append_assoc, occupants_append, List.singleton_append, ← occupants_cons] at found
  | case5 visited number rest unbound =>
    rcases List.map_eq_cons_iff.mp places with ⟨_, others, rfl, same, _⟩
    cases same
    exact absurd (bounded number List.mem_cons_self) unbound

theorem not_nodup_of_again {before after : List Nat} {number : Nat} (again : number ∈ before) :
    ¬(before ++ number :: after).Nodup := by
  intro distinct
  exact (List.nodup_append.mp distinct).2.2 number again number List.mem_cons_self rfl

/-- Nothing is left between two cuts at an item that is there before. -/
theorem eq_nil_of_again {before between after rest : List Nat} {number : Nat} (again : number ∈ before)
    (distinct : (before ++ between).Nodup) (same : number :: after = between ++ rest) : between = [] := by
  cases between with
  | nil => rfl
  | cons first others =>
    have : number = first := List.head_eq_of_cons_eq same
    subst this
    exact absurd distinct (not_nodup_of_again again)

/-- A list is cut in one way at the first item that it has before. -/
theorem cut_unique {before before' after after' : List Nat} {number number' : Nat}
    (same : before ++ number :: after = before' ++ number' :: after') (distinct : before.Nodup)
    (again : number ∈ before) (distinct' : before'.Nodup) (again' : number' ∈ before') :
    before = before' ∧ number = number' := by
  rcases List.append_eq_append_iff.mp same with ⟨between, rfl, left⟩ | ⟨between, rfl, left⟩
  · have := eq_nil_of_again again distinct' left
    subst this
    exact ⟨(List.append_nil before).symm, List.head_eq_of_cons_eq left⟩
  · have := eq_nil_of_again again' distinct left
    subst this
    exact ⟨List.append_nil before', (List.head_eq_of_cons_eq left).symm⟩

namespace Finds

variable {ahead : List Nat} {result : List Nat × Option Failure}

/-- Nodes are visited in order. -/
theorem in_order (found : Finds graph ahead result) : result.1.reverse <+: ahead := by
  cases found with
  | nothing => exact ⟨[], by rw [List.reverse_reverse, List.append_nil]⟩
  | shared split =>
    rw [List.reverse_cons, List.reverse_reverse, split]
    exact ⟨_, by rw [List.append_assoc, List.singleton_append]⟩

/-- No more nodes are visited than there are and one. -/
theorem length_le (found : Finds graph ahead result) : result.1.length ≤ ahead.toFinset.card + 1 := by
  cases found with
  | nothing distinct =>
    rw [List.length_reverse, List.toFinset_card_of_nodup distinct]
    exact Nat.le_succ ahead.length
  | @shared before _ _ _ split distinct =>
    have fewer : before.toFinset ⊆ ahead.toFinset := by
      intro number member
      rw [List.mem_toFinset] at member ⊢
      rw [split]
      exact List.mem_append_left _ member
    rw [List.length_cons, List.length_reverse, ← List.toFinset_card_of_nodup distinct]
    exact Nat.succ_le_succ (Finset.card_le_card fewer)

/-- Nothing is found if no node stands ahead twice. -/
theorem eq_none_iff (found : Finds graph ahead result) : result.2 = none ↔ ahead.Nodup := by
  cases found with
  | nothing distinct => exact iff_of_true rfl distinct
  | shared split _ again =>
    apply iff_of_false nofun
    rw [split]
    exact not_nodup_of_again again

/-- What is found is the first node that stands ahead before. -/
theorem eq_some_iff (found : Finds graph ahead result) {failure : Failure} :
    result.2 = some failure ↔
      ∃ before number after, ahead = before ++ number :: after ∧ before.Nodup ∧ number ∈ before ∧
        ∃ key, graph.keyAt? number = some key ∧ failure = .problem (.sharedNode key) := by
  cases found with
  | nothing unshared =>
    apply iff_of_false nofun
    rintro ⟨before, number, after, rfl, _, again, _⟩
    exact not_nodup_of_again again unshared
  | @shared before after number key split distinct again named =>
    constructor
    · intro same
      cases same
      exact ⟨before, number, after, split, distinct, again, key, named, rfl⟩
    · rintro ⟨_, _, _, split', distinct', again', key', named', rfl⟩
      rcases cut_unique (split.symm.trans split') distinct again distinct' again' with ⟨rfl, rfl⟩
      cases named.symm.trans named'
      rfl

end Finds

/-- The first repeat is where the list of the nodes at all positions is cut. -/
theorem exists_isFirstRepeat_iff {holds : Nat → Prop} :
    (∃ before number after, graph.occupants numbers = before ++ number :: after ∧ before.Nodup ∧
        number ∈ before ∧ holds number) ↔
      ∃ position : Position graph numbers, position.IsFirstRepeat ∧ holds position.occupant := by
  constructor
  · rintro ⟨_, _, _, split, distinct, again, held⟩
    rcases List.map_eq_append_iff.mp split with ⟨before, others, listed, rfl, right⟩
    rcases List.map_eq_cons_iff.mp right with ⟨position, after, rfl, rfl, rfl⟩
    exact ⟨position, (Position.isFirstRepeat_iff listed).mpr ⟨distinct, again⟩, held⟩
  · rintro ⟨position, first, held⟩
    rcases List.append_of_mem position.mem_all with ⟨before, after, listed⟩
    rcases (Position.isFirstRepeat_iff listed).mp first with ⟨distinct, again⟩
    refine ⟨_, _, after.map Position.occupant, ?_, distinct, again, held⟩
    rw [occupants, listed, List.map_append, List.map_cons]

/-! ### What makes a tree -/

section Roots

variable {languages : List Text} {hash : Text} {warnings : List Warning}

/-- The walk that looks for shared nodes finds what the nodes at the positions are. -/
theorem finds_inspect_roots (bounded : ∀ number ∈ numbers, number < graph.nodes.size) :
    Finds graph (graph.occupants numbers) (graph.inspect [] (numbers.map .node)) :=
  finds_inspect List.nodup_nil bounded

theorem tree_eq_ok {tree : Tree} {places : List GraphPlace} :
    graph.tree places languages hash warnings = .ok tree ↔
      (graph.inspect [] places).2 = none ∧ Tree.make (graph.forest places) languages hash warnings = tree := by
  unfold NodeGraph.tree
  split
  · rename_i found
    simp [found]
  · rename_i found
    simp [found]

theorem tree_eq_error {failure : Failure} {places : List GraphPlace} :
    graph.tree places languages hash warnings = .error failure ↔
      (graph.inspect [] places).2 = some failure := by
  unfold NodeGraph.tree
  split
  · rename_i found
    simp [found]
  · rename_i found
    simp [found]

/-- Roots make a tree if no node stands at two positions. -/
theorem exists_tree_iff (bounded : ∀ number ∈ numbers, number < graph.nodes.size) :
    (∃ tree, graph.tree (numbers.map .node) languages hash warnings = .ok tree) ↔
      ∀ first second : Position graph numbers, first.occupant = second.occupant → first = second := by
  simp only [tree_eq_ok, exists_and_left, exists_eq', and_true, (finds_inspect_roots bounded).eq_none_iff,
    nodup_occupants_iff]

/-- Roots that make no tree are refused for the first repeat. -/
theorem tree_eq_error_iff (bounded : ∀ number ∈ numbers, number < graph.nodes.size) {failure : Failure} :
    graph.tree (numbers.map .node) languages hash warnings = .error failure ↔
      ∃ position : Position graph numbers, position.IsFirstRepeat ∧
        ∃ key, graph.keyAt? position.occupant = some key ∧ failure = .problem (.sharedNode key) := by
  rw [tree_eq_error, (finds_inspect_roots bounded).eq_some_iff, exists_isFirstRepeat_iff]

/-- Roots are refused for a shared node if a node stands at two positions. -/
theorem exists_sharedNode_iff (bounded : ∀ number ∈ numbers, number < graph.nodes.size) :
    (∃ key, graph.tree (numbers.map .node) languages hash warnings = .error (.problem (.sharedNode key))) ↔
      ∃ first second : Position graph numbers, first ≠ second ∧ first.occupant = second.occupant := by
  have makes : (∃ tree, graph.tree (numbers.map .node) languages hash warnings = .ok tree) ↔ _ :=
    exists_tree_iff bounded
  constructor
  · rintro ⟨key, refused⟩
    by_contra unshared
    simp only [not_exists, not_and] at unshared
    rcases makes.mpr fun first second same => by_contra (unshared first second · same) with ⟨tree, made⟩
    cases refused.symm.trans made
  · rintro ⟨first, second, distinct, same⟩
    cases made : graph.tree (numbers.map .node) languages hash warnings with
    | ok tree => exact absurd (makes.mp ⟨tree, made⟩ first second same) distinct
    | error failure =>
      rcases (tree_eq_error_iff bounded).mp made with ⟨_, _, key, _, rfl⟩
      exact ⟨key, rfl⟩

end Roots

/-! ### The walk of a tree -/

theorem children_copyAt (graph : NodeGraph) (number : Fin graph.nodes.size) :
    (graph.copyAt number).children = (graph.childrenOf number).filterMap (graph.copies[·]?) := by
  rw [Node.children, copyAt_eq, children?_copyOf, childrenOf_eq number.isLt]
  cases graph.nodes[number.val].children <;> rfl

/-- The nodes below a parent, in the order of visits, are copies of those at the positions. -/
theorem map_snd_entriesBelow (parent : Option Text) (bounded : ∀ number ∈ numbers, number < graph.nodes.size) :
    ((Place.entriesBelow parent (numbers.filterMap (graph.copies[·]?))).map Prod.snd).map some =
      (graph.occupants numbers).map (graph.copies[·]?) := by
  induction numbers using children_induction graph generalizing parent with
  | step numbers below =>
    induction numbers with
    | nil =>
      rw [List.filterMap_nil, Place.entriesBelow_nil, occupants_nil]
      rfl
    | cons number rest ih =>
      rw [List.forall_mem_cons] at below bounded
      have under : ∀ child ∈ graph.childrenOf number, child < graph.nodes.size := fun child member =>
        Nat.lt_trans (lt_of_mem_childrenOf member) bounded.1
      have copy := graph.getElem?_copies ⟨number, bounded.1⟩
      rw [List.filterMap_cons_some copy, Place.entriesBelow_cons, occupants_cons, children_copyAt]
      simp only [List.map_cons, List.map_append, below.1 _ under, ih below.2 bounded.2, copy]

/-- The walk of a tree visits copies of the nodes at the positions under its roots. -/
theorem map_snd_walk {languages : List Text} {hash : Text} {warnings : List Warning} {tree : Tree}
    (bounded : ∀ number ∈ numbers, number < graph.nodes.size)
    (made : graph.tree (numbers.map .node) languages hash warnings = .ok tree) :
    (tree.walk.map Prod.snd).map some = (graph.occupants numbers).map (graph.copies[·]?) := by
  rcases tree_eq_ok.mp made with ⟨_, rfl⟩
  rw [← map_snd_entriesBelow none bounded]
  simp only [Tree.walk, Tree.make, Place.walk_eq_map_all, Place.entriesBelow, forest_map_node]
  rfl

end Phrasebook.NodeGraph
