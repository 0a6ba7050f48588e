import Phrasebook.Proofs.Document.Recursion
import Phrasebook.Proofs.Document.Refusal
import Phrasebook.Proofs.Node.Making

/-!
# The objects of a document

The reading of a document with the objects that it makes: each node is a new object, which is put into the frame
of the array that it belongs to, and those of a frame become the children of the branch that owns the array.
The frames keep a ledger of objects beside their nodes. Every object made so far stands at one position under
those in the ledger, so a document gives the tree that its nodes make, and no object is shared in it.
-/

namespace Phrasebook

namespace Document

/-- An array that is being read, with the objects of its nodes, last one first. -/
structure ObjectFrame where
  frame : Frame
  objects : List Nat

/-- The frame of an array that nothing has been read from. -/
def ObjectFrame.fresh (frame : Frame) : ObjectFrame := ⟨frame, []⟩

/-- The frame of the array of a document. -/
def ObjectFrame.ofDocument (items : List Datum) : ObjectFrame := .fresh (.ofItems items none [] .empty)

/-- The frame after its first item. -/
def ObjectFrame.afterFirst (owner : ObjectFrame) (rest : List Datum) : ObjectFrame :=
  { owner with frame := owner.frame.afterFirst rest }

/-- The children of the branch that owns an array. -/
def ObjectFrame.places (inner : ObjectFrame) : List GraphPlace := inner.objects.reverse.map .node

/-- The branch that owns an array. -/
def ObjectFrame.branch (inner : ObjectFrame) : Node :=
  .branch inner.frame.key inner.frame.texts inner.frame.nodes.reverse

/-- Puts a complete node and its object into a frame, and notes it. -/
def ObjectFrame.register (owner : ObjectFrame) (node : Node) (object : Nat) (notes : List Note) :
    ObjectFrame × List Note :=
  (⟨(owner.frame.register node notes).1, object :: owner.objects⟩, (owner.frame.register node notes).2)

/-- What is left to be done for some frames. -/
def objectWork (frames : List ObjectFrame) : Nat := workOf (frames.map ObjectFrame.frame)

/-- Reads what is left of an array, and then what is left of the arrays around it, into a graph of the objects
made so far. -/
def readObjects [Host] (codes : List Text) (graph : NodeGraph) (inner : ObjectFrame) (around : List ObjectFrame)
    (notes : List Note) : Except Failure (NodeGraph × List Nat) × List Note :=
  match _left : inner.frame.items with
  | [] =>
    match around with
    | [] => (.ok (graph, inner.objects.reverse), notes)
    | parent :: around =>
      match graph.add inner.frame.key inner.frame.texts (some inner.places) with
      | .error failure => (.error failure, notes)
      | .ok (object, graph) =>
        let made := parent.register inner.branch object notes
        readObjects codes graph made.1 around made.2
  | item :: rest =>
    match _read : readItem codes inner.frame item notes with
    | (.error fault, notes) => (.error fault.failure, notes)
    | (.ok entry, notes) =>
      match _owned : entry.children with
      | none =>
        match graph.add entry.key entry.texts none with
        | .error failure => (.error failure, notes)
        | .ok (object, graph) =>
          let made := (inner.afterFirst rest).register (.leaf entry.key entry.texts) object notes
          readObjects codes graph made.1 around made.2
      | some value =>
        match _array : arrayItems (some entry.keyPath) value with
        | .error problem => (.error (.problem problem), notes)
        | .ok items => readObjects codes graph (.fresh (entry.open items)) (inner.afterFirst rest :: around) notes
termination_by objectWork (inner :: around)
decreasing_by
  · simp only [objectWork, List.map_cons, workOf, ObjectFrame.register, Frame.register, _left, weightItems]
    omega
  · have := weight_pos item
    simp only [objectWork, List.map_cons, workOf, ObjectFrame.register, ObjectFrame.afterFirst, Frame.afterFirst,
      Frame.register, _left, weightItems]
    omega
  · have := readItem_children_weight _read _owned
    have := arrayItems_weight _array
    simp only [objectWork, List.map_cons, workOf, ObjectFrame.fresh, ObjectFrame.afterFirst, Frame.afterFirst,
      Entry.open, Frame.ofItems, _left, weightItems]
    omega

/-- Reads a decoded document into objects and makes a tree of them. -/
def makeTree [Host] (registry : Registry) (data : Datum) (hash : Text) : Except Failure Tree :=
  match arrayItems none data with
  | .error problem => .error (.problem problem)
  | .ok items =>
    match readObjects registry.codes .empty (.ofDocument items) [] [] with
    | (.error failure, _) => .error failure
    | (.ok (graph, objects), notes) =>
      graph.tree (objects.map .node) registry.codes hash (notes.reverse.filterMap Note.warning?)

/-! ### The ledgers -/

section Ledgers

variable {graph after : NodeGraph} {loose : List Nat} {owner : ObjectFrame} {around : List ObjectFrame}
  {node : GraphNode} {notes : List Note}

/-- The objects in the ledgers of some frames. -/
def ledger (frames : List ObjectFrame) : List Nat := frames.flatMap ObjectFrame.objects

/-- The ledgers are right: the objects of each frame are those of its nodes, and every object made so far stands
at one position under the loose ones and those in the ledgers. -/
structure Kept (graph : NodeGraph) (loose : List Nat) (frames : List ObjectFrame) : Prop where
  copied : ∀ owner ∈ frames, graph.forest (owner.objects.map .node) = owner.frame.nodes
  once : (graph.occupants (loose ++ ledger frames)).Perm (List.range graph.nodes.size)

namespace Kept

theorem bounded {frames : List ObjectFrame} (kept : Kept graph loose frames) :
    ∀ object ∈ loose ++ ledger frames, object < graph.nodes.size := fun _ member =>
  List.mem_range.mp (kept.once.mem_iff.mp (graph.mem_occupants member))

theorem bounded_frame {frames : List ObjectFrame} (kept : Kept graph loose frames) :
    ∀ owner ∈ frames, ∀ object ∈ owner.objects, object < graph.nodes.size := fun owner member _ listed =>
  kept.bounded _ (List.mem_append_right _ (List.mem_flatMap.mpr ⟨owner, member, listed⟩))

theorem start (items : List Datum) : Kept .empty [] [.ofDocument items] where
  copied := by
    intro owner member
    rw [List.mem_singleton.mp member]
    rfl
  once := by
    rw [ledger, List.flatMap_singleton, ObjectFrame.ofDocument, ObjectFrame.fresh, List.append_nil,
      NodeGraph.occupants_nil]
    rfl

/-- An array is begun with an empty ledger. -/
theorem opened (kept : Kept graph [] (owner :: around)) (rest items : List Datum) (entry : Entry) :
    Kept graph [] (.fresh (entry.open items) :: owner.afterFirst rest :: around) where
  copied := List.forall_mem_cons.mpr ⟨rfl, List.forall_mem_cons.mpr (List.forall_mem_cons.mp kept.copied)⟩
  once := kept.once

/-- The objects of an array are loose when it has been read. -/
theorem closed (kept : Kept graph [] (owner :: around)) : Kept graph owner.objects around where
  copied := (List.forall_mem_cons.mp kept.copied).2
  once := kept.once

/-- A new object takes the loose ones for its children and goes into the ledger of a frame. -/
theorem registered (kept : Kept graph loose (owner :: around)) (pushed : after.nodes = graph.nodes.push node)
    (owned : (node.children.getD []).Perm loose) :
    Kept after [] ((owner.register (NodeGraph.copyOf graph.copies node) graph.nodes.size notes).1 :: around) where
  copied := by
    have copied := kept.copied
    have old := kept.bounded_frame
    rw [List.forall_mem_cons] at copied old ⊢
    constructor
    · rw [ObjectFrame.register, NodeGraph.forest_pushed pushed old.1, copied.1]
      rfl
    · intro other member
      rw [NodeGraph.forest_of_pushed pushed (old.2 other member), copied.2 other member]
  once := NodeGraph.perm_occupants_pushed pushed owned kept.once

/-- A leaf is a new object without children. -/
theorem registered_leaf (kept : Kept graph [] (owner :: around)) {key : Text} {texts : LocalTexts}
    (pushed : after.nodes = graph.nodes.push ⟨key, texts, none⟩) (rest : List Datum) :
    Kept after []
      (((owner.afterFirst rest).register (.leaf key texts) graph.nodes.size notes).1 :: around) :=
  have kept : Kept graph [] (owner.afterFirst rest :: around) :=
    ⟨List.forall_mem_cons.mpr (List.forall_mem_cons.mp kept.copied), kept.once⟩
  kept.registered pushed (List.Perm.refl [])

/-- A branch is a new object with those of its array. -/
theorem registered_branch {inner : ObjectFrame} (kept : Kept graph [] (inner :: owner :: around)) {key : Text}
    {texts : LocalTexts} (pushed : after.nodes = graph.nodes.push ⟨key, texts, some inner.objects.reverse⟩) :
    Kept after []
      ((owner.register (.branch key texts inner.frame.nodes.reverse) graph.nodes.size notes).1 :: around) := by
  have copied := (List.forall_mem_cons.mp kept.copied).1
  rw [NodeGraph.forest_map_node] at copied
  rw [← copied, ← List.filterMap_reverse]
  exact kept.closed.registered pushed (List.reverse_perm inner.objects)

end Kept

end Ledgers

/-! ### The tree of a document -/

variable {codes : List Text}

/-- A reading into objects agrees with one into nodes: it fails in the same way, or its objects are those of the
nodes and none is shared. The notes are the same. -/
inductive Agrees [Host] : Except Failure (NodeGraph × List Nat) × List Note → Noted (List Node) → Prop
  | failed (fault : Fault) (notes : List Note) : Agrees (.error fault.failure, notes) (.error fault, notes)
  | read {graph : NodeGraph} {objects : List Nat} {nodes : List Node} (notes : List Note)
      (copied : graph.forest (objects.map .node) = nodes) (bounded : ∀ object ∈ objects, object < graph.nodes.size)
      (distinct : (graph.occupants objects).Nodup) : Agrees (.ok (graph, objects), notes) (.ok nodes, notes)

/-- A branch can be made of the objects of its array. -/
theorem add_places {graph : NodeGraph} {inner : ObjectFrame} {around : List ObjectFrame}
    (kept : Kept graph [] (inner :: around)) :
    ∃ after, graph.add inner.frame.key inner.frame.texts (some inner.places) = .ok (graph.nodes.size, after) ∧
      after.nodes = graph.nodes.push ⟨inner.frame.key, inner.frame.texts, some inner.objects.reverse⟩ := by
  apply graph.add_branch
  intro object member
  exact kept.bounded_frame inner List.mem_cons_self object (List.mem_reverse.mp member)

/-- With right ledgers, the objects of what is left are those of the nodes read from it. -/
theorem agrees_readObjects [Host] {graph : NodeGraph} {inner : ObjectFrame} {around : List ObjectFrame}
    {notes : List Note} (kept : Kept graph [] (inner :: around)) :
    Agrees (readObjects codes graph inner around notes)
      (readFrames codes inner.frame (around.map ObjectFrame.frame) notes) := by
  fun_induction readObjects codes graph inner around notes with
  | case1 graph inner notes done =>
    rw [List.map_nil, readFrames_nil done]
    have copied := (List.forall_mem_cons.mp kept.copied).1
    have bounded := kept.bounded
    have once := kept.once
    rw [ledger, List.flatMap_singleton, List.nil_append] at bounded once
    refine .read notes ?_ (fun object member => bounded object (List.mem_reverse.mp member)) ?_
    · rw [NodeGraph.forest_map_node] at copied ⊢
      rw [List.filterMap_reverse, copied]
    · have same := graph.occupants_perm (List.reverse_perm inner.objects)
      exact (same.trans once).nodup_iff.mpr List.nodup_range
  -- The objects in a ledger have been made, so a branch is never refused.
  | case2 graph inner notes done parent around failure refused =>
    rcases add_places kept with ⟨after, added, _⟩
    cases added.symm.trans refused
  | case3 graph inner notes done parent around object after added made ih =>
    rcases add_places kept with ⟨_, added', pushed⟩
    cases added'.symm.trans added
    rw [List.map_cons, readFrames_nil done]
    exact ih (kept.registered_branch pushed)
  | case4 graph inner around notes item rest left fault later read =>
    rw [readFrames_cons_error left read]
    exact .failed fault later
  | case5 graph inner around notes item rest left entry later read leaf failure refused =>
    rcases graph.add_leaf entry.key entry.texts with ⟨after, added, _⟩
    cases added.symm.trans refused
  | case6 graph inner around notes item rest left entry later read leaf object after added made ih =>
    rcases graph.add_leaf entry.key entry.texts with ⟨_, added', pushed⟩
    cases added'.symm.trans added
    rw [readFrames_cons_leaf left read leaf]
    exact ih (kept.registered_leaf pushed rest)
  | case7 graph inner around notes item rest left entry later read value owned problem notArray =>
    rw [readFrames_cons_notArray left read owned notArray]
    exact .failed (.problem problem) later
  | case8 graph inner around notes item rest left entry later read value owned items array ih =>
    rw [readFrames_cons_array left read owned array]
    exact ih (kept.opened rest items entry)

/-- A document makes the tree that is read from it, or fails as the reading does. -/
theorem makeTree_eq [Host] (registry : Registry) (data : Datum) (hash : Text) :
    makeTree registry data hash = (readData registry data hash).result := by
  rw [makeTree, readData_result, readForest]
  cases arrayItems none data with
  | error problem => rfl
  | ok items =>
    have agrees : Agrees (readObjects registry.codes .empty (.ofDocument items) [] [])
        (readFrames registry.codes (.ofItems items none [] .empty) [] []) := agrees_readObjects (Kept.start items)
    dsimp only
    generalize readObjects registry.codes .empty (.ofDocument items) [] [] = objects at agrees ⊢
    generalize readFrames registry.codes (.ofItems items none [] .empty) [] [] = nodes at agrees ⊢
    cases agrees with
    | failed => rfl
    | read notes copied bounded distinct =>
      have found := (NodeGraph.finds_inspect_roots bounded).eq_none_iff.mpr distinct
      exact NodeGraph.tree_eq_ok.mpr ⟨found, congrArg (Tree.make · _ _ _) copied⟩

/-- A document is not refused for a shared node. -/
theorem makeTree_ne_sharedNode [Host] (registry : Registry) (data : Datum) (hash key : Text) :
    makeTree registry data hash ≠ .error (.problem (.sharedNode key)) := by
  rw [makeTree_eq]
  intro refused
  rcases readData_eq_error.mp refused with ⟨fault, faulty, same⟩
  cases Format.endsIn_iff.mpr same with
  | problem => cases faulty.isOfDocument

end Document

namespace NodeGraph

/-- Roots are refused exactly if a node stands at two positions under them, for the first node in depth-first
order that is met again. The walk that decides this meets the nodes at the first positions, no more of them than
there are nodes and one. In a tree that is made no node stands at two positions, and the walk of the tree is
that of the positions. The objects made for a document are never refused. -/
theorem refuses_shared_nodes [Host] :
    (∀ (graph : NodeGraph) (numbers : List Nat) (languages : List Text) (hash : Text) (warnings : List Warning),
      (∀ number ∈ numbers, number < graph.nodes.size) →
      ((∃ key, graph.tree (numbers.map .node) languages hash warnings = .error (.problem (.sharedNode key))) ↔
        ∃ first second : Position graph numbers, first ≠ second ∧ first.occupant = second.occupant) ∧
      (∀ failure, graph.tree (numbers.map .node) languages hash warnings = .error failure ↔
        ∃ position : Position graph numbers, position.IsFirstRepeat ∧
          ∃ key, graph.keyAt? position.occupant = some key ∧ failure = .problem (.sharedNode key)) ∧
      (graph.inspect [] (numbers.map .node)).1.reverse <+: graph.occupants numbers ∧
      (graph.inspect [] (numbers.map .node)).1.length ≤ (graph.occupants numbers).toFinset.card + 1 ∧
      ∀ tree, graph.tree (numbers.map .node) languages hash warnings = .ok tree →
        (∀ first second : Position graph numbers, first.occupant = second.occupant → first = second) ∧
        (tree.walk.map Prod.snd).map some = (graph.occupants numbers).map (graph.copies[·]?)) ∧
    ∀ registry data hash,
      Document.makeTree registry data hash = (Document.readData registry data hash).result ∧
      ∀ key, Document.makeTree registry data hash ≠ .error (.problem (.sharedNode key)) := by
  refine ⟨?roots, ?documents⟩
  case roots =>
    intro graph numbers languages hash warnings bounded
    have found := finds_inspect_roots bounded
    refine ⟨exists_sharedNode_iff bounded, fun _ => tree_eq_error_iff bounded, found.in_order, found.length_le, ?_⟩
    intro tree made
    exact ⟨(exists_tree_iff bounded).mp ⟨tree, made⟩, map_snd_walk bounded made⟩
  case documents =>
    intro registry data hash
    exact ⟨Document.makeTree_eq registry data hash, Document.makeTree_ne_sharedNode registry data hash⟩

/-- A leaf under two branches. -/
def leafTwice : NodeGraph where
  nodes := #[⟨"shared", .empty, none⟩, ⟨"a", .empty, some [0]⟩, ⟨"b", .empty, some [0]⟩]
  descending := by decide

section Example

open Host.Plain

theorem refuses_shared_nodes_leafTwice :
    (∃ key, leafTwice.tree [.node 1, .node 2] [] [] [] = .error (.problem (.sharedNode key))) ∧
      (leafTwice.inspect [] [.node 1, .node 2]).1.length ≤ 4 ∧
      ∃ tree, leafTwice.tree [.node 1] [] [] [] = .ok tree ∧
        ∀ first second : Position leafTwice [1], first.occupant = second.occupant → first = second := by
  rcases refuses_shared_nodes.1 leafTwice [1, 2] [] [] [] (by decide) with ⟨refused, _, _, few, _⟩
  rcases refuses_shared_nodes.1 leafTwice [1] [] [] [] (by decide) with ⟨_, _, _, _, accepted⟩
  have met : leafTwice.occupants [1, 2] = [1, 0, 2, 0] := by
    simp [occupants_cons, childrenOf, leafTwice]
  have made : leafTwice.tree [.node 1] [] [] [] =
      .ok (.make [.branch "a" .empty [.leaf "shared" .empty]] [] [] []) := by
    simp [NodeGraph.tree, inspect, leafTwice, NodeGraph.forest, copy]
  refine ⟨refused.mpr ⟨.under ⟨0, by decide⟩ (.root ⟨0, by decide⟩),
    .under ⟨1, by decide⟩ (.root ⟨0, by decide⟩), ?_, rfl⟩, ?_, _, made, (accepted _ made).1⟩
  · intro same
    exact absurd (congrArg Position.index same) (by decide)
  · apply few.trans
    rw [met]
    decide

end Example

end NodeGraph

end Phrasebook
