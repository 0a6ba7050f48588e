import Phrasebook.Lookup.Resolver
import Phrasebook.Proofs.Key.Path
import Phrasebook.Proofs.Node.Place

/-!
# Addresses of places

The look-up of a key path follows the first node with each key, so that it leads to a place: to the one
whose keys are the segments of the path, unless an earlier sibling has a key on the way. The path of a
place leads back to the place exactly if nothing shadows the place and no key on the way to it has a
period, because the path is cut at the periods in keys too.
-/

namespace Phrasebook

namespace Place

variable {nodes : List Node}

theorem segments_pathBelow {place : Place nodes} (given : ∀ key ∈ place.keys, key ≠ [])
    (parent : Option Text) :
    KeyPath.segments (place.pathBelow parent) =
      KeyPath.stem parent ++ place.keys.flatMap KeyPath.segments := by
  induction place generalizing parent with
  | root index => simp [pathBelow, KeyPath.segments_join]
  | under index place ih =>
    simp only [keys_under, List.mem_cons, forall_eq_or_imp] at given
    rw [pathBelow, ih given.2, KeyPath.stem_of_ne_nil (KeyPath.join_ne_nil given.1),
      KeyPath.segments_join, keys_under, List.flatMap_cons, List.append_assoc]

theorem segments_path {place : Place nodes} (given : ∀ key ∈ place.keys, key ≠ []) :
    KeyPath.segments place.path = place.keys.flatMap KeyPath.segments :=
  segments_pathBelow given none

end Place

namespace Resolver

variable {resolver : Resolver}

/-- The place that a key path leads to. -/
def locate (resolver : Resolver) (keyPath : Text) : Option (Place resolver.tree.roots) :=
  Place.find? resolver.tree.roots (KeyPath.segments keyPath)

theorem find?_cons_map_node (nodes : List Node) (key : Text) (rest : List Text) :
    (Place.find? nodes (key :: rest)).map Place.node =
      (Node.withKey? nodes key).bind fun node =>
        if rest = [] then some node else (Place.find? node.children rest).map Place.node := by
  rw [Node.withKey?, List.find?_eq_map_findFinIdx?_getElem, Place.find?]
  cases nodes.findFinIdx? (·.key = key) with
  | none => rfl
  | some index =>
    cases rest with
    | nil => rfl
    | cons next rest =>
      simp only [Option.bind_some, Option.map_some, Option.map_map, reduceCtorEq, if_false]
      rfl

theorem follow_toOption (keyPath : Text) (node : Node) (keys : List Text) :
    (follow keyPath node keys).toOption =
      if keys = [] then some node else (Place.find? node.children keys).map Place.node := by
  induction keys generalizing node with
  | nil => rfl
  | cons key rest ih =>
    rw [find?_cons_map_node, follow, if_neg (List.cons_ne_nil key rest), ← Node.child?]
    cases node.child? key with
    | none => rfl
    | some child => exact ih child

/-- A look-up answers with the node at the place that the key path leads to. -/
theorem findNode_toOption (resolver : Resolver) (keyPath : Text) :
    (resolver.findNode keyPath).toOption = (resolver.locate keyPath).map Place.node := by
  unfold findNode locate
  cases split : KeyPath.segments keyPath with
  | nil => exact absurd split (Text.splitOn_ne_nil _ _)
  | cons first rest =>
    rw [find?_cons_map_node, ← Tree.root?]
    dsimp only
    cases resolver.tree.root? first with
    | none => rfl
    | some root => exact follow_toOption keyPath root rest

theorem findNode_eq_ok {keyPath : Text} {node : Node} :
    resolver.findNode keyPath = .ok node ↔
      ∃ place, resolver.locate keyPath = some place ∧ place.node = node := by
  rw [← Option.map_eq_some_iff, ← findNode_toOption]
  cases resolver.findNode keyPath <;> simp [Except.toOption]

/-- The path of a place leads back to it exactly if no key on the way has a period and no node on the
way has an earlier sibling with its key. -/
theorem locate_path {place : Place resolver.tree.roots} (given : ∀ key ∈ place.keys, key ≠ []) :
    resolver.locate place.path = some place ↔
      (∀ key ∈ place.keys, .scalar '.' ∉ key) ∧ ¬place.Shadowed := by
  rw [locate, Place.find?_eq_some, Place.segments_path given, eq_comm (a := place.keys),
    KeyPath.flatMap_segments_eq_self]

end Resolver

end Phrasebook
