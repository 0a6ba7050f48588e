import Phrasebook.Proofs.KeyModule.Constants
import Phrasebook.Proofs.KeyModule.Indentation

/-!
# Forests that have a key module

A forest asks for members, depth first: a constant for a leaf and for a node with texts, and a class for a
branch, after the constant of the same node. Each member may be at fault on its own, for want of a name,
for the classes that it is in, or because a member before it in the same class has its name. The members
are made one after another with the names of those before in hand, so the first fault in this order is the
problem that is reported. If there is none, then the keys give names, the names in each class are distinct,
and no way down from a root has too many branches on it. Before a member is looked at, the blanks of one
level are written, and a number of them that is no index ends everything there, whatever the forest asks for.
-/

namespace Phrasebook.KeyModule

open Outcome
open Resolver (leafTexts)

/-- What a node can be declared as. -/
inductive Role where
  | constant
  | nested
deriving DecidableEq, Repr

/-- The name that a key gives to a member. -/
def Role.name? : Role → Text → Option Text
  | .constant => Key.constantName?
  | .nested => Key.className?

/-- The members that a node asks for, in order. -/
def roles (node : Node) : List Role :=
  (if getsConstant node then [.constant] else []) ++ (if node.isBranch then [.nested] else [])

/-- The names that the key of a node gives to some members. -/
def namesOf (node : Node) (roles : List Role) : List Text := roles.filterMap (·.name? node.key)

/-- The names of the members that a node asks for. -/
def memberNames (node : Node) : List Text := namesOf node (roles node)

/-- The names of the constants and classes in the body of a class with nodes. -/
def bodyNames (nodes : List Node) : List Text := nodes.flatMap memberNames

/-- The nodes can be declared in a class at a depth. -/
structure Emittable (depth : Nat) (nodes : List Node) : Prop where
  valid : ∀ place : Place nodes, Key.isValid place.node.key
  constants : ∀ place : Place nodes, getsConstant place.node →
    (Key.constantName? place.node.key).isSome
  classes : ∀ place : Place nodes, place.node.isBranch → (Key.className? place.node.key).isSome
  distinct : (bodyNames nodes).Nodup
  innerDistinct : ∀ place : Place nodes, place.node.isBranch → (bodyNames place.node.children).Nodup
  /-- The depth and the branches on the way down to a node are not too many together. -/
  shallow : ∀ place : Place nodes, depth + place.lineage.countP Node.isBranch ≤ nestingLimit

/-! ### Faults of members -/

/-- A member that a forest asks for. -/
abbrev Slot (nodes : List Node) := Place nodes × Role

/-- The members that a forest asks for, depth first. -/
def slots (nodes : List Node) : List (Slot nodes) :=
  (Place.all nodes).flatMap fun place => (roles place.node).map (place, ·)

/-- The names that siblings before a place have taken, nearest first. In the class of the roots some
names may be taken beforehand. -/
def takenBefore (taken : List Text) {nodes : List Node} (place : Place nodes) : List Text :=
  place.gathered bodyNames taken

/-- What is wrong with a member of a node with a key path, where some names are taken, and where so many
classes stand around the members of its class, or around its own members if it is a class. -/
def memberFault? (levels : Nat) (path : Text) (taken : List Text) (node : Node) (role : Role) :
    Option Problem :=
  match if Key.isValid node.key then role.name? node.key else none with
  | none => some (.invalidIdentifier node.key path)
  | some name =>
    if role = .nested ∧ nestingLimit < levels then some (.nestingTooDeep path nestingLimit)
    else if name ∈ namesOf node ((roles node).takeWhile (· ≠ role)) ++ taken then
      some (.duplicateIdentifier name path)
    else none

/-- What is wrong with a member of a forest at a depth of classes, below a parent. -/
def Slot.fault? (depth : Nat) (parent : Option Text) (taken : List Text) {nodes : List Node}
    (slot : Slot nodes) : Option Problem :=
  memberFault? (depth + slot.1.lineage.countP Node.isBranch) (slot.1.pathBelow parent)
    (takenBefore taken slot.1) slot.1.node slot.2

section Slots

variable {node : Node} {rest : List Node} {depth : Nat} {parent : Option Text} {taken : List Text}

theorem mem_slots {nodes : List Node} {slot : Slot nodes} :
    slot ∈ slots nodes ↔ slot.2 ∈ roles slot.1.node := by
  simp only [slots, List.mem_flatMap, List.mem_map]
  constructor
  · rintro ⟨place, _, role, given, rfl⟩
    exact given
  · intro given
    exact ⟨slot.1, Place.mem_all _, slot.2, given, rfl⟩

theorem slots_nil : slots [] = [] := by
  rw [slots, Place.all]
  rfl

theorem slots_cons :
    slots (node :: rest) =
      (roles node).map (Place.first, ·) ++
        ((slots node.children).map (Prod.map Place.underFirst id) ++
          (slots rest).map (Prod.map Place.later id)) := by
  simp only [slots, Place.all_cons, List.flatMap_cons, List.flatMap_append, List.flatMap_map,
    List.map_flatMap, List.map_map, Place.node_later]
  rfl

theorem isBranch_of_place {node : Node} (place : Place node.children) : node.isBranch := by
  cases node with
  | branch key texts children => rfl
  | leaf key texts =>
    cases place with
    | root index | under index => exact index.elim0

theorem fault?_underFirst (slot : Slot node.children) :
    Slot.fault? depth parent taken
        ((Place.underFirst slot.1, slot.2) : Slot (node :: rest)) =
      slot.fault? (depth + 1) (some (KeyPath.join parent node.key)) [] := by
  have branch := isBranch_of_place slot.1
  have levels : depth + (node :: slot.1.lineage).countP Node.isBranch =
      depth + 1 + slot.1.lineage.countP Node.isBranch := by
    rw [List.countP_cons_of_pos branch]
    omega
  rw [Slot.fault?, Slot.fault?, ← levels]
  rfl

theorem fault?_later (slot : Slot rest) :
    Slot.fault? depth parent taken ((Place.later slot.1, slot.2) : Slot (node :: rest)) =
      slot.fault? depth parent (memberNames node ++ taken) := by
  rcases slot with ⟨place, role⟩
  cases place with
  | root index =>
    -- The node in front is one of the siblings before the place, so its names move to those taken beforehand.
    have before : bodyNames ((node :: rest).take (index.val + 1)).reverse ++ taken =
        bodyNames (rest.take index.val).reverse ++ (memberNames node ++ taken) := by
      simp [bodyNames]
    have same := congrArg (memberFault? (depth + [rest[index]].countP Node.isBranch)
      (KeyPath.join parent rest[index].key) · rest[index] role) before
    exact same
  | under index place => rfl

end Slots

/-! ### Members in order -/

section Members

variable {depth : Nat} {parent : Option Text} {taken : List Text} {path : Text}

theorem roles_leaf {key : Text} {texts : LocalTexts} : roles (.leaf key texts) = [.constant] := rfl

theorem roles_branch {key : Text} {texts : LocalTexts} {children : List Node} :
    roles (.branch key texts children) = if texts.isEmpty then [.nested] else [.constant, .nested] := by
  cases textless : texts.isEmpty <;>
    simp [roles, getsConstant, Node.isBranch, Node.children?, Node.hasText, Node.texts, textless]

theorem Declares.names {nodes : List Node} {members : List Member}
    (declares : Declares parent nodes members) : members.map Member.name = bodyNames nodes := by
  induction declares with
  | nil => rfl
  | leaf _ named _ others =>
    simp [bodyNames, memberNames, namesOf, roles_leaf, Role.name?, Node.key, named, Member.name, others]
  | branch _ textless named _ _ _ others =>
    simp [bodyNames, memberNames, namesOf, roles_branch, LocalTexts.isEmpty, textless, Role.name?, Node.key,
      named, Member.name, others]
  | branchWithTexts _ given constantNamed named _ _ _ others =>
    simp [bodyNames, memberNames, namesOf, roles_branch, LocalTexts.isEmpty, given, Role.name?, Node.key,
      constantNamed, named, Member.name, others]

theorem failure?_constantFor (node : Node) (levels : Nat) (gets : getsConstant node) :
    failure? (constantFor taken node.key path node.texts) =
      memberFault? levels path taken node .constant := by
  have none : (roles node).takeWhile (· ≠ .constant) = [] := by simp [roles, gets]
  unfold constantFor nameFor memberFault?
  simp only [Role.name?, none, namesOf, List.filterMap_nil, List.nil_append, reduceCtorEq, false_and,
    if_false]
  cases (if Key.isValid node.key then Key.constantName? node.key else Option.none) with
  | none => rfl
  | some name =>
    simp only [claim, List.contains_iff_mem, bind, Except.bind]
    split_ifs <;> rfl

theorem failure?_classNameFor (node : Node) :
    failure? (classNameFor (namesOf node ((roles node).takeWhile (· ≠ .nested)) ++ taken) depth node.key
        path) =
      memberFault? (depth + 1) path taken node .nested := by
  unfold classNameFor nameFor memberFault?
  simp only [Role.name?, true_and]
  cases (if Key.isValid node.key then Key.className? node.key else Option.none) with
  | none => rfl
  | some name =>
    by_cases deep : nestingLimit < depth + 1
    · simp only [if_pos deep]
      rfl
    · simp only [if_neg deep, claim, List.contains_iff_mem, bind, Except.bind]
      split_ifs <;> rfl

end Members

theorem findSome?_pair {α β : Type} (find : α → Option β) {first second : α} :
    [first, second].findSome? find = (find first).or (find second) := by
  rw [List.findSome?_cons, List.findSome?_singleton]
  cases find first <;> rfl

mutual

/-- The members made for a node fail at the first fault of what it asks for itself, or else below it. -/
theorem failure?_membersOf (depth : Nat) (parent : Option Text) (taken : List Text) (node : Node) :
    failure? (membersOf depth parent taken node) =
      ((roles node).findSome? (memberFault? (depth + [node].countP Node.isBranch)
        (KeyPath.join parent node.key) taken node)).or
        ((slots node.children).findSome?
          (Slot.fault? (depth + 1) (some (KeyPath.join parent node.key)) [])) := by
  cases node with
  | leaf key texts =>
    have constant : failure? (constantFor taken key (KeyPath.join parent key) texts) =
        memberFault? depth (KeyPath.join parent key) taken (.leaf key texts) .constant :=
      failure?_constantFor (.leaf key texts) depth rfl
    rw [membersOf, failure?_bind_pure, constant, roles_leaf, Node.children, Node.children?, Option.getD_none,
      slots_nil, List.findSome?_nil, Option.or_none, List.findSome?_singleton]
    rfl
  | branch key texts children =>
    have inner := failure?_membersOfAll (depth + 1) (some (KeyPath.join parent key)) [] children
    -- The class is at fault for its own name first and then for what is in it, whether or not a constant of
    -- the same node has taken a name before.
    have classes : ∀ constants : List Member,
        constants.map Member.name =
          namesOf (.branch key texts children)
            ((roles (.branch key texts children)).takeWhile (· ≠ .nested)) →
        failure? (do
          let name ← classNameFor (constants.map Member.name ++ taken) depth key (KeyPath.join parent key)
          let members ← membersOfAll (depth + 1) (some (KeyPath.join parent key)) [] children
          return constants ++ [Member.nested name members]) =
        (memberFault? (depth + 1) (KeyPath.join parent key) taken (.branch key texts children) .nested).or
          ((slots children).findSome? (Slot.fault? (depth + 1) (some (KeyPath.join parent key)) [])) := by
      intro constants names
      rw [names, failure?_bind fun name _ => failure?_bind_pure.trans inner]
      exact congrArg (Option.or · _) (failure?_classNameFor (.branch key texts children))
    cases textless : texts.isEmpty with
    | true =>
      rw [roles_branch, textless, if_pos rfl] at classes ⊢
      rw [List.findSome?_singleton, membersOf]
      simp only [textless, if_true]
      exact classes [] rfl
    | false =>
      rw [roles_branch, textless, if_neg Bool.false_ne_true] at classes ⊢
      have constant : failure? (constantFor taken key (KeyPath.join parent key) texts) =
          memberFault? (depth + 1) (KeyPath.join parent key) taken (.branch key texts children) .constant :=
        failure?_constantFor (.branch key texts children) (depth + 1)
          (by simp [getsConstant, Node.hasText, Node.texts, textless])
      have names : ∀ member, constantFor taken key (KeyPath.join parent key) texts = .ok member →
          [member].map Member.name = namesOf (.branch key texts children) [.constant] := by
        intro member made
        rcases constantFor_eq_ok.mp made with ⟨name, _, named, _, rfl⟩
        simp [namesOf, Role.name?, Node.key, named, Member.name]
      rw [membersOf]
      simp only [textless, Bool.false_eq_true, if_false]
      refine (failure?_bind fun member made => classes [member] (names member made)).trans ?_
      rw [constant, ← Option.or_assoc]
      exact congrArg (Option.or · _) (findSome?_pair _).symm

/-- The members made for nodes fail at the first fault in them. -/
theorem failure?_membersOfAll (depth : Nat) (parent : Option Text) (taken : List Text) (nodes : List Node) :
    failure? (membersOfAll depth parent taken nodes) =
      (slots nodes).findSome? (Slot.fault? depth parent taken) := by
  cases nodes with
  | nil =>
    rw [slots_nil]
    rfl
  | cons node rest =>
    have after : ∀ members, membersOf depth parent taken node = .ok members →
        failure? (do
          return members ++ (← membersOfAll depth parent (members.map Member.name ++ taken) rest)) =
          (slots rest).findSome? (Slot.fault? depth parent (memberNames node ++ taken)) := by
      intro members made
      have names := (declared_of_membersOf node made).declares.names
      rw [failure?_bind_pure, failure?_membersOfAll depth parent _ rest, names]
      simp [bodyNames]
    rw [membersOfAll, failure?_bind after, failure?_membersOf depth parent taken node, slots_cons,
      List.findSome?_append, List.findSome?_append, List.findSome?_map, List.findSome?_map,
      List.findSome?_map, Option.or_assoc]
    congr 1
    congr 1
    · congr 1
      funext slot
      exact (fault?_underFirst slot).symm
    · congr 1
      funext slot
      exact (fault?_later slot).symm

end

/-! ### Forests without faults -/

theorem memberFault?_eq_none {levels : Nat} {path : Text} {taken : List Text} {node : Node} {role : Role} :
    memberFault? levels path taken node role = none ↔
      Key.isValid node.key ∧ ∃ name, role.name? node.key = some name ∧
        (role = .nested → levels ≤ nestingLimit) ∧
          name ∉ namesOf node ((roles node).takeWhile (· ≠ role)) ++ taken := by
  unfold memberFault?
  cases Key.isValid node.key with
  | false => simp
  | true =>
    cases role.name? node.key with
    | none => simp
    | some name =>
      simp only [if_true, true_and, Option.some.injEq, exists_eq_left']
      split_ifs with deep clash
      · simpa using fun shallow => absurd deep.2 (Nat.not_lt.mpr (shallow deep.1))
      · simp only [false_iff, not_and, not_not]
        exact fun _ => clash
      · have shallow : role = .nested → levels ≤ nestingLimit :=
          fun isNested => Nat.not_lt.mp fun deeper => deep ⟨isNested, deeper⟩
        simp only [true_iff]
        exact ⟨shallow, clash⟩

theorem nodup_memberNames {node : Node} :
    (memberNames node).Nodup ↔ ∀ role ∈ roles node, ∀ name ∈ role.name? node.key,
      name ∉ namesOf node ((roles node).takeWhile (· ≠ role)) := by
  have shapes : roles node = [.constant] ∨ roles node = [.nested] ∨ roles node = [.constant, .nested] := by
    cases node with
    | leaf key texts => exact Or.inl rfl
    | branch key texts children =>
      rw [roles_branch]
      split_ifs <;> simp
  rw [memberNames]
  rcases shapes with shape | shape | shape
  · cases constant : Key.constantName? node.key <;> simp [shape, namesOf, Role.name?, constant]
  · cases nested : Key.className? node.key <;> simp [shape, namesOf, Role.name?, nested]
  · cases constant : Key.constantName? node.key <;> cases nested : Key.className? node.key <;>
      simp [shape, namesOf, Role.name?, constant, nested]

theorem mem_memberNames {node : Node} {name : Text} :
    name ∈ memberNames node ↔ ∃ role ∈ roles node, role.name? node.key = some name :=
  List.mem_filterMap

theorem mem_takenBefore_root {nodes : List Node} {index : Fin nodes.length} {name : Text} :
    name ∈ takenBefore [] (.root index) ↔ ∃ earlier < index, name ∈ memberNames (nodes.get earlier) := by
  simp only [takenBefore, Place.gathered, bodyNames, List.append_nil, List.mem_flatMap, List.mem_reverse,
    List.mem_take_iff_getElem]
  constructor
  · rintro ⟨_, ⟨earlier, before, rfl⟩, given⟩
    exact ⟨⟨earlier, by omega⟩, by simp only [Fin.lt_def]; omega, given⟩
  · rintro ⟨earlier, before, given⟩
    exact ⟨_, ⟨earlier, by simp only [Fin.lt_def] at before; omega, rfl⟩, given⟩

theorem nodup_bodyNames {nodes : List Node} :
    (bodyNames nodes).Nodup ↔ ∀ index : Fin nodes.length, ∀ role ∈ roles (nodes.get index),
      ∀ name ∈ role.name? (nodes.get index).key,
        name ∉ namesOf (nodes.get index) ((roles (nodes.get index)).takeWhile (· ≠ role)) ++
          takenBefore [] (.root index) := by
  simp only [List.mem_append, not_or]
  rw [bodyNames, List.nodup_flatMap, List.pairwise_iff_getElem]
  constructor
  · rintro ⟨alone, apart⟩ index role asked name named
    refine ⟨nodup_memberNames.mp (alone _ (List.getElem_mem _)) role asked name named, ?_⟩
    rw [mem_takenBefore_root]
    rintro ⟨earlier, before, given⟩
    exact apart earlier index earlier.isLt index.isLt before given (mem_memberNames.mpr ⟨role, asked, named⟩)
  · intro fresh
    constructor
    · intro node isNode
      rcases List.getElem_of_mem isNode with ⟨index, bound, rfl⟩
      exact nodup_memberNames.mpr fun role asked name named =>
        (fresh ⟨index, bound⟩ role asked name named).1
    · intro first second firstBound secondBound before name inFirst inSecond
      rcases mem_memberNames.mp inSecond with ⟨role, asked, named⟩
      refine (fresh ⟨second, secondBound⟩ role asked name named).2 (mem_takenBefore_root.mpr ?_)
      exact ⟨⟨first, firstBound⟩, before, inFirst⟩

/-- No member of a forest is at fault for its name being taken. -/
def Fresh (nodes : List Node) : Prop :=
  ∀ place : Place nodes, ∀ role ∈ roles place.node, ∀ name ∈ role.name? place.node.key,
    name ∉ namesOf place.node ((roles place.node).takeWhile (· ≠ role)) ++ takenBefore [] place

/-- The names in every body are distinct if no member takes a name that is taken. -/
theorem fresh_iff {nodes : List Node} :
    Fresh nodes ↔ (bodyNames nodes).Nodup ∧ ∀ place : Place nodes, (bodyNames place.node.children).Nodup := by
  constructor
  · intro fresh
    refine ⟨nodup_bodyNames.mpr fun index => fresh (.root index), fun place => ?_⟩
    induction place with
    | root index => exact nodup_bodyNames.mpr fun below => fresh (.under index (.root below))
    | under index place ih => exact ih fun below => fresh (.under index below)
  · rintro ⟨distinct, inner⟩ place
    induction place with
    | root index => exact nodup_bodyNames.mp distinct index
    | under index place ih => exact ih (inner (.root index)) fun below => inner (.under index below)

/-- If no branch is past a limit, then no node is. -/
theorem shallow_of_branches {nodes : List Node} {depth limit : Nat} (around : depth ≤ limit)
    (branches : ∀ place : Place nodes, place.node.isBranch →
      depth + place.lineage.countP Node.isBranch ≤ limit) (place : Place nodes) :
    depth + place.lineage.countP Node.isBranch ≤ limit := by
  induction place generalizing depth with
  | @root nodes index =>
    -- A leaf is in no more classes than there are around the forest.
    by_cases branch : nodes[index].isBranch
    · exact branches (.root index) branch
    · rw [Place.lineage, List.countP_singleton, if_neg branch]
      exact around
  | @under nodes index place ih =>
    have branch := isBranch_of_place place
    have deeper : ∀ chain : List Node, depth + (nodes[index] :: chain).countP Node.isBranch =
        depth + 1 + chain.countP Node.isBranch := by
      intro chain
      rw [List.countP_cons_of_pos branch]
      omega
    rw [Place.lineage, deeper]
    apply ih
    · have here := branches (.root index) branch
      rwa [Place.lineage, deeper] at here
    · intro below isBranch
      have there := branches (.under index below) isBranch
      rwa [Place.lineage, deeper] at there

theorem mem_roles {node : Node} {role : Role} :
    role ∈ roles node ↔ (role = .constant ∧ getsConstant node) ∨ (role = .nested ∧ node.isBranch) := by
  cases role <;> cases gets : getsConstant node <;> cases branch : node.isBranch <;>
    simp [roles, gets, branch]

/-- No member of a forest is at fault. -/
def Faultless (depth : Nat) (nodes : List Node) : Prop :=
  ∀ slot ∈ slots nodes, slot.fault? depth none [] = none

theorem Faultless.fault? {nodes : List Node} {depth : Nat} (faultless : Faultless depth nodes)
    {place : Place nodes} {role : Role} (asked : role ∈ roles place.node) :
    Key.isValid place.node.key ∧ ∃ name, role.name? place.node.key = some name ∧
      (role = .nested → depth + place.lineage.countP Node.isBranch ≤ nestingLimit) ∧
        name ∉ namesOf place.node ((roles place.node).takeWhile (· ≠ role)) ++ takenBefore [] place :=
  memberFault?_eq_none.mp (faultless (place, role) (mem_slots.mpr asked))

theorem Faultless.fresh {nodes : List Node} {depth : Nat} (faultless : Faultless depth nodes) :
    Fresh nodes := by
  intro place role asked name named
  rcases faultless.fault? asked with ⟨_, other, isOther, _, free⟩
  cases isOther.symm.trans named
  exact free

theorem Emittable.faultless {nodes : List Node} {depth : Nat} (emittable : Emittable depth nodes) :
    Faultless depth nodes := by
  rintro ⟨place, role⟩ member
  have asked : role ∈ roles place.node := mem_slots.mp member
  have inner : ∀ place : Place nodes, (bodyNames place.node.children).Nodup := by
    intro place
    by_cases branch : place.node.isBranch
    · exact emittable.innerDistinct place branch
    · cases node : place.node with
      | leaf key texts => exact List.nodup_nil
      | branch key texts children => simp [node, Node.isBranch, Node.children?] at branch
  have named : (role.name? place.node.key).isSome := by
    rcases mem_roles.mp asked with ⟨rfl, gets⟩ | ⟨rfl, branch⟩
    · exact emittable.constants place gets
    · exact emittable.classes place branch
  rcases Option.isSome_iff_exists.mp named with ⟨name, named⟩
  refine memberFault?_eq_none.mpr ⟨emittable.valid place, name, named, fun _ => emittable.shallow place, ?_⟩
  exact fresh_iff.mpr ⟨emittable.distinct, inner⟩ place role asked name named

theorem Faultless.emittable {nodes : List Node} {depth : Nat} (around : depth ≤ nestingLimit)
    (faultless : Faultless depth nodes) : Emittable depth nodes := by
  rcases fresh_iff.mp faultless.fresh with ⟨distinct, inner⟩
  have constant : ∀ place : Place nodes, getsConstant place.node → .constant ∈ roles place.node :=
    fun place gets => mem_roles.mpr (Or.inl ⟨rfl, gets⟩)
  have nested : ∀ place : Place nodes, place.node.isBranch → .nested ∈ roles place.node :=
    fun place branch => mem_roles.mpr (Or.inr ⟨rfl, branch⟩)
  refine ⟨?valid, ?constants, ?classes, distinct, fun place _ => inner place, ?shallow⟩
  case valid =>
    intro place
    by_cases branch : place.node.isBranch
    · exact (faultless.fault? (nested place branch)).1
    · exact (faultless.fault? (constant place (by simp [getsConstant, branch]))).1
  case constants =>
    intro place gets
    rcases faultless.fault? (constant place gets) with ⟨_, name, named, _⟩
    exact Option.isSome_iff_exists.mpr ⟨name, named⟩
  case classes =>
    intro place branch
    rcases faultless.fault? (nested place branch) with ⟨_, name, named, _⟩
    exact Option.isSome_iff_exists.mpr ⟨name, named⟩
  case shallow =>
    refine shallow_of_branches around fun place branch => ?_
    rcases faultless.fault? (nested place branch) with ⟨_, _, _, bounded, _⟩
    exact bounded rfl

/-! ### Emission -/

theorem Options.around_of_make {namespacePath : Option Text} {indentWidth : Int} {rootClass : Text}
    {options : Options} (made : Options.make namespacePath indentWidth rootClass = .ok options) :
    options.namespaces.length + 1 ≤ nestingLimit := by
  unfold Options.make at made
  extract_lets namespaces shown at made
  split at made
  · cases made
  · split at made
    · cases made
    · split at made
      · cases made
      · cases made
        simp only
        omega

/-- A key module is emitted exactly if the forest of a tree can be declared and the number of blanks for a
level is an index. With such a number, the first fault, depth first, is the problem that is reported, and with
another one the count is too large for every forest. No line of a module is indented deeper than the limit. -/
theorem emit_iff_emittable {namespacePath : Option Text} {indentWidth : Int} {rootClass : Text}
    {options : Options} (accepted : Options.make namespacePath indentWidth rootClass = .ok options)
    (tree : Tree) :
    ((∃ text, (emit options tree).result = .ok text) ↔
      options.indentWidth < indexLimit ∧ Emittable (options.namespaces.length + 1) tree.roots) ∧
    (∀ failure, (emit options tree).result = .error failure ↔
      (indexLimit ≤ options.indentWidth ∧ failure = .countTooLarge) ∨
      (options.indentWidth < indexLimit ∧
        ∃ problem, (slots tree.roots).findSome? (Slot.fault? (options.namespaces.length + 1) none []) =
          some problem ∧ failure = .problem problem)) ∧
    ∀ text, (emit options tree).result = .ok text →
      ∃ members, text = Text.joinWith "\n" (moduleLines options tree.sourceHash members) ++ "\n" ∧
        ∀ line ∈ moduleLines options tree.sourceHash members,
          leadingBlanks line ≤ options.indentWidth * nestingLimit := by
  have around := Options.around_of_make accepted
  have faults := failure?_membersOfAll (options.namespaces.length + 1) none [] tree.roots
  refine ⟨?emitted, ?refused, ?indented⟩
  case emitted =>
    have faultless : Faultless (options.namespaces.length + 1) tree.roots ↔
        ∃ members, membersOfAll (options.namespaces.length + 1) none [] tree.roots = .ok members := by
      rw [Faultless, ← List.findSome?_eq_none_iff, ← faults, failure?_eq_none]
    constructor
    · rintro ⟨text, emitted⟩
      rcases emit_eq_ok.mp emitted with ⟨isIndex, members, made, _⟩
      exact ⟨isIndex, (faultless.mpr ⟨members, made⟩).emittable around⟩
    · rintro ⟨isIndex, emittable⟩
      rcases faultless.mp emittable.faultless with ⟨members, made⟩
      exact ⟨_, emit_eq_ok.mpr ⟨isIndex, members, made, rfl⟩⟩
  case refused =>
    intro failure
    rw [emit_eq_error, ← faults]
    simp only [failure?_eq_some]
    split
    · rename_i tooLarge
      simp [tooLarge]
    · rename_i small
      simp [small, Nat.lt_of_not_le small]
  case indented =>
    intro text emitted
    rcases emit_eq_ok.mp emitted with ⟨_, members, made, rfl⟩
    exact ⟨members, rfl, leadingBlanks_moduleLines around made⟩

/-! Two keys below one branch that give the same name. -/

/-- A tree with these keys. -/
def clashingTree : Tree :=
  ⟨[.branch "menu" .empty [.leaf "a-b" (leafTexts "Yes"), .leaf "a.b" (leafTexts "No")]], ["en"], "0", []⟩

theorem emit_iff_emittable_clashing :
    ¬Emittable 1 clashingTree.roots ∧
      (slots clashingTree.roots).findSome? (Slot.fault? 1 none []) =
        some (.duplicateIdentifier "a_b" "menu.a.b") := by
  have accepted : Options.make none 4 defaultRootClass = .ok plainOptions := by decide +kernel
  have refused : (emit plainOptions clashingTree).result =
      .error (.problem (.duplicateIdentifier "a_b" "menu.a.b")) := by
    decide +kernel
  rcases emit_iff_emittable accepted clashingTree with ⟨emitted, refusals, -⟩
  constructor
  · intro emittable
    rcases emitted.mpr ⟨by decide, emittable⟩ with ⟨text, answered⟩
    cases refused.symm.trans answered
  · rcases (refusals _).mp refused with ⟨_, same⟩ | ⟨_, problem, found, same⟩
    · cases same
    · cases same
      exact found

/-- An indentation of more blanks than an index can count is accepted. Then there is no key module for a tree
without nodes, and for the tree with these keys the problem that is reported is not that of its first fault. -/
theorem wide_indentation_overflows :
    ∃ options, Options.make none indexLimit defaultRootClass = .ok options ∧
      (emit options clashingTree).result = .error .countTooLarge ∧
      ¬∀ tree, (∃ text, (emit options tree).result = .ok text) ↔
        Emittable (options.namespaces.length + 1) tree.roots := by
  refine ⟨⟨[], indexLimit, defaultRootClass⟩, by decide +kernel, ?_, fun claimed => ?_⟩
  · rw [emit_eq_error, if_pos (by decide)]
  have faultless : Faultless 1 [] := by
    rw [Faultless, slots_nil]
    exact List.forall_mem_nil _
  have emittable := faultless.emittable (by decide)
  rcases (claimed ⟨[], ["en"], "0", []⟩).mpr emittable with ⟨text, emitted⟩
  exact absurd (emit_eq_ok.mp emitted).1 (by decide)

end Phrasebook.KeyModule
