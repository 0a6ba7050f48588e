import Mathlib.Logic.Function.Basic
import Phrasebook.Proofs.KeyModule.Emittable
import Phrasebook.Proofs.KeyModule.RoundTrip

/-!
# Attributes of classes

When a key module runs, the members of a class are bound one after another. The language of key modules
compares identifiers in a normal form, which here may be any function on texts: a member is bound under the
normal form of its name, in place of what was bound there before. The names in a class are distinct as they
are written, but two of them may have one normal form, and then the class has only the later member. So every
member is left in its class exactly if the names that the keys give have distinct normal forms in each class.
-/

namespace Phrasebook.KeyModule

open Resolver (leafTexts)

/-- What is found in a class under a name in normal form. -/
abbrev Attributes := Text → Option Member

/-- The attributes after a member is bound. -/
def bindMember (normalForm : Text → Text) (attributes : Attributes) (member : Member) : Attributes :=
  Function.update attributes (normalForm member.name) (some member)

/-- The attributes of a class after all its members are bound in order. -/
def attributesOf (normalForm : Text → Text) (members : List Member) : Attributes :=
  members.foldl (bindMember normalForm) fun _ => none

/-- Each member of a class is found under its name, and so are those of the classes in it. -/
inductive Intact (normalForm : Text → Text) : List Member → Prop where
  | intro {members : List Member}
      (found : ∀ member ∈ members,
        attributesOf normalForm members (normalForm member.name) = some member)
      (inner : ∀ name nested, .nested name nested ∈ members → Intact normalForm nested) :
      Intact normalForm members

/-- Different names among some have different normal forms. -/
def HaveDistinctForms (normalForm : Text → Text) (names : List Text) : Prop :=
  ∀ first ∈ names, ∀ second ∈ names, normalForm first = normalForm second → first = second

/-- Different names in the body of the class for some nodes have different normal forms, and so have those in
the bodies of the classes for the branches below. -/
structure DistinctForms (normalForm : Text → Text) (nodes : List Node) : Prop where
  here : HaveDistinctForms normalForm (bodyNames nodes)
  below : ∀ place : Place nodes, HaveDistinctForms normalForm (bodyNames place.node.children)

variable {normalForm : Text → Text} {members : List Member} {member : Member} {name : Text}

/-! ### Binding -/

theorem foldl_bindMember_of_forall_ne {attributes : Attributes}
    (apart : ∀ member ∈ members, normalForm member.name ≠ name) :
    members.foldl (bindMember normalForm) attributes name = attributes name := by
  induction members generalizing attributes with
  | nil => rfl
  | cons first rest ih =>
    rw [List.forall_mem_cons] at apart
    rw [List.foldl_cons, ih apart.2]
    exact Function.update_of_ne apart.1.symm _ _

/-- A member is left under its name if no later one has a name with the same normal form. -/
theorem attributesOf_append_cons {before after : List Member}
    (last : ∀ later ∈ after, normalForm later.name ≠ normalForm member.name) :
    attributesOf normalForm (before ++ member :: after) (normalForm member.name) = some member := by
  rw [attributesOf, List.foldl_append, List.foldl_cons, foldl_bindMember_of_forall_ne last]
  exact Function.update_self _ _ _

/-- In a class with distinct names every member is left exactly if the normal forms are distinct too. -/
theorem forall_found_iff (distinct : (members.map Member.name).Nodup) :
    (∀ member ∈ members, attributesOf normalForm members (normalForm member.name) = some member) ↔
      HaveDistinctForms normalForm (members.map Member.name) := by
  simp only [HaveDistinctForms, List.forall_mem_map]
  constructor
  · intro found first isFirst second isSecond same
    have there := found first isFirst
    rw [same, found second isSecond] at there
    rw [Option.some.inj there]
  · intro forms member given
    rcases List.append_of_mem given with ⟨before, after, rfl⟩
    apply attributesOf_append_cons
    intro later isLater same
    have sameName := forms later (by simp [isLater]) member given same
    rw [List.map_append, List.map_cons, List.nodup_append] at distinct
    have fresh := (List.nodup_cons.mp distinct.2.1).1
    exact fresh (List.mem_map.mpr ⟨later, isLater, sameName⟩)

/-! ### Classes in classes -/

theorem intact_iff : Intact normalForm members ↔
    (∀ member ∈ members, attributesOf normalForm members (normalForm member.name) = some member) ∧
      ∀ name nested, .nested name nested ∈ members → Intact normalForm nested := by
  constructor
  · rintro ⟨found, inner⟩
    exact ⟨found, inner⟩
  · rintro ⟨found, inner⟩
    exact ⟨found, inner⟩

theorem WellNamed.intact_iff (named : WellNamed members) :
    Intact normalForm members ↔ HaveDistinctForms normalForm (members.map Member.name) ∧
      ∀ name nested, .nested name nested ∈ members → Intact normalForm nested := by
  rcases named with ⟨distinct, _, _⟩
  rw [KeyModule.intact_iff, forall_found_iff distinct]

theorem intact_enclose (names : List Text) :
    Intact normalForm (enclose members names) ↔ Intact normalForm members := by
  induction names with
  | nil => rfl
  | cons name rest ih =>
    have alone := @attributesOf_append_cons normalForm (.nested name (enclose members rest)) [] [] (by simp)
    rw [enclose, KeyModule.intact_iff, ← ih]
    simpa using fun _ => alone

theorem forall_node_cons {node : Node} {rest : List Node} {holds : Node → Prop} :
    (∀ place : Place (node :: rest), holds place.node) ↔
      holds node ∧ (∀ place : Place node.children, holds place.node) ∧
        ∀ place : Place rest, holds place.node := by
  have listed : ∀ nodes : List Node,
      (∀ place : Place nodes, holds place.node) ↔ ∀ place ∈ Place.all nodes, holds place.node :=
    fun nodes => ⟨fun all place _ => all place, fun all place => all place (Place.mem_all place)⟩
  rw [listed, Place.all_cons, List.forall_mem_cons, List.forall_mem_append, List.forall_mem_map,
    List.forall_mem_map, listed, listed]
  simp only [Place.node_later]
  rfl

theorem distinctForms_iff {nodes : List Node} : DistinctForms normalForm nodes ↔
    HaveDistinctForms normalForm (bodyNames nodes) ∧
      ∀ place : Place nodes, HaveDistinctForms normalForm (bodyNames place.node.children) :=
  ⟨fun ⟨here, below⟩ => ⟨here, below⟩, fun ⟨here, below⟩ => ⟨here, below⟩⟩

theorem WellNamed.inner (named : WellNamed members) {nested : List Member}
    (given : .nested name nested ∈ members) : WellNamed nested := by
  rcases named with ⟨_, _, inner⟩
  exact inner name nested given

/-- The bodies below a node are that of its own class and those below its children. -/
theorem below_cons_iff {node : Node} {rest : List Node} :
    (∀ place : Place (node :: rest), HaveDistinctForms normalForm (bodyNames place.node.children)) ↔
      DistinctForms normalForm node.children ∧
        ∀ place : Place rest, HaveDistinctForms normalForm (bodyNames place.node.children) := by
  rw [@forall_node_cons node rest fun node => HaveDistinctForms normalForm (bodyNames node.children), ← and_assoc]
  exact and_congr_left fun _ => distinctForms_iff.symm

theorem distinctForms_nil : DistinctForms normalForm [] := by
  refine ⟨by simp [HaveDistinctForms, bodyNames], fun place => ?_⟩
  cases place with
  | root index | under index place => exact index.elim0

theorem forall_nested_cons {holds : List Member → Prop} {body : List Member} :
    (∀ other nested, .nested other nested ∈ Member.nested name body :: members → holds nested) ↔
      holds body ∧ ∀ other nested, .nested other nested ∈ members → holds nested := by
  simp [or_imp, forall_and]

theorem forall_nested_constant {holds : List Member → Prop} {keyPath : Text} {texts : List (Text × Text)} :
    (∀ other nested, .nested other nested ∈ Member.constant name keyPath texts :: members → holds nested) ↔
      ∀ other nested, .nested other nested ∈ members → holds nested := by
  simp

/-- A class that declares nodes is intact if its own body is, and the classes in it. -/
theorem Declares.intact_of_inner {parent : Option Text} {nodes : List Node}
    (declares : Declares parent nodes members) (named : WellNamed members)
    (inner : (∀ name nested, .nested name nested ∈ members → Intact normalForm nested) ↔
      ∀ place : Place nodes, HaveDistinctForms normalForm (bodyNames place.node.children)) :
    Intact normalForm members ↔ DistinctForms normalForm nodes := by
  rw [named.intact_iff, declares.names, inner, distinctForms_iff]

/-- The classes in members that declare nodes are intact exactly if the normal forms are distinct in each of
their bodies. -/
theorem Declares.forall_nested_intact {parent : Option Text} {nodes : List Node}
    (declares : Declares parent nodes members)
    (named : ∀ name nested, .nested name nested ∈ members → WellNamed nested) :
    (∀ name nested, .nested name nested ∈ members → Intact normalForm nested) ↔
      ∀ place : Place nodes, HaveDistinctForms normalForm (bodyNames place.node.children) := by
  induction declares with
  | nil => simpa using distinctForms_nil.below
  | leaf _ _ _ ih =>
    rw [forall_nested_constant] at named ⊢
    rw [below_cons_iff]
    exact (ih named).trans (and_iff_right distinctForms_nil).symm
  | branch _ _ _ inner _ ihInner ih =>
    rw [forall_nested_cons] at named ⊢
    rw [below_cons_iff]
    exact and_congr (inner.intact_of_inner named.1 (ihInner fun _ _ => named.1.inner)) (ih named.2)
  | branchWithTexts _ _ _ _ inner _ ihInner ih =>
    rw [forall_nested_constant, forall_nested_cons] at named ⊢
    rw [below_cons_iff]
    exact and_congr (inner.intact_of_inner named.1 (ihInner fun _ _ => named.1.inner)) (ih named.2)

theorem Declares.intact_iff {parent : Option Text} {nodes : List Node}
    (declares : Declares parent nodes members) (named : WellNamed members) :
    Intact normalForm members ↔ DistinctForms normalForm nodes :=
  declares.intact_of_inner named (declares.forall_nested_intact fun _ _ => named.inner)

/-! ### Emitted modules -/

theorem forall_mem_of_places {nodes : List Node} {holds : Node → Prop}
    (all : ∀ place : Place nodes, holds place.node) : ∀ node ∈ nodes, holds node := by
  intro node member
  rcases List.getElem_of_mem member with ⟨index, bound, rfl⟩
  exact all (.root ⟨index, bound⟩)

/-- The children of a node in a forest are nodes in it. -/
theorem forall_mem_children_of_places {nodes : List Node} {holds : Node → Prop}
    (all : ∀ place : Place nodes, holds place.node) (place : Place nodes) :
    ∀ child ∈ place.node.children, holds child := by
  induction place with
  | root index => exact forall_mem_of_places fun below => all (.under index below)
  | under index place ih => exact ih fun below => all (.under index below)

/-- Names that are their own normal forms have different normal forms if they are different. -/
theorem distinctForms_of_normal {nodes : List Node}
    (normal : ∀ place : Place nodes, ∀ name ∈ memberNames place.node, normalForm name = name) :
    DistinctForms normalForm nodes := by
  have body : ∀ {siblings : List Node},
      (∀ node ∈ siblings, ∀ name ∈ memberNames node, normalForm name = name) →
      HaveDistinctForms normalForm (bodyNames siblings) := by
    intro siblings own first isFirst second isSecond same
    rcases List.mem_flatMap.mp isFirst with ⟨node, member, listed⟩
    rcases List.mem_flatMap.mp isSecond with ⟨other, isOther, listedOther⟩
    rwa [own node member first listed, own other isOther second listedOther] at same
  exact ⟨body (forall_mem_of_places normal), fun place => body (forall_mem_children_of_places normal place)⟩

/-- The members of an emitted module have distinct names in each class as they are written. When the module
runs, each of them is found in its class under the normal form of its name exactly if different names that the
keys give in one class have different normal forms. This is so if the names are their own normal forms. -/
theorem intact_unless_forms_clash (normalForm : Text → Text) {options : Options} {tree : Tree} {text : Text}
    (emitted : (emit options tree).result = .ok text) :
    ∃ members,
      membersOfAll (options.namespaces.length + 1) none [] tree.roots = .ok members ∧
      text = Text.joinWith "\n" (moduleLines options tree.sourceHash members) ++ "\n" ∧
      WellNamed members ∧
      (Intact normalForm (enclose members (options.namespaces ++ [options.rootClass])) ↔
        DistinctForms normalForm tree.roots) ∧
      ((∀ place : Place tree.roots, ∀ name ∈ memberNames place.node, normalForm name = name) →
        Intact normalForm (enclose members (options.namespaces ++ [options.rootClass]))) := by
  rcases emit_eq_ok.mp emitted with ⟨_, members, made, written⟩
  have declared := declared_of_membersOfAll _ made
  have exactly : Intact normalForm (enclose members (options.namespaces ++ [options.rootClass])) ↔
      DistinctForms normalForm tree.roots := by
    rw [intact_enclose, declared.declares.intact_iff declared.named]
  exact ⟨members, made, written, declared.named, exactly,
    fun normal => exactly.mpr (distinctForms_of_normal normal)⟩

/-! A form that makes no difference between an ASCII character and its wide form, and trees with a key in wide
characters. -/

/-- Writes the ASCII character for each wide form of one. This is the normal form of a text of ASCII
characters and of their wide forms. -/
def narrow (text : Text) : Text :=
  text.map fun
    | .scalar char =>
      .scalar (if 0xFF01 ≤ char.toNat ∧ char.toNat ≤ 0xFF5E then Char.ofNat (char.toNat - 0xFEE0) else char)
    | .surrogate offset => .surrogate offset

/-- A tree with two leaves. -/
def pairTree (first second : Text) : Tree :=
  ⟨[.leaf first (leafTexts "Yes"), .leaf second (leafTexts "No")], ["ja", "en"], "0", []⟩

theorem intact_unless_forms_clash_wide :
    ∃ members, membersOfAll 1 none [] (pairTree "a" "ｂ").roots = .ok members ∧
      Intact narrow (enclose members [defaultRootClass]) := by
  have succeeds : (emit plainOptions (pairTree "a" "ｂ")).result.toOption.isSome := by decide +kernel
  have here : HaveDistinctForms narrow (bodyNames (pairTree "a" "ｂ").roots) := by
    unfold HaveDistinctForms
    decide +kernel
  have forms : DistinctForms narrow (pairTree "a" "ｂ").roots :=
    ⟨here, below_cons_iff.mpr ⟨distinctForms_nil, below_cons_iff.mpr ⟨distinctForms_nil,
      distinctForms_nil.below⟩⟩⟩
  cases emitted : (emit plainOptions (pairTree "a" "ｂ")).result with
  | error failure => simp [emitted, Except.toOption] at succeeds
  | ok text =>
    rcases intact_unless_forms_clash narrow emitted with ⟨members, made, _, _, exactly, _⟩
    exact ⟨members, made, exactly.mpr forms⟩

/-- A module is emitted for two keys that differ in nothing but the width of a character. Their constants have
different names with one normal form, and the second takes the place of the first. -/
theorem wide_constant_replaces :
    ∃ first second,
      membersOfAll 1 none [] (pairTree "a" "ａ").roots = .ok [first, second] ∧
      first.name = "a" ∧ second.name = "ａ" ∧
      attributesOf narrow [first, second] "a" = some second ∧
      ¬∀ options tree text members, (emit options tree).result = .ok text →
        membersOfAll (options.namespaces.length + 1) none [] tree.roots = .ok members →
        Intact narrow (enclose members (options.namespaces ++ [options.rootClass])) := by
  let first : Member := .constant "a" "a" (leafTexts "Yes").entries
  let second : Member := .constant "ａ" "ａ" (leafTexts "No").entries
  have firstMade : constantFor [] "a" "a" (leafTexts "Yes") = .ok first :=
    constantFor_eq_ok.mpr ⟨"a", by decide +kernel, by decide +kernel, by simp, rfl⟩
  have secondMade : constantFor ["a"] "ａ" "ａ" (leafTexts "No") = .ok second :=
    constantFor_eq_ok.mpr ⟨"ａ", by decide +kernel, by decide +kernel, by decide +kernel, rfl⟩
  have made : membersOfAll 1 none [] (pairTree "a" "ａ").roots = .ok [first, second] := by
    simp only [pairTree, membersOfAll, membersOf, KeyPath.join, firstMade, bind, Except.bind, pure,
      Except.pure, List.map_cons, List.map_nil, List.append_nil]
    rw [show first.name = "a" from rfl, secondMade]
    rfl
  have ownForm : narrow "a" = "a" := by decide +kernel
  have wideForm : narrow "ａ" = "a" := by decide +kernel
  have left : attributesOf narrow [first, second] "a" = some second := by
    rw [← wideForm]
    exact @attributesOf_append_cons narrow second [first] [] (by simp)
  refine ⟨first, second, made, rfl, rfl, left, fun claimed => ?_⟩
  have intact := claimed plainOptions _ _ _ (emit_eq_ok.mpr ⟨by decide, _, made, rfl⟩) made
  rw [intact_enclose, intact_iff] at intact
  have found : attributesOf narrow [first, second] (narrow "a") = some first :=
    intact.1 first List.mem_cons_self
  rw [ownForm, left, Option.some.injEq] at found
  have names : second.name = first.name := congrArg Member.name found
  revert names
  decide +kernel

end Phrasebook.KeyModule
