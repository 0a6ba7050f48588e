import Phrasebook.Proofs.Document.Warnings
import Phrasebook.Proofs.Key.TitleCase
import Phrasebook.Proofs.KeyModule.Emittable

/-!
# Keys whose constant and class clash

A branch with texts asks for a constant and for a class in one body. If both have one name then no key
module is made, whatever else the body holds. This happens for the keys that are their own title case,
which are those that a warning was given about when the document was read.
-/

namespace Phrasebook.KeyModule

open Document Outcome
open Resolver (leafTexts leafFields)

/-! ### Paths below a node -/

theorem length_lt_length_join {path key : Text} (given : path ≠ []) :
    path.length < (KeyPath.join (some path) key).length := by
  cases path with
  | nil => exact absurd rfl given
  | cons point rest => simp [KeyPath.join]

theorem length_lt_length_pathBelow {path : Text} {nodes : List Node} (given : path ≠ []) (place : Place nodes) :
    path.length < (place.pathBelow (some path)).length := by
  induction place generalizing path with
  | root index => exact length_lt_length_join given
  | @under nodes index place ih =>
    have longer : path.length < (KeyPath.join (some path) nodes[index].key).length :=
      length_lt_length_join given
    have nonempty : KeyPath.join (some path) nodes[index].key ≠ [] := by
      rw [← List.length_pos_iff]
      omega
    exact longer.trans (ih nonempty)

theorem memberFault?_ne_duplicate {levels : Nat} {path otherPath name : Text} {taken : List Text}
    {node : Node} {role : Role} (other : path ≠ otherPath) :
    memberFault? levels path taken node role ≠ some (.duplicateIdentifier name otherPath) := by
  unfold memberFault?
  split
  · simp
  · split_ifs <;> simp [other]

/-- No member below a node is at fault at the key path of the node. -/
theorem findSome?_slots_ne_duplicate {path : Text} (given : path ≠ []) (depth : Nat) (taken : List Text)
    (nodes : List Node) (name : Text) :
    (slots nodes).findSome? (Slot.fault? depth (some path) taken) ≠
      some (.duplicateIdentifier name path) := by
  intro found
  rcases List.exists_of_findSome?_eq_some found with ⟨slot, _, fault⟩
  have longer := length_lt_length_pathBelow given slot.1
  exact memberFault?_ne_duplicate (fun same => by rw [same] at longer; omega) fault

/-! ### Constants and classes of one node -/

section Clash

variable {key constant className path : Text} {levels depth : Nat} {parent : Option Text} {taken : List Text}
  {texts : LocalTexts} {children : List Node}

/-- A class is at fault for its name exactly if the constant before it has that name. -/
theorem memberFault?_nested_eq_duplicate (valid : Key.isValid key)
    (isConstant : Key.constantName? key = some constant) (isClass : Key.className? key = some className)
    (shallow : levels ≤ nestingLimit) (freeClass : className ∉ taken)
    (asked : roles (.branch key texts children) = [.constant, .nested]) :
    memberFault? levels path taken (.branch key texts children) .nested =
      if constant = className then some (.duplicateIdentifier className path) else none := by
  have before : namesOf (.branch key texts children)
      ((roles (.branch key texts children)).takeWhile (· ≠ .nested)) = [constant] := by
    simp [asked, namesOf, Role.name?, Node.key, isConstant]
  have named : (if Key.isValid (Node.branch key texts children).key
      then Role.nested.name? (Node.branch key texts children).key else none) = some className :=
    (if_pos valid).trans isClass
  unfold memberFault?
  rw [named, before]
  simp only [true_and, if_neg (Nat.not_lt.mpr shallow), List.singleton_append, List.mem_cons, freeClass,
    or_false, eq_comm]

theorem membersOf_branch_eq_duplicate (valid : Key.isValid key)
    (isConstant : Key.constantName? key = some constant) (isClass : Key.className? key = some className)
    (hasText : texts.entries ≠ []) (shallow : depth < nestingLimit) (freeConstant : constant ∉ taken)
    (freeClass : className ∉ taken) :
    membersOf depth parent taken (.branch key texts children) =
        .error (.duplicateIdentifier className (KeyPath.join parent key)) ↔
      constant = className := by
  have nonempty : key ≠ [] := by
    rintro rfl
    cases valid
  have asked : roles (.branch key texts children) = [.constant, .nested] := by
    rw [roles_branch, LocalTexts.isEmpty, if_neg (by simpa using hasText)]
  have constantFree : memberFault? (depth + 1) (KeyPath.join parent key) taken
      (.branch key texts children) .constant = none := by
    refine memberFault?_eq_none.mpr ⟨valid, constant, isConstant, by simp, ?_⟩
    simpa [asked, namesOf] using freeConstant
  have pathNonempty : KeyPath.join parent key ≠ [] := KeyPath.join_ne_nil nonempty
  have inner := findSome?_slots_ne_duplicate pathNonempty (depth + 1) [] children className
  have isBranch : [Node.branch key texts children].countP Node.isBranch = 1 := rfl
  rw [← failure?_eq_some, failure?_membersOf, asked, findSome?_pair, isBranch, Node.key, constantFree,
    Option.none_or,
    memberFault?_nested_eq_duplicate valid isConstant isClass shallow freeClass asked]
  -- Without a clash the first fault, if there is any, is below the node, so it is at another key path.
  split_ifs with same
  · simp [same]
  · simp only [Option.none_or, same, iff_false]
    exact inner

end Clash

/-- A key is its own title case exactly if its normal form is. The warning about such keys is given for
every node of a document with such a key and for no others. If a key has a name for a constant and one for
a class, then these are the same exactly if the key is its own title case, and exactly then a branch with
this key and with texts is refused for the two names that it takes in one class. -/
theorem titleCase_iff_names_clash {key : Text} (valid : Key.isValid key) :
    (key = Key.titleCase key ↔ Key.titleCase (Key.normalize key) = Key.normalize key) ∧
    (∀ registry tree path, Parsed registry tree →
      (.titleCase key path ∈ tree.warnings ↔
        key = Key.titleCase key ∧ ∃ entry ∈ tree.walk, entry.1 = path ∧ entry.2.key = key)) ∧
    ∀ constant className, Key.constantName? key = some constant → Key.className? key = some className →
      (key = Key.titleCase key ↔ constant = className) ∧
      ∀ depth parent taken texts children, texts.entries ≠ [] → depth < nestingLimit →
        constant ∉ taken → className ∉ taken →
        (membersOf depth parent taken (.branch key texts children) =
            .error (.duplicateIdentifier className (KeyPath.join parent key)) ↔
          constant = className) := by
  refine ⟨?normal, ?warned, fun constant className isConstant isClass => ⟨?names, ?body⟩⟩
  case normal =>
    rw [eq_comm (a := Key.titleCase (Key.normalize key))]
    exact Key.eq_titleCase_iff_normalize (Key.separated_of_isValid valid)
  case warned =>
    intro registry tree path parsed
    rw [← Key.isTitleCase_iff]
    exact parsed.mem_warnings_titleCase
  case names =>
    rw [← Key.isTitleCase_iff]
    exact (Key.names_eq_iff_isTitleCase valid isConstant isClass).symm
  case body =>
    intro depth parent taken texts children hasText shallow freeConstant freeClass
    exact membersOf_branch_eq_duplicate valid isConstant isClass hasText shallow freeConstant freeClass

/-! A branch with texts whose key has a word that is capitalized, one in capitals and a number. -/

/-- An object for such a branch. -/
def streetFields : Fields :=
  [("key", .text "Straße.EU-2"), ("ja", .text "はい"), ("en", .text "Road"),
    ("strings", .list [.record (leafFields "exit" "Exit")])]

/-- The branch. -/
def streetBranch : Node := .branch "Straße.EU-2" (leafTexts "Road") [.leaf "exit" (leafTexts "Exit")]

/-- The tree of a document with this object. -/
def streetTree : Tree := .make [streetBranch] Registry.builtIn.codes "0" (forestWarnings [streetBranch])

theorem parsed_street : Parsed Registry.builtIn streetTree := by
  have distinct := codes_nodup Registry.builtIn
  have leaf := head_of_readEntry distinct ⟨rfl, by decide⟩
    (show readEntry _ _ "Straße.EU-2.exit" (leafFields "exit" "Exit") =
      .ok ⟨_, _, leafTexts "Exit", none⟩ from rfl)
  have branch := head_of_readEntry distinct ⟨rfl, by decide +kernel⟩
    (show readEntry _ _ "Straße.EU-2" streetFields =
      .ok ⟨_, _, leafTexts "Road", some (.list _)⟩ from rfl)
  exact .of_translates "0" ⟨_, rfl, .cons (.branch branch rfl (.cons (.leaf leaf (Or.inl rfl)) .nil)) .nil⟩

theorem titleCase_iff_names_clash_street :
    .titleCase "Straße.EU-2" "Straße.EU-2" ∈ streetTree.warnings ∧
      membersOf 1 none [] streetBranch = .error (.duplicateIdentifier "Straße_EU_2" "Straße.EU-2") := by
  have valid : Key.isValid "Straße.EU-2" := by decide +kernel
  have isConstant : Key.constantName? "Straße.EU-2" = some "Straße_EU_2" := by decide +kernel
  have isClass : Key.className? "Straße.EU-2" = some "Straße_EU_2" := by decide +kernel
  rcases titleCase_iff_names_clash valid with ⟨_, warned, named⟩
  rcases named _ _ isConstant isClass with ⟨clash, refused⟩
  have met := (Place.root ⟨0, by decide⟩ : Place streetTree.roots).mem_walk
  constructor
  · exact (warned _ _ _ parsed_street).mpr ⟨clash.mpr rfl, _, met, rfl, rfl⟩
  · exact (refused 1 none [] (leafTexts "Road") _ (by decide) (by decide) (by decide) (by decide)).mpr rfl

end Phrasebook.KeyModule
