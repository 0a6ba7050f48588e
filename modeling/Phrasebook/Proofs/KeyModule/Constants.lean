import Mathlib.Data.List.Forall2
import Phrasebook.Proofs.Document.Parsed
import Phrasebook.Proofs.KeyModule.Declaration
import Phrasebook.Proofs.KeyModule.Writer
import Phrasebook.Proofs.Lookup.Inverse
import Phrasebook.Proofs.Lookup.Strict

/-!
# Constants of key modules

There is one constant for each leaf and each branch with texts, in the order of visits, and it holds the
key path of its node. A look-up of this path leads back to the node exactly if no key on the way to the
node has a period and nothing shadows the node.
-/

namespace Phrasebook.KeyModule

open Document Outcome
open Resolver (leafFields leafTexts branchFields)

/-- A constant in a key module. -/
structure Constant where
  name : Text
  keyPath : Text
  /-- The texts that its comments show. -/
  texts : List (Text × Text)

mutual

/-- The constants of a member, those of the classes in it included. -/
def Member.constants : Member → List Constant
  | .constant name keyPath texts => [⟨name, keyPath, texts⟩]
  | .nested _ members => constantsIn members

/-- The constants of members in order. -/
def constantsIn : List Member → List Constant
  | [] => []
  | member :: rest => member.constants ++ constantsIn rest

end

/-- A node gets a constant: it is a leaf or has texts. -/
def getsConstant (node : Node) : Bool := !node.isBranch || node.hasText

theorem getsConstant_branch {key : Text} {texts : LocalTexts} {children : List Node} :
    getsConstant (.branch key texts children) ↔ texts.entries ≠ [] := by
  simp [getsConstant, Node.isBranch, Node.children?, Node.hasText, Node.texts, LocalTexts.isEmpty]

/-- A constant belongs to a node with a key path. -/
structure IsConstantOf (constant : Constant) (entry : Text × Node) : Prop where
  gets : getsConstant entry.2
  named : Key.constantName? entry.2.key = some constant.name
  keyPath : constant.keyPath = entry.1
  texts : constant.texts = entry.2.texts.entries

/-- The constants in the members that declare a forest are those of its nodes. -/
theorem Declares.constants {parent : Option Text} {nodes : List Node} {members : List Member}
    (declares : Declares parent nodes members) :
    List.Forall₂ IsConstantOf (constantsIn members)
      ((Place.entriesBelow parent nodes).filter fun entry => getsConstant entry.2) := by
  induction declares with
  | nil =>
    rw [Place.entriesBelow_nil]
    exact .nil
  | leaf _ named _ others =>
    rw [Place.entriesBelow_cons, List.filter_cons_of_pos rfl]
    refine .cons ⟨rfl, named, rfl, rfl⟩ ?_
    simpa [Node.children, Node.children?, Place.entriesBelow_nil] using others
  | branch _ textless _ _ _ inner others =>
    rw [Place.entriesBelow_cons, List.filter_cons_of_neg, List.filter_append]
    · exact List.rel_append inner others
    · exact mt getsConstant_branch.mp (not_not_intro textless)
  | branchWithTexts _ given named _ _ _ inner others =>
    rw [Place.entriesBelow_cons, List.filter_cons_of_pos, List.filter_append]
    · exact .cons ⟨getsConstant_branch.mpr given, named, rfl, rfl⟩ (List.rel_append inner others)
    · exact getsConstant_branch.mpr given

/-- A constant belongs to the place of a node. Its value leads to this place exactly if no key on the
way to the place has a period and nothing shadows the place, and then it resolves to the text of the node
in every language. -/
structure LeadsBack (registry : Registry) (resolver : Resolver) (constant : Constant)
    (place : Place resolver.tree.roots) : Prop where
  belongs : IsConstantOf constant (place.path, place.node)
  found : (resolver.findNode constant.keyPath).toOption =
    (resolver.locate constant.keyPath).map Place.node
  exactly : resolver.locate constant.keyPath = some place ↔
    (∀ key ∈ place.keys, .scalar '.' ∉ key) ∧ ¬place.Shadowed
  resolves : resolver.locate constant.keyPath = some place → ∀ code ∈ registry.codes,
    ∃ stored, place.node.textFor code = some stored ∧
      (resolver.resolve code constant.keyPath none).result = .ok (Template.unescapeNewlines stored)

theorem textFor_of_getsConstant {registry : Registry} {tree : Tree} (parsed : Parsed registry tree)
    {place : Place tree.roots} (gets : getsConstant place.node) {code : Text}
    (known : code ∈ registry.codes) : ∃ stored, place.node.textFor code = some stored := by
  rcases parsed.texts_complete place with ⟨none, branch⟩ | all
  · simp [getsConstant, Node.hasText, LocalTexts.isEmpty, none, branch] at gets
  · rw [← all] at known
    exact LocalTexts.get?_of_mem known

theorem IsConstantOf.leadsBack {registry : Registry} {resolver : Resolver} {constant : Constant}
    {place : Place resolver.tree.roots} (belongs : IsConstantOf constant (place.path, place.node))
    (parsed : Parsed registry resolver.tree) (strict : resolver.strict)
    (registered : resolver.registry = some registry) :
    LeadsBack registry resolver constant place where
  belongs := belongs
  found := resolver.findNode_toOption constant.keyPath
  exactly := by
    rw [belongs.keyPath]
    exact Resolver.locate_path (parsed.key_ne_nil place)
  resolves := by
    intro located code known
    rcases textFor_of_getsConstant parsed belongs.gets known with ⟨stored, given⟩
    have found := Resolver.findNode_eq_ok.mpr ⟨place, located, rfl⟩
    have checked := Resolver.checkLanguage_of_mem registered known
    rw [Resolver.resolve_of_found strict checked found given]
    exact ⟨stored, given, rfl⟩

/-- The constants of an emitted module belong to the leaves and the nodes with texts, in the order of
visits, and each leads back to its node exactly if the keys on the way have no periods and no earlier
siblings. -/
theorem constants_lead_back {registry : Registry} {tree : Tree} {options : Options} {text : Text}
    (parsed : Parsed registry tree) (emitted : (emit options tree).result = .ok text)
    (fallback : Option Text) :
    ∃ members,
      membersOfAll (options.namespaces.length + 1) none [] tree.roots = .ok members ∧
      text = Text.joinWith "\n" (moduleLines options tree.sourceHash members) ++ "\n" ∧
      List.Forall₂ (LeadsBack registry (.make tree (some registry) true fallback))
        (constantsIn members) ((Place.all tree.roots).filter fun place => getsConstant place.node) := by
  rcases emit_eq_ok.mp emitted with ⟨_, members, made, rfl⟩
  have constants := (declared_of_membersOfAll _ made).declares.constants
  rw [Place.entriesBelow, List.filter_map, List.forall₂_map_right_iff] at constants
  refine ⟨members, made, rfl, constants.imp ?_⟩
  intro constant place belongs
  exact belongs.leadsBack parsed rfl rfl

/-! A leaf whose key has a period, and a leaf whose key path reads the same. -/

/-- The forest of a document with these two leaves. -/
def dottedForest : List Node :=
  [.leaf "a.b" (leafTexts "Yes"), .branch "a" .empty [.leaf "b" (leafTexts "No")]]

/-- The tree of that document. -/
def dottedTree : Tree :=
  .make dottedForest Registry.builtIn.codes "0" (forestWarnings dottedForest)

theorem parsed_dotted : Parsed Registry.builtIn dottedTree := by
  have distinct := codes_nodup Registry.builtIn
  have dotted := head_of_readEntry distinct ⟨rfl, by decide⟩
    (show readEntry _ _ "a.b" (leafFields "a.b" "Yes") = .ok ⟨_, _, leafTexts "Yes", none⟩ from rfl)
  have leaf := head_of_readEntry distinct ⟨rfl, by decide⟩
    (show readEntry _ _ "a.b" (leafFields "b" "No") = .ok ⟨_, _, leafTexts "No", none⟩ from rfl)
  have branch := head_of_readEntry distinct ⟨rfl, by decide⟩
    (show readEntry _ _ "a" (branchFields "a" (leafFields "b" "No")) =
      .ok ⟨_, _, .empty, some (.list _)⟩ from rfl)
  exact .of_translates "0" ⟨_, rfl, .cons (.leaf dotted (Or.inl rfl))
    (.cons (.branch branch rfl (.cons (.leaf leaf (Or.inl rfl)) .nil)) .nil)⟩

/-- The options for a module with the class for all keys alone. -/
def plainOptions : Options := ⟨[], 4, defaultRootClass⟩

theorem constants_lead_back_dotted :
    ∃ members text,
      (emit plainOptions dottedTree).result = .ok text ∧
      membersOfAll 1 none [] dottedForest = .ok members ∧
      List.Forall₂ (LeadsBack Registry.builtIn (.make dottedTree (some Registry.builtIn) true none))
        (constantsIn members)
        ((Place.all dottedForest).filter fun place => getsConstant place.node) := by
  have succeeds : (emit plainOptions dottedTree).result.toOption.isSome := by decide +kernel
  cases emitted : (emit plainOptions dottedTree).result with
  | error failure => simp [emitted, Except.toOption] at succeeds
  | ok text =>
    rcases constants_lead_back parsed_dotted emitted none with ⟨members, made, _, leads⟩
    exact ⟨members, text, rfl, made, leads⟩

/-- Two constants with one value are emitted: the first is made for the text "Yes", and it resolves to
the text of the second. -/
theorem dotted_constant_misleads :
    ((membersOfAll 1 none [] dottedForest).toOption.map fun members =>
        (constantsIn members).map fun constant => (constant.name, constant.keyPath)) =
      some [(.ofString "a_b", .ofString "a.b"), (.ofString "b", .ofString "a.b")] ∧
    dottedForest.head?.bind (·.textFor "en") = some "Yes" ∧
    ((Resolver.make dottedTree (some Registry.builtIn) true none).resolve "en" "a.b"
      none).result.toOption = some "No" := by
  decide +kernel

end Phrasebook.KeyModule
