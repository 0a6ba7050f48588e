import Mathlib.Data.List.Forall2
import Phrasebook.Node.Equality
import Phrasebook.Proofs.Texts

/-!
# Equality and hashes of nodes

Two nodes are alike if they have the same key, the same texts in whatever order, and either no children
both or as many children, which are alike one by one. The comparison of two objects decides whether
their nodes are alike, whichever objects it knows to be identical: a round leaves pairs that are all
alike exactly if those before it were. So being equal is an equivalence, as being alike is.

A hash is made from the texts in their order, which equality leaves open. Equal nodes thus give the same
input for a hash exactly if they list their codes in the same order.
-/

namespace Phrasebook.Node

/-- Two nodes hold the same in the same shape. -/
inductive Alike : Node → Node → Prop
  | leaf {key : Text} {first second : LocalTexts}
      (texts : ∀ code, first.get? code = second.get? code) :
      Alike (.leaf key first) (.leaf key second)
  | branch {key : Text} {first second : LocalTexts} {children others : List Node}
      (texts : ∀ code, first.get? code = second.get? code)
      (below : List.Forall₂ Alike children others) :
      Alike (.branch key first children) (.branch key second others)

namespace Alike

variable {first second third : Node}

theorem key_eq (alike : Alike first second) : first.key = second.key := by
  cases alike <;> rfl

theorem texts_perm (alike : Alike first second) :
    first.texts.entries.Perm second.texts.entries := by
  cases alike with
  | leaf texts | branch texts => exact LocalTexts.perm_iff_get?.mpr texts

/-! ### Equivalence -/

mutual

theorem refl (node : Node) : Alike node node := by
  cases node with
  | leaf key texts => exact .leaf fun _ => rfl
  | branch key texts children => exact .branch (fun _ => rfl) (forall₂_refl children)

theorem forall₂_refl (nodes : List Node) : List.Forall₂ Alike nodes nodes := by
  cases nodes with
  | nil => exact .nil
  | cons node rest => exact .cons (refl node) (forall₂_refl rest)

end

mutual

theorem symm_of (first : Node) {second : Node} (alike : Alike first second) : Alike second first := by
  cases first with
  | leaf key texts =>
    cases alike with
    | leaf same => exact .leaf fun code => (same code).symm
  | branch key texts children =>
    cases alike with
    | branch same below => exact .branch (fun code => (same code).symm) (forall₂_symm children below)

theorem forall₂_symm (nodes : List Node) {others : List Node}
    (alike : List.Forall₂ Alike nodes others) : List.Forall₂ Alike others nodes := by
  cases nodes with
  | nil =>
    cases alike
    exact .nil
  | cons node rest =>
    cases alike with
    | cons here later => exact .cons (symm_of node here) (forall₂_symm rest later)

end

mutual

theorem trans_of (first : Node) {second third : Node} (alike : Alike first second)
    (next : Alike second third) : Alike first third := by
  cases first with
  | leaf key texts =>
    cases alike with
    | leaf same =>
      cases next with
      | leaf same' => exact .leaf fun code => (same code).trans (same' code)
  | branch key texts children =>
    cases alike with
    | branch same below =>
      cases next with
      | branch same' below' =>
        exact .branch (fun code => (same code).trans (same' code)) (forall₂_trans children below below')

theorem forall₂_trans (nodes : List Node) {others last : List Node}
    (alike : List.Forall₂ Alike nodes others) (next : List.Forall₂ Alike others last) :
    List.Forall₂ Alike nodes last := by
  cases nodes with
  | nil =>
    cases alike
    exact next
  | cons node rest =>
    cases alike with
    | cons here later =>
      cases next with
      | cons here' later' => exact .cons (trans_of node here here') (forall₂_trans rest later later')

end

theorem equivalence : Equivalence Alike :=
  ⟨refl, fun alike => symm_of _ alike, fun alike next => trans_of _ alike next⟩

end Alike

/-! ### One round of a comparison -/

theorem sameContent_iff {first second : Node} :
    sameContent first second ↔
      first.key = second.key ∧ ∀ code, first.texts.get? code = second.texts.get? code := by
  simp only [sameContent, Bool.and_eq_true, beq_iff_eq, LocalTexts.same_iff_get?]

/-- Nodes are alike if they hold the same, and are both leaves or have children that are alike. -/
theorem alike_iff {first second : Node} :
    Alike first second ↔
      sameContent first second ∧
        Option.Rel (List.Forall₂ Alike) first.children? second.children? := by
  rw [sameContent_iff]
  cases first with
  | leaf key texts =>
    cases second with
    | leaf other others =>
      constructor
      · rintro ⟨same⟩
        exact ⟨⟨rfl, same⟩, .none⟩
      · rintro ⟨⟨rfl, same⟩, _⟩
        exact .leaf same
    | branch other others children =>
      constructor
      · rintro ⟨⟩
      · rintro ⟨_, ⟨⟩⟩
  | branch key texts children =>
    cases second with
    | leaf other others =>
      constructor
      · rintro ⟨⟩
      · rintro ⟨_, ⟨⟩⟩
    | branch other others children' =>
      constructor
      · rintro ⟨⟩
        exact ⟨⟨rfl, ‹_›⟩, .some ‹_›⟩
      · rintro ⟨⟨rfl, same⟩, ⟨below⟩⟩
        exact .branch same below

namespace Objects

variable {α : Type} (objects : Objects α) {first second : α} {pairs rest : List (α × α)}

/-- The nodes of all pairs are alike. -/
def AllAlike (pairs : List (α × α)) : Prop :=
  ∀ pair ∈ pairs, Alike (objects.node pair.1) (objects.node pair.2)

theorem allAlike_cons :
    objects.AllAlike ((first, second) :: rest) ↔
      Alike (objects.node first) (objects.node second) ∧ objects.AllAlike rest :=
  List.forall_mem_cons

theorem allAlike_reverse_append :
    objects.AllAlike (pairs.reverse ++ rest) ↔ objects.AllAlike pairs ∧ objects.AllAlike rest := by
  simp only [AllAlike, List.mem_append, List.mem_reverse, or_imp, forall_and]

theorem allAlike_zip {children others : List α} (lengths : children.length = others.length) :
    objects.AllAlike (children.zip others) ↔
      List.Forall₂ Alike (children.map objects.node) (others.map objects.node) := by
  rw [List.forall₂_map_left_iff, List.forall₂_map_right_iff, List.forall₂_iff_zip]
  simp [AllAlike, lengths]

theorem alike_of_identical (identical : objects.identical first second) :
    Alike (objects.node first) (objects.node second) := by
  rw [objects.node_eq_of_identical first second identical]
  exact .refl _

theorem alike_node_iff :
    Alike (objects.node first) (objects.node second) ↔
      sameContent (objects.node first) (objects.node second) ∧
        Option.Rel (List.Forall₂ Alike) ((objects.children? first).map (List.map objects.node))
          ((objects.children? second).map (List.map objects.node)) := by
  rw [alike_iff, objects.children_node, objects.children_node]

theorem alike_leaves (childless : objects.children? first = none)
    (childless' : objects.children? second = none) :
    Alike (objects.node first) (objects.node second) ↔
      sameContent (objects.node first) (objects.node second) := by
  rw [alike_node_iff, childless, childless']
  exact and_iff_left .none

theorem alike_branches {children others : List α} (branch : objects.children? first = some children)
    (branch' : objects.children? second = some others) :
    Alike (objects.node first) (objects.node second) ↔
      sameContent (objects.node first) (objects.node second) ∧
        List.Forall₂ Alike (children.map objects.node) (others.map objects.node) := by
  rw [alike_node_iff, branch, branch']
  exact and_congr_right' ⟨fun | .some below => below, .some⟩

theorem not_alike_of_mixed
    (notLeaves : objects.children? first = none → objects.children? second = none → False)
    (notBranches : ∀ children others, objects.children? first = some children →
      objects.children? second = some others → False) :
    ¬Alike (objects.node first) (objects.node second) := by
  rw [alike_node_iff]
  rintro ⟨-, below⟩
  cases shape : objects.children? first with
  | none =>
    cases shape' : objects.children? second with
    | none => exact notLeaves shape shape'
    | some others =>
      rw [shape, shape'] at below
      cases below
  | some children =>
    cases shape' : objects.children? second with
    | none =>
      rw [shape, shape'] at below
      cases below
    | some others => exact notBranches children others shape shape'

/-- A comparison tells whether the nodes of all pairs on its stack are alike. -/
theorem allEqual_iff (pairs : List (α × α)) : objects.allEqual pairs ↔ objects.AllAlike pairs := by
  -- By the rounds: each leaves pairs on the stack that are all alike exactly if those before it were.
  fun_induction objects.allEqual pairs with
  | case1 => simp [AllAlike]
  | case2 first second rest identical ih =>
    rw [ih, allAlike_cons]
    exact (and_iff_right (objects.alike_of_identical identical)).symm
  | case3 first second rest _ differ =>
    rw [allAlike_cons]
    simp only [Bool.false_eq_true, false_iff, not_and]
    intro alike
    simp [(alike_iff.mp alike).1] at differ
  | case4 first second rest _ same childless childless' ih =>
    simp only [Bool.not_eq_true, Bool.not_eq_false'] at same
    rw [ih, allAlike_cons, objects.alike_leaves childless childless']
    exact (and_iff_right same).symm
  | case5 first second rest _ same children others branch branch' ih =>
    simp only [Bool.not_eq_true, Bool.not_eq_false'] at same
    rw [Bool.and_eq_true, ih, beq_iff_eq, allAlike_cons, objects.alike_branches branch branch',
      allAlike_reverse_append, and_iff_right same, ← and_assoc]
    apply and_congr_left'
    constructor
    · rintro ⟨lengths, alike⟩
      exact (objects.allAlike_zip lengths).mp alike
    · intro alike
      have lengths : children.length = others.length := by simpa using alike.length_eq
      exact ⟨lengths, (objects.allAlike_zip lengths).mpr alike⟩
  | case6 first second rest _ same notLeaves notBranches =>
    rw [allAlike_cons]
    simp [objects.not_alike_of_mixed notLeaves notBranches]

theorem equal_iff : objects.equal first second ↔ Alike (objects.node first) (objects.node second) := by
  simp [equal, allEqual_iff, AllAlike]

end Objects

theorem equal_iff_alike {first second : Node} : first.equal second ↔ Alike first second :=
  Objects.values.equal_iff

/-- The comparison of objects answers for all of them, and it tells whether they stand for nodes that
are alike, whichever objects are known to be identical. It is an equivalence. The comparison of nodes is
that of nodes which are all told apart. No leaf is equal to a branch, be it empty or not. -/
theorem equality_decides_likeness {α : Type} (objects : Objects α) :
    (∀ first second, objects.equal first second = true ↔
        Alike (objects.node first) (objects.node second)) ∧
      Equivalence (fun first second => objects.equal first second = true) ∧
      (∀ first second : Node, first.equal second = true ↔ Alike first second) ∧
      Equivalence (fun first second : Node => first.equal second = true) ∧
      ∀ key texts otherKey otherTexts children,
        (leaf key texts).equal (branch otherKey otherTexts children) = false ∧
          (branch otherKey otherTexts children).equal (leaf key texts) = false := by
  have compared : (fun first second => objects.equal first second = true) =
      fun first second => Alike (objects.node first) (objects.node second) := by
    funext first second
    exact propext objects.equal_iff
  have comparedNodes : (fun first second : Node => first.equal second = true) = Alike := by
    funext first second
    exact propext equal_iff_alike
  refine ⟨fun _ _ => objects.equal_iff, ?_, fun _ _ => equal_iff_alike, ?_, ?_⟩
  · rw [compared]
    exact Alike.equivalence.comap objects.node
  · rw [comparedNodes]
    exact Alike.equivalence
  · intro key texts otherKey otherTexts children
    simp only [← Bool.not_eq_true, equal_iff_alike]
    constructor <;> rintro ⟨⟩

/-! ### Hashes -/

section Hashes

variable {first second : Node}

theorem Alike.childKeys_eq (alike : Alike first second) :
    first.hashInput.childKeys = second.hashInput.childKeys := by
  cases alike with
  | leaf => rfl
  | branch _ below =>
    have keys : List.Forall₂ (fun node other => Node.key node = Node.key other) _ _ :=
      below.imp fun _ _ alike => alike.key_eq
    simpa [hashInput, childKeys, children, children?, ← List.forall₂_eq_eq_eq] using keys

theorem Alike.hashInput_eq_iff (alike : Alike first second) :
    first.hashInput = second.hashInput ↔ first.texts.codes = second.texts.codes := by
  rw [← LocalTexts.entries_eq_iff_codes alike.texts_perm]
  constructor
  · intro same
    exact congrArg HashInput.texts same
  · intro listed
    have childKeys := alike.childKeys_eq
    simp only [hashInput, HashInput.mk.injEq] at childKeys ⊢
    exact ⟨alike.key_eq, listed, childKeys⟩

/-- Equal nodes give hashes the same key, the same child keys and the same texts in some order. The whole
input of their hashes is the same exactly if their codes have the same order. -/
theorem hashInput_eq_iff_codes_eq (equal : first.equal second = true) :
    first.hashInput.key = second.hashInput.key ∧
      first.hashInput.childKeys = second.hashInput.childKeys ∧
      first.hashInput.texts.Perm second.hashInput.texts ∧
      (first.hashInput = second.hashInput ↔ first.texts.codes = second.texts.codes) := by
  have alike : Alike first second := equal_iff_alike.mp equal
  exact ⟨alike.key_eq, alike.childKeys_eq, alike.texts_perm, alike.hashInput_eq_iff⟩

end Hashes

/-- A node with a greeting in two languages. -/
def greetingNode (texts : List (Text × Text)) : Node := .leaf "hello" (.ofList texts)

/-- A greeting with its languages in one order. -/
def japaneseFirst : Node := greetingNode [("ja", "やあ"), ("en", "Hi")]

/-- The same greeting with its languages in the other order. -/
def englishFirst : Node := greetingNode [("en", "Hi"), ("ja", "やあ")]

theorem japaneseFirst_equal_englishFirst : japaneseFirst.equal englishFirst = true :=
  equal_iff_alike.mpr (.leaf (LocalTexts.perm_iff_get?.mp (.swap _ _ _)))

theorem hashInput_eq_iff_codes_eq_reordered :
    japaneseFirst.equal englishFirst = true ∧
      (japaneseFirst.hashInput = englishFirst.hashInput ↔
        japaneseFirst.texts.codes = englishFirst.texts.codes) :=
  ⟨japaneseFirst_equal_englishFirst,
    (hashInput_eq_iff_codes_eq japaneseFirst_equal_englishFirst).2.2.2⟩

/-- Nodes that differ in the order of their languages are equal, but a hash tells them apart. -/
theorem equal_nodes_hash_differently :
    japaneseFirst.equal englishFirst = true ∧ japaneseFirst.hashInput ≠ englishFirst.hashInput :=
  ⟨japaneseFirst_equal_englishFirst, by decide⟩

end Phrasebook.Node
