import Phrasebook.KeyModule.Emission
import Phrasebook.Proofs.Node.Traversal
import Phrasebook.Proofs.Outcome

/-!
# The writer as a recursion

A writer that takes the calls of a traversal writes the lines of the members that the recursion makes for
the forest, and fails as the recursion does. What it has written for some nodes ends in the body in which it
began, with the names of their members taken there. Between the call that visits a branch and the call that
leaves it stand those for its children, which are written one class deeper.
-/

namespace Phrasebook.KeyModule

open Node (Call nestedCalls nestedCallsOf)
open Outcome

/-- The lines of members in a body, which may have something in it before them. -/
def linesIn (hasContent : Bool) (width depth : Nat) : List Member → List Text
  | [] => []
  | first :: rest =>
    (if hasContent then [[]] else []) ++ first.lines width depth ++ spacedLines width depth rest

theorem spacedLines_eq_linesIn (width depth : Nat) (members : List Member) :
    spacedLines width depth members = linesIn true width depth members := by
  cases members with
  | nil => rw [spacedLines, linesIn]
  | cons first rest => simp [spacedLines, linesIn]

theorem linesIn_append (hasContent : Bool) (width depth : Nat) (first later : List Member) :
    linesIn hasContent width depth (first ++ later) =
      linesIn hasContent width depth first ++
        linesIn (hasContent || !first.isEmpty) width depth later := by
  have spaced (members : List Member) : spacedLines width depth (members ++ later) =
      spacedLines width depth members ++ spacedLines width depth later := by
    induction members with
    | nil => rw [spacedLines, List.nil_append, List.nil_append]
    | cons member rest ih => simp only [List.cons_append, spacedLines, ih, List.append_assoc]
  cases first with
  | nil => simp [linesIn]
  | cons member rest =>
    rw [List.cons_append, linesIn, linesIn, spaced rest, List.isEmpty_cons, Bool.not_false, Bool.or_true,
      ← spacedLines_eq_linesIn, List.append_assoc, List.append_assoc, List.append_assoc]

/-! ### Runs -/

/-- After a run, a writer is in the same body and has written members to it. -/
structure Wrote (before : Writer) (members : List Member) (after : Writer) : Prop where
  width : after.width = before.width
  depth : after.depth = before.depth
  around : after.around = before.around
  names : ∀ name, name ∈ after.scope.names ↔
    name ∈ members.map Member.name ++ before.scope.names
  content : after.scope.hasContent = (before.scope.hasContent || !members.isEmpty)
  written : after.written =
    (linesIn before.scope.hasContent before.width before.depth members).reverse ++ before.written

theorem Wrote.nothing (writer : Writer) : Wrote writer [] writer where
  width := rfl
  depth := rfl
  around := rfl
  names := by simp
  content := by simp
  written := by simp [linesIn]

theorem Wrote.append {before middle after : Writer} {first later : List Member}
    (here : Wrote before first middle) (others : Wrote middle later after) :
    Wrote before (first ++ later) after where
  width := others.width.trans here.width
  depth := others.depth.trans here.depth
  around := others.around.trans here.around
  names name := by
    rw [others.names, List.mem_append, here.names]
    simp only [List.map_append, List.mem_append]
    tauto
  content := by
    rw [others.content, here.content]
    cases first <;> simp
  written := by
    rw [others.written, here.written, here.width, here.depth, here.content, linesIn_append,
      List.reverse_append, List.append_assoc]

/-- A run of a writer ends as the making of members does: both fail alike, or the writer has written the
members. -/
inductive Follows (before : Writer) : Except Problem (List Member) → Except Problem Writer → Prop where
  | failed (problem : Problem) : Follows before (.error problem) (.error problem)
  | wrote {members : List Member} {after : Writer} (all : Wrote before members after) :
      Follows before (.ok members) (.ok after)

/-- A run after a run follows members after members. -/
theorem Follows.append {before : Writer} {made : Except Problem (List Member)}
    {run : Except Problem Writer} {later : List Member → Except Problem (List Member)}
    {next : Writer → Except Problem Writer} (here : Follows before made run)
    (others : ∀ members middle, Wrote before members middle →
      Follows middle (later members) (next middle)) :
    Follows before (made >>= fun members => return members ++ (← later members)) (run >>= next) := by
  cases here with
  | failed problem => exact .failed problem
  | @wrote members middle all =>
    have rest := others members middle all
    change Follows before (later members >>= fun more => pure (members ++ more)) (next middle)
    generalize later members = made, next middle = run at rest
    cases rest with
    | failed problem => exact .failed problem
    | wrote others => exact .wrote (all.append others)

/-! ### Constants -/

variable {taken : List Text} {writer : Writer}

/-- Whether a name is taken does not depend on the order of those that are. -/
theorem claim_congr {others : List Text} (same : ∀ name, name ∈ taken ↔ name ∈ others)
    (name keyPath : Text) : claim taken name keyPath = claim others name keyPath := by
  have alike : taken.contains name = others.contains name := by
    rw [Bool.eq_iff_iff, List.contains_iff_mem, List.contains_iff_mem]
    exact same name
  rw [claim, claim, alike]

/-- Lines are written below those that are there, at the depth of the body. -/
theorem foldl_put (writer : Writer) (lines : List Text) :
    lines.foldl Writer.put writer =
      { writer with
        written := (lines.map (indentation writer.width writer.depth ++ ·)).reverse ++ writer.written } := by
  induction lines generalizing writer with
  | nil => rfl
  | cons line rest ih =>
    rw [List.foldl_cons, ih]
    simp [Writer.put]

/-- The lines of a constant are written where its name is taken. -/
theorem Wrote.constant (writer : Writer) (name keyPath : Text) (texts : List (Text × Text)) :
    Wrote writer [.constant name keyPath texts]
      ((texts.map (fun entry => commentLine entry.1 entry.2) ++ [constantLine name keyPath]).foldl
        Writer.put (writer.take name)) := by
  rw [foldl_put]
  constructor
  case names => simp [Writer.take, Scope.take, Member.name]
  case content => simp [Writer.take, Scope.take]
  case written =>
    cases h : writer.scope.hasContent <;>
      simp [Writer.take, linesIn, spacedLines, Member.lines, h]
  all_goals rfl

theorem constant_follows (same : ∀ name, name ∈ writer.scope.names ↔ name ∈ taken)
    (keyPath key : Text) (texts : LocalTexts) :
    Follows writer (do return [← constantFor taken key keyPath texts])
      (writer.constant keyPath key texts) := by
  unfold constantFor Writer.constant Writer.claim
  cases nameFor Key.constantName? key keyPath with
  | error problem => exact .failed problem
  | ok name =>
    dsimp only [bind, Except.bind]
    rw [claim_congr same name keyPath]
    cases claim taken name keyPath with
    | error problem => exact .failed problem
    | ok _ => exact .wrote (.constant writer name keyPath texts.entries)

/-! ### Classes -/

/-- A class is opened where its name is made, unless it is too deep or the name is taken. -/
theorem openClass_eq (same : ∀ name, name ∈ writer.scope.names ↔ name ∈ taken) (keyPath key : Text) :
    writer.openClass keyPath key =
      (do
        let name ← classNameFor taken writer.depth key keyPath
        return (writer.take name).enter name) := by
  unfold Writer.openClass Writer.claim classNameFor
  cases nameFor Key.className? key keyPath with
  | error problem => rfl
  | ok name =>
    dsimp only [bind, Except.bind]
    split
    · rfl
    · rw [claim_congr same name keyPath]
      cases claim taken name keyPath <;> rfl

/-- The lines of a class are written where its name is taken: what opens it, and its members in a body of
their own, which is closed. -/
theorem Wrote.nested {inner : Writer} {name : Text} {members : List Member}
    (all : Wrote ((writer.take name).enter name) members inner) :
    Wrote writer [.nested name members] inner.closeClass := by
  have bare : inner.scope.names.isEmpty = members.isEmpty := by
    rw [Bool.eq_iff_iff, List.isEmpty_iff, List.isEmpty_iff, List.eq_nil_iff_forall_not_mem,
      ← List.map_eq_nil_iff (f := Member.name), List.eq_nil_iff_forall_not_mem]
    simp [all.names, Writer.enter]
  have closed : inner.closeClass =
      ⟨writer.width, writer.depth, writer.scope.take name, writer.around,
        (linesIn writer.scope.hasContent writer.width writer.depth [.nested name members]).reverse ++
          writer.written⟩ := by
    rw [Writer.closeClass, bare]
    cases content : writer.scope.hasContent <;> cases members <;>
      simp [Writer.put, Writer.enter, Writer.take, linesIn, spacedLines, Member.lines, bodyLines, all.width,
        all.depth, all.around, all.written, content]
  rw [closed]
  constructor
  case names => simp [Scope.take, Member.name]
  case content => simp [Scope.take]
  all_goals rfl

/-- The calls for a branch write its class, if those for its children write the members of the class. -/
theorem class_follows {depth : Nat} (level : writer.depth = depth)
    (same : ∀ name, name ∈ writer.scope.names ↔ name ∈ taken) (keyPath key : Text)
    {children : Except Problem (List Member)} {run : Writer → Except Problem Writer}
    (below : ∀ inner : Writer, inner.depth = depth + 1 → inner.scope.names = [] →
      Follows inner children (run inner)) :
    Follows writer
      (do
        let name ← classNameFor taken depth key keyPath
        return [.nested name (← children)])
      (do return (← run (← writer.openClass keyPath key)).closeClass) := by
  subst level
  rw [openClass_eq same]
  cases classNameFor taken writer.depth key keyPath with
  | error problem => exact .failed problem
  | ok name =>
    have inside := below ((writer.take name).enter name) rfl rfl
    change Follows writer (children >>= fun members => pure [.nested name members])
      (run ((writer.take name).enter name) >>= fun inner => pure inner.closeClass)
    generalize run ((writer.take name).enter name) = ran at inside
    cases inside with
    | failed problem => exact .failed problem
    | wrote all => exact .wrote all.nested

/-! ### Forests -/

mutual

/-- The calls for a node write the members that are made for it. -/
theorem membersOf_follows {writer : Writer} {taken : List Text} (parent : Option Text) (node : Node)
    (same : ∀ name, name ∈ writer.scope.names ↔ name ∈ taken) :
    Follows writer (membersOf writer.depth parent taken node)
      ((nestedCallsOf parent node).foldlM Writer.step writer) := by
  cases node with
  | leaf key texts =>
    rw [membersOf, nestedCallsOf, List.foldlM_cons, Writer.step]
    simp only [List.foldlM_nil, bind_pure]
    exact constant_follows same (KeyPath.join parent key) key texts
  | branch key texts children =>
    have inside (inner : Writer) (deeper : inner.depth = writer.depth + 1) (bare : inner.scope.names = []) :
        Follows inner (membersOfAll (writer.depth + 1) (some (KeyPath.join parent key)) [] children)
          ((nestedCalls (some (KeyPath.join parent key)) children).foldlM Writer.step inner) := by
      rw [← deeper]
      exact membersOfAll_follows (some (KeyPath.join parent key)) children (by simp [bare])
    rw [membersOf, nestedCallsOf, List.foldlM_cons]
    simp only [List.foldlM_append, List.foldlM_cons, List.foldlM_nil, bind_pure, Writer.step]
    cases texts.isEmpty with
    | true =>
      simpa using class_follows rfl same (KeyPath.join parent key) key inside
    | false =>
      have first := constant_follows same (KeyPath.join parent key) key texts
      have second (members : List Member) (middle : Writer) (wrote : Wrote writer members middle) :=
        have together (name : Text) :
            name ∈ middle.scope.names ↔ name ∈ members.map Member.name ++ taken := by
          rw [wrote.names, List.mem_append, List.mem_append, same]
        class_follows wrote.depth together (KeyPath.join parent key) key inside
      simpa [Member.name] using first.append second

/-- The calls for nodes write the members that are made for them. -/
theorem membersOfAll_follows {writer : Writer} {taken : List Text} (parent : Option Text)
    (nodes : List Node) (same : ∀ name, name ∈ writer.scope.names ↔ name ∈ taken) :
    Follows writer (membersOfAll writer.depth parent taken nodes)
      ((nestedCalls parent nodes).foldlM Writer.step writer) := by
  cases nodes with
  | nil => exact .wrote (.nothing writer)
  | cons node rest =>
    rw [membersOfAll, nestedCalls, List.foldlM_append]
    refine (membersOf_follows parent node same).append fun members middle wrote => ?_
    rw [← wrote.depth]
    refine membersOfAll_follows parent rest fun name => ?_
    rw [wrote.names, List.mem_append, List.mem_append, same]

end

variable {options : Options} {tree : Tree}

/-- The writer for a tree writes the members of its forest in the class for all keys. -/
theorem traversal_follows (options : Options) (roots : List Node) :
    Follows options.writer (membersOfAll (options.namespaces.length + 1) none [] roots)
      ((Node.traversal roots).foldlM Writer.step options.writer) := by
  rw [Node.traversal_eq_nestedCalls]
  exact membersOfAll_follows none roots (by simp [Options.writer, Scope.root])

/-- What a writer for a tree has written ends a module with the members that it has written. -/
theorem Wrote.moduleLines {members : List Member} {after : Writer}
    (all : Wrote options.writer members after) (hash : Text) :
    openingLines options hash ++ after.written.reverse = KeyModule.moduleLines options hash members := by
  rw [all.written, KeyModule.moduleLines, spacedLines_eq_linesIn]
  simp [Options.writer, Scope.root]

/-- A tree is emitted by the recursion: the members that are made for its forest, in the lines of a module. -/
theorem result_emit (options : Options) (tree : Tree) :
    (emit options tree).result =
      if indexLimit ≤ options.indentWidth then .error .countTooLarge
      else do
        let members ← (membersOfAll (options.namespaces.length + 1) none [] tree.roots).mapError Failure.problem
        return Text.joinWith "\n" (moduleLines options tree.sourceHash members) ++ "\n" := by
  have follows := traversal_follows options tree.roots
  unfold emit
  generalize membersOfAll (options.namespaces.length + 1) none [] tree.roots = made,
    (Node.traversal tree.roots).foldlM Writer.step options.writer = run at follows
  split
  · rfl
  · cases follows with
    | failed problem => rfl
    | wrote all =>
      have lines := all.moduleLines tree.sourceHash
      exact congrArg (fun lines => Except.ok (Text.joinWith "\n" lines ++ "\n")) lines

/-- What is emitted for a tree are the lines of a module with the members made for its forest. -/
theorem emit_eq_ok {text : Text} :
    (emit options tree).result = .ok text ↔
      options.indentWidth < indexLimit ∧ ∃ members,
        membersOfAll (options.namespaces.length + 1) none [] tree.roots = .ok members ∧
          text = Text.joinWith "\n" (moduleLines options tree.sourceHash members) ++ "\n" := by
  rw [result_emit]
  split
  · rename_i tooLarge
    simp [Nat.not_lt.mpr tooLarge]
  · rename_i small
    simp only [bind_eq_ok, mapError_eq_ok, pure_eq_ok, Nat.lt_of_not_le small, true_and, @eq_comm _ text]

/-- Nothing is emitted if the indentation is no index, and else if no members are made for the forest. -/
theorem emit_eq_error {failure : Failure} :
    (emit options tree).result = .error failure ↔
      if indexLimit ≤ options.indentWidth then failure = .countTooLarge
      else ∃ problem, membersOfAll (options.namespaces.length + 1) none [] tree.roots = .error problem ∧
        failure = .problem problem := by
  rw [result_emit]
  split
  · simp [@eq_comm _ failure]
  · simp only [bind_eq_error, mapError_eq_error, pure_ne_error, and_false, exists_false, or_false,
      @eq_comm _ failure]

end Phrasebook.KeyModule
