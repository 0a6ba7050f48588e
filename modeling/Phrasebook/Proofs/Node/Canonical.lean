import Phrasebook.Proofs.Json.Quote
import Phrasebook.Proofs.Node.Traversal
import Phrasebook.Proofs.Number.Numeral
import Phrasebook.Proofs.Texts

/-!
# Canonical forms determine forests

A forest can be told from its canonical form. Each line ends where its list is closed, because quotes
inside texts are escaped, and tells the depth of a node, its key, its texts and whether it is a branch.
The nodes below a node are those of the lines after it that are deeper, so that depths and order give
back the shape. The bytes of the form determine it as long as no text has surrogates.
-/

namespace Phrasebook.Node

open Json (quote quote_append_inj)

/-! ### Lines -/

/-- What the line of a node tells. -/
structure Sketch where
  depth : Nat
  key : Text
  texts : List (Text × Text)
  isBranch : Bool

/-- The sketch of a node where a traversal meets it. -/
def Visited.sketch (visited : Visited) : Sketch :=
  ⟨visited.depth, visited.node.key, visited.node.texts.entries, visited.node.isBranch⟩

/-- A code with its text, as lines have it. -/
def pairText (entry : Text × Text) : Text :=
  .scalar '[' :: (quote .compact entry.1 ++ .scalar ',' :: (quote .compact entry.2 ++ [.scalar ']']))

/-- Codes with their texts, as lines have them after others. -/
def laterPairs (entries : List (Text × Text)) : Text :=
  entries.flatMap fun entry => .scalar ',' :: pairText entry

/-- The texts of a node between their brackets, as lines have them. -/
def pairsText : List (Text × Text) → Text
  | [] => []
  | first :: rest => pairText first ++ laterPairs rest

/-- A truth value, as lines have it. -/
def flagText (flag : Bool) : Text := if flag then "true" else "false"

/-- A sketch as a line, with what follows the line. -/
def Sketch.line (sketch : Sketch) (after : Text) : Text :=
  .scalar '[' :: (Numeral.natural sketch.depth ++ .scalar ',' :: (quote .compact sketch.key ++
    .scalar ',' :: .scalar '[' :: (pairsText sketch.texts ++ .scalar ']' :: .scalar ',' ::
      (flagText sketch.isBranch ++ .scalar ']' :: .scalar '\n' :: after))))

theorem write_pairs (entries : List (Text × Text)) :
    Json.write .compact (.list (entries.map fun entry => .list [.text entry.1, .text entry.2])) =
      .scalar '[' :: (pairsText entries ++ [.scalar ']']) := by
  have items : Json.writeItems .compact (entries.map fun entry => .list [.text entry.1, .text entry.2]) =
      entries.map pairText := by
    induction entries with
    | nil => rfl
    | cons entry rest ih =>
      simp only [List.map_cons, Json.writeItems, ih, List.cons.injEq, and_true]
      simp [Json.write, Json.writeItems, Text.joinWith, pairText, Json.Style.compact, Text.ofString]
  rw [Json.write, items]
  cases entries with
  | nil => rfl
  | cons entry rest =>
    simp [Text.joinWith, pairsText, laterPairs, Json.Style.compact, Text.ofString,
      List.flatMap_def, Function.comp_def]

/-- The line of a node shows its sketch. -/
theorem canonicalLine_append (visited : Visited) (after : Text) :
    canonicalLine visited.depth visited.node ++ after = visited.sketch.line after := by
  have depth : Numeral.integer visited.depth = Numeral.natural visited.depth := by
    simp [Numeral.integer]
  have opened : canonicalLine visited.depth visited.node =
      [.scalar '['] ++ Text.joinWith "," [Numeral.integer visited.depth,
        quote .compact visited.node.key, Json.write .compact visited.node.textPairs,
        flagText visited.node.isBranch] ++ [.scalar ']'] ++ ("\n" : Text) := by
    simp only [canonicalLine, Json.write, Json.writeItems]
    rfl
  rw [opened, depth, textPairs, write_pairs]
  simp [Text.joinWith, Sketch.line, Visited.sketch, Text.ofString]

theorem compact_append_inj {first second after others : Text} :
    quote .compact first ++ after = quote .compact second ++ others ↔
      first = second ∧ after = others :=
  quote_append_inj rfl

theorem pairText_append_inj {first second : Text × Text} {after others : Text} :
    pairText first ++ after = pairText second ++ others ↔ first = second ∧ after = others := by
  simp only [pairText, List.cons_append, List.append_assoc, List.cons.injEq, true_and,
    compact_append_inj, List.nil_append, Prod.ext_iff, and_assoc]

theorem laterPairs_append_inj {first second : List (Text × Text)} {after others : Text} :
    laterPairs first ++ .scalar ']' :: after = laterPairs second ++ .scalar ']' :: others ↔
      first = second ∧ after = others := by
  induction first generalizing second with
  | nil => cases second <;> simp [laterPairs]
  | cons entry rest ih =>
    cases second with
    | nil => simp [laterPairs]
    | cons other later =>
      simp only [laterPairs, List.flatMap_cons, List.cons_append, List.append_assoc,
        List.cons.injEq, true_and, pairText_append_inj, and_assoc] at ih ⊢
      rw [ih]

theorem pairsText_append_inj {first second : List (Text × Text)} {after others : Text} :
    pairsText first ++ .scalar ']' :: after = pairsText second ++ .scalar ']' :: others ↔
      first = second ∧ after = others := by
  cases first with
  | nil => cases second <;> simp [pairsText, pairText]
  | cons entry rest =>
    cases second with
    | nil => simp [pairsText, pairText]
    | cons other later =>
      simp only [pairsText, List.append_assoc, pairText_append_inj, laterPairs_append_inj,
        List.cons.injEq, and_assoc]

theorem flagText_append_inj {first second : Bool} {after others : Text} :
    flagText first ++ .scalar ']' :: after = flagText second ++ .scalar ']' :: others ↔
      first = second ∧ after = others := by
  cases first <;> cases second <;> simp [flagText, Text.ofString]

/-- A line is told from what follows it, and tells its sketch. -/
theorem Sketch.line_inj {first second : Sketch} {after others : Text} :
    first.line after = second.line others ↔ first = second ∧ after = others := by
  rcases first with ⟨depth, key, texts, branch⟩
  rcases second with ⟨otherDepth, otherKey, otherTexts, otherBranch⟩
  have comma (after : Text) : ∀ point ∈ (CodePoint.scalar ',' :: after).head?,
      ¬point.isAsciiDigit := by
    simp only [List.head?_cons, Option.mem_def, Option.some.injEq, forall_eq']
    decide
  simp only [Sketch.line, List.cons.injEq, true_and, Numeral.natural_append_inj (comma _) (comma _),
    compact_append_inj, pairsText_append_inj, flagText_append_inj, Sketch.mk.injEq, and_assoc]

/-- Lines one after the other tell their sketches. -/
theorem sketches_eq_of_lines {first second : List Visited}
    (same : (first.flatMap fun visited => canonicalLine visited.depth visited.node) =
      second.flatMap fun visited => canonicalLine visited.depth visited.node) :
    first.map Visited.sketch = second.map Visited.sketch := by
  have opened (visited : Visited) (after : Text) :
      canonicalLine visited.depth visited.node ++ after ≠ [] := by
    rw [canonicalLine_append]
    simp [Sketch.line]
  induction first generalizing second with
  | nil =>
    cases second with
    | nil => rfl
    | cons other later => exact absurd same.symm (opened other _)
  | cons visited rest ih =>
    cases second with
    | nil => exact absurd same (opened visited _)
    | cons other later =>
      simp only [List.flatMap_cons, canonicalLine_append, Sketch.line_inj] at same
      rw [List.map_cons, List.map_cons, same.1, ih same.2]

/-! ### Shapes -/

theorem preorder_cons (depth : Nat) (parent : Option Text) (node : Node) (rest : List Node) :
    preorder depth parent (node :: rest) =
      ⟨depth, KeyPath.join parent node.key, node⟩ ::
        (preorder (depth + 1) (some (KeyPath.join parent node.key)) node.children ++
          preorder depth parent rest) := by
  cases node <;> rfl

theorem eq_of_parts {first second : Node} (keys : first.key = second.key)
    (texts : first.texts.entries = second.texts.entries) (branches : first.isBranch = second.isBranch)
    (children : first.children = second.children) : first = second := by
  have texts := LocalTexts.eq_of_entries texts
  cases first <;> cases second <;> simp_all [key, Node.texts, isBranch, Node.children, children?]

/-- The sketches of nodes and of what is below them. -/
def sketches (depth : Nat) (parent : Option Text) (nodes : List Node) : List Sketch :=
  (preorder depth parent nodes).map Visited.sketch

theorem sketches_cons (depth : Nat) (parent : Option Text) (node : Node) (rest : List Node) :
    sketches depth parent (node :: rest) =
      ⟨depth, node.key, node.texts.entries, node.isBranch⟩ ::
        (sketches (depth + 1) (some (KeyPath.join parent node.key)) node.children ++
          sketches depth parent rest) := by
  rw [sketches, preorder_cons, List.map_cons, List.map_append]
  rfl

/-- What follows the nodes of a depth starts with a node that is less deep, if anything follows. -/
def EndsBelow (depth : Nat) (after : List Sketch) : Prop :=
  ∀ sketch ∈ after.head?, sketch.depth < depth

/-- The siblings after a node end what is below the node. -/
theorem EndsBelow.siblings {depth : Nat} {after : List Sketch} (ends : EndsBelow depth after)
    (parent : Option Text) (rest : List Node) :
    EndsBelow (depth + 1) (sketches depth parent rest ++ after) := by
  cases rest with
  | nil =>
    intro sketch first
    exact Nat.lt_succ_of_lt (ends sketch first)
  | cons node rest =>
    rw [sketches_cons]
    intro sketch first
    cases first
    exact Nat.lt_succ_self depth

/-- Sketches tell the nodes, and where what follows them starts. -/
theorem eq_of_sketches {depth : Nat} {parent other : Option Text} {first second : List Node}
    {after others : List Sketch} (ends : EndsBelow depth after) (otherEnds : EndsBelow depth others)
    (same : sketches depth parent first ++ after = sketches depth other second ++ others) :
    first = second ∧ after = others := by
  induction size : countAll first using Nat.strongRecOn
    generalizing depth parent other first second after others with
  | ind size ih =>
    subst size
    cases first with
    | nil =>
      cases second with
      | nil => exact ⟨rfl, same⟩
      | cons node rest =>
        rw [sketches_cons, show sketches depth parent [] = [] from rfl, List.nil_append] at same
        subst same
        exact absurd (ends _ rfl) (Nat.lt_irrefl depth)
    | cons node rest =>
      cases second with
      | nil =>
        rw [sketches_cons, show sketches depth other [] = [] from rfl, List.nil_append] at same
        subst same
        exact absurd (otherEnds _ rfl) (Nat.lt_irrefl depth)
      | cons sibling later =>
        have smaller : countAll node.children < countAll (node :: rest) ∧
            countAll rest < countAll (node :: rest) := by
          simp only [countAll, count_eq node]
          omega
        simp only [sketches_cons, List.cons_append, List.append_assoc, List.cons.injEq,
          Sketch.mk.injEq, true_and] at same
        rcases same with ⟨⟨keys, texts, branches⟩, below⟩
        rcases ih _ smaller.1 (ends.siblings parent rest) (otherEnds.siblings other later) below rfl
          with ⟨children, siblings⟩
        rcases ih _ smaller.2 ends otherEnds siblings rfl with ⟨rests, afters⟩
        rw [eq_of_parts keys texts branches children, rests]
        exact ⟨rfl, afters⟩

theorem canonicalForm_eq_flatMap (roots : List Node) :
    canonicalForm roots =
      (preorder 0 none roots).flatMap fun visited => canonicalLine visited.depth visited.node := by
  rw [canonicalForm, walkDepths_eq_preorder, List.flatMap_map]

/-- No two forests have one canonical form. -/
theorem canonicalForm_injective : Function.Injective canonicalForm := by
  intro first second same
  rw [canonicalForm_eq_flatMap, canonicalForm_eq_flatMap] at same
  have sketched : sketches 0 none first ++ [] = sketches 0 none second ++ [] := by
    rw [sketches, sketches_eq_of_lines same, sketches]
  have ends : EndsBelow 0 [] := by simp [EndsBelow]
  exact (eq_of_sketches ends ends sketched).1

/-! ### Bytes -/

/-- The key, the codes and the texts of a node have no surrogates. -/
def IsEncodable (node : Node) : Prop :=
  node.key.isEncodable ∧
    ∀ entry ∈ node.texts.entries, entry.1.isEncodable ∧ entry.2.isEncodable

instance (node : Node) : Decidable node.IsEncodable :=
  inferInstanceAs (Decidable (_ ∧ _))

theorem isEncodable_pairText {entry : Text × Text}
    (encodable : entry.1.isEncodable ∧ entry.2.isEncodable) : (pairText entry).isEncodable := by
  have code : (quote .compact entry.1).isEncodable := Json.isEncodable_quote encodable.1
  have text : (quote .compact entry.2).isEncodable := Json.isEncodable_quote encodable.2
  simp [pairText, code, text, CodePoint.isSurrogate]

theorem isEncodable_pairsText {entries : List (Text × Text)}
    (encodable : ∀ entry ∈ entries, entry.1.isEncodable ∧ entry.2.isEncodable) :
    (pairsText entries).isEncodable := by
  cases entries with
  | nil => rfl
  | cons entry rest =>
    rw [List.forall_mem_cons] at encodable
    rw [pairsText, Text.isEncodable_append]
    refine ⟨isEncodable_pairText encodable.1, Text.isEncodable_flatMap fun other member => ?_⟩
    rw [Text.isEncodable_cons]
    exact ⟨rfl, isEncodable_pairText (encodable.2 other member)⟩

theorem isEncodable_line {visited : Visited} (encodable : visited.node.IsEncodable) :
    (canonicalLine visited.depth visited.node).isEncodable := by
  have key : (quote .compact visited.node.key).isEncodable := Json.isEncodable_quote encodable.1
  have pairs := isEncodable_pairsText encodable.2
  have depth : (Numeral.natural visited.depth).isEncodable := Json.isEncodable_inBase 10 visited.depth
  have flag : (flagText visited.node.isBranch).isEncodable := by
    cases visited.node.isBranch <;> decide
  rw [← List.append_nil (canonicalLine _ _), canonicalLine_append]
  simp [Sketch.line, Visited.sketch, key, pairs, depth, flag, CodePoint.isSurrogate]

theorem isEncodable_canonicalForm {roots : List Node}
    (encodable : ∀ visited ∈ walk roots, visited.2.IsEncodable) :
    (canonicalForm roots).isEncodable := by
  rw [walk_eq_preorder, List.forall_mem_map] at encodable
  rw [canonicalForm_eq_flatMap]
  exact Text.isEncodable_flatMap fun visited member => isEncodable_line (encodable visited member)

/-- The hash of a forest without surrogates is that of the bytes of its canonical form, and these bytes
determine the forest. -/
theorem encoded_forms_eq_iff {first second : List Node}
    (firstEncodable : ∀ visited ∈ walk first, visited.2.IsEncodable)
    (secondEncodable : ∀ visited ∈ walk second, visited.2.IsEncodable) :
    (∃ bytes, Utf8.encode? (canonicalForm first) = .ok bytes ∧
        forestHash first = Sha256.hexDigest bytes) ∧
      (Utf8.encode? (canonicalForm first) = Utf8.encode? (canonicalForm second) ↔
        first = second) := by
  have formFirst := isEncodable_canonicalForm firstEncodable
  have formSecond := isEncodable_canonicalForm secondEncodable
  refine ⟨⟨_, Utf8.encode?_of_isEncodable formFirst, rfl⟩, ?_⟩
  rw [Utf8.encode?_of_isEncodable formFirst, Utf8.encode?_of_isEncodable formSecond, Except.ok.injEq,
    Utf8.encode_inj formFirst formSecond, canonicalForm_injective.eq_iff]

/-! Two forests with the same keys and texts in the same order. A quote, a line break and the marks of the
lines stand in a text, and only the empty branch tells the forests apart. -/

theorem encoded_forms_eq_iff_empty_branch :
    Utf8.encode? (canonicalForm [.branch "a" .empty [], .leaf "b" (.ofList [("en", "\"],\n[0")])]) ≠
      Utf8.encode? (canonicalForm [.leaf "a" .empty, .leaf "b" (.ofList [("en", "\"],\n[0")])]) := by
  rw [Ne, (encoded_forms_eq_iff (by decide +kernel) (by decide +kernel)).2]
  simp

end Phrasebook.Node
