import Phrasebook.KeyModule.Stamp
import Phrasebook.Proofs.KeyModule.RoundTrip
import Phrasebook.Proofs.Language.Registry
import Phrasebook.Proofs.Number.Numeral

/-!
# Lines of the text of a module

A module is written line by line, and the lines of its text are the ones that were written exactly if none
of them has a break in it. Names, key paths and the texts in comments cannot break a line, and no more can
a hash that was computed. The codes of languages are written as they are: a code with a break ends its
comment, and what follows the break in it becomes a line of the module.
-/

namespace Phrasebook.KeyModule

open Document

/-! ### Lines of a text -/

theorem not_mem_unifyBreaks (text : Text) : .scalar '\r' ∉ TextFile.unifyBreaks text := by
  fun_induction TextFile.unifyBreaks text <;> simp_all [eq_comm]

theorem inOneLine_of_mem_allLines {text line : Text} (listed : line ∈ allLines text) :
    InOneLine line := by
  have cut : line ∈ (TextFile.unifyBreaks text).splitOn '\n' := by
    simp only [allLines] at listed
    split at listed
    · exact List.dropLast_subset _ listed
    · exact listed
  intro point inside
  constructor
  · rintro rfl
    exact Text.not_mem_of_mem_splitOn cut inside
  · rintro rfl
    exact not_mem_unifyBreaks text (Text.mem_of_mem_splitOn cut inside)

/-- Lines that end with line feeds are the lines of their text exactly if no break stands in one. -/
theorem allLines_joinWith {lines : List Text} (given : lines ≠ []) :
    allLines (Text.joinWith "\n" lines ++ "\n") = lines ↔ ∀ line ∈ lines, InOneLine line := by
  constructor
  · intro same line listed
    rw [← same] at listed
    exact inOneLine_of_mem_allLines listed
  · intro flat
    simp [allLines, splitOn_joinWith_lines given flat]

/-! ### Lines of a module -/

theorem inOneLine_append {first second : Text} :
    InOneLine (first ++ second) ↔ InOneLine first ∧ InOneLine second := List.forall_mem_append

/-- A comment holds a break, or the character that no module may hold, exactly if its code does. -/
theorem unbroken_commentLine {code text : Text} :
    Unbroken (commentLine code text) ↔ Unbroken code := by
  have opening : Unbroken "#: " := by decide
  have colon : Unbroken ": " := by decide
  have shown := unbroken_commentText text
  unfold Unbroken at *
  simp only [commentLine, List.forall_mem_append]
  constructor
  · exact fun whole => whole.1.1.2
  · exact fun unbroken => ⟨⟨⟨opening, unbroken⟩, colon⟩, shown⟩

section Comments

variable {width : Nat} {constant : Constant} {entry : Text × Text}

theorem spacedLines_of_ne_nil {depth : Nat} {members : List Member} (given : members ≠ []) :
    spacedLines width depth members = [] :: bodyLines width depth members := by
  cases members with
  | nil => exact absurd rfl given
  | cons first rest => rfl

theorem ne_nil_of_mem_constantsIn {members : List Member} (given : constant ∈ constantsIn members) :
    members ≠ [] := by
  rintro rfl
  cases given

mutual

theorem commentLine_mem_lines (depth : Nat) (member : Member) (given : constant ∈ member.constants)
    (stored : entry ∈ constant.texts) :
    ∃ inner, indentation width inner ++ commentLine entry.1 entry.2 ∈ member.lines width depth := by
  cases member with
  | constant name keyPath texts =>
    rw [Member.constants, List.mem_singleton] at given
    subst given
    refine ⟨depth, List.mem_map_of_mem (List.mem_append_left _ ?_)⟩
    exact List.mem_map.mpr ⟨entry, stored, rfl⟩
  | nested name members =>
    rw [Member.constants] at given
    rcases commentLine_mem_bodyLines (depth + 1) members given stored with ⟨inner, written⟩
    exact ⟨inner, List.mem_cons_of_mem _ written⟩

/-- The comments of all constants, those of the classes in a class included, are lines of its body. -/
theorem commentLine_mem_bodyLines (depth : Nat) (members : List Member)
    (given : constant ∈ constantsIn members) (stored : entry ∈ constant.texts) :
    ∃ inner,
      indentation width inner ++ commentLine entry.1 entry.2 ∈ bodyLines width depth members := by
  cases members with
  | nil => cases given
  | cons first rest =>
    rw [constantsIn, List.mem_append] at given
    rcases given with here | later
    · rcases commentLine_mem_lines depth first here stored with ⟨inner, written⟩
      exact ⟨inner, List.mem_append_left _ written⟩
    · rcases commentLine_mem_bodyLines depth rest later stored with ⟨inner, written⟩
      rw [bodyLines, spacedLines_of_ne_nil (ne_nil_of_mem_constantsIn later)]
      exact ⟨inner, List.mem_append_right _ (List.mem_cons_of_mem _ written)⟩

end

end Comments

theorem Declares.exists_constant {roots : List Node} {members : List Member} {entry : Text × Node}
    (declares : Declares none roots members) (met : entry ∈ Node.walk roots)
    (given : entry.2.texts.entries ≠ []) :
    ∃ constant ∈ constantsIn members, constant.texts = entry.2.texts.entries := by
  have gets : getsConstant entry.2 := by
    simp [getsConstant, Node.hasText, LocalTexts.isEmpty, given]
  rw [Place.walk_eq_map_all] at met
  have listed : entry ∈ (Place.entriesBelow none roots).filter fun other => getsConstant other.2 :=
    List.mem_filter.mpr ⟨met, gets⟩
  rcases exists_of_forall₂ declares.constants.flip listed with ⟨constant, isConstant, belongs⟩
  exact ⟨constant, isConstant, belongs.texts⟩

/-- The lines of a module have no breaks in them exactly if the hash and the codes in the forest have
none. -/
theorem inOneLine_moduleLines_iff {options : Options} {hash : Text} {roots : List Node}
    {members : List Member}
    (free : ∀ name ∈ options.namespaces ++ [options.rootClass], Key.IsFreeName name)
    (declares : Declares none roots members) (named : WellNamed members) :
    (∀ line ∈ moduleLines options hash members, InOneLine line) ↔
      InOneLine hash ∧
        ∀ entry ∈ Node.walk roots, ∀ code ∈ entry.2.texts.codes, InOneLine code := by
  constructor
  · intro flat
    simp only [moduleLines, openingLines, List.forall_mem_append] at flat
    constructor
    · have stamped := flat.1.1.1 (hashMark ++ hash) (by simp [headerLines])
      exact (inOneLine_append.mp stamped).2
    · intro entry met code given
      rcases List.mem_map.mp given with ⟨stored, inTexts, rfl⟩
      rcases declares.exists_constant met (List.ne_nil_of_mem inTexts) with ⟨constant, isConstant, same⟩
      rw [← same] at inTexts
      rcases commentLine_mem_bodyLines (options.namespaces.length + 1) members isConstant inTexts with
        ⟨inner, written⟩
      have spaced := flat.2
      rw [spacedLines_of_ne_nil (ne_nil_of_mem_constantsIn isConstant), List.forall_mem_cons] at spaced
      have comment := (inOneLine_append.mp (spaced.2 _ written)).2
      simp only [commentLine, inOneLine_append] at comment
      exact comment.1.1.2
  · rintro ⟨flat, codes⟩
    exact inOneLine_moduleLines free (Readable.of_declares declares named codes) flat

/-- A hash that was computed has digits only. -/
theorem mem_hexDigits_of_mem_contentHash {content : Text} :
    ∀ point ∈ contentHash content, point ∈ Numeral.hexDigits := by
  intro point member
  simp only [contentHash, Sha256.hexDigest, Text.concat] at member
  rcases List.mem_flatten.mp member with ⟨_, listed, inside⟩
  rcases List.mem_map.mp listed with ⟨word, _, rfl⟩
  exact Numeral.mem_hexDigits_of_mem_padded point inside

theorem inOneLine_contentHash (content : Text) : InOneLine (contentHash content) := by
  have digits : InOneLine Numeral.hexDigits := by decide
  intro point member
  exact digits point (mem_hexDigits_of_mem_contentHash point member)

/-- The text of an emitted module has the lines that were written for it, no more and no less, exactly if
the hash of the tree has no break and, as soon as a node has texts, no code of the registry has one. Each
comment is sound exactly if its code is. A hash that was computed never breaks a line. -/
theorem allLines_emitted {registry : Registry} {tree : Tree} {namespacePath : Option Text}
    {indentWidth : Int} {rootClass : Text} {options : Options} {text : Text}
    (parsed : Parsed registry tree)
    (accepted : Options.make namespacePath indentWidth rootClass = .ok options)
    (emitted : (emit options tree).result = .ok text) :
    ∃ members, Declares none tree.roots members ∧
      text = Text.joinWith "\n" (moduleLines options tree.sourceHash members) ++ "\n" ∧
      (∀ constant ∈ constantsIn members, ∀ entry ∈ constant.texts,
        (Unbroken (commentLine entry.1 entry.2) ↔ Unbroken entry.1)) ∧
      (allLines text = moduleLines options tree.sourceHash members ↔
        InOneLine tree.sourceHash ∧
          ((∃ entry ∈ tree.walk, entry.2.hasText) → ∀ code ∈ registry.codes, InOneLine code)) ∧
      ∀ content, tree.sourceHash = contentHash content → InOneLine tree.sourceHash := by
  have given := Options.accepted_of_make accepted
  rcases emit_eq_ok.mp emitted with ⟨_, members, made, rfl⟩
  have declared := declared_of_membersOfAll _ made
  have nonempty : moduleLines options tree.sourceHash members ≠ [] := by
    simp [moduleLines, openingLines, headerLines]
  refine ⟨members, declared.declares, rfl, fun _ _ _ _ => unbroken_commentLine, ?_, ?_⟩
  · rw [allLines_joinWith nonempty,
      inOneLine_moduleLines_iff given.free declared.declares declared.named, ← parsed.forall_codes_iff]
    rfl
  · intro content computed
    rw [computed]
    exact inOneLine_contentHash content

theorem allLines_emitted_dotted :
    ∃ options text members,
      Options.make (some "game.text") 3 defaultRootClass = .ok options ∧
      (emit options dottedTree).result = .ok text ∧ Declares none dottedForest members ∧
      allLines text = moduleLines options "0" members := by
  have accepted : Options.make (some "game.text") 3 defaultRootClass =
      .ok ⟨["game", "text"], 3, defaultRootClass⟩ := by
    decide +kernel
  have succeeds : (emit ⟨["game", "text"], 3, defaultRootClass⟩ dottedTree).result.toOption.isSome := by
    decide +kernel
  have codes : ∀ code ∈ Registry.builtIn.codes, InOneLine code := by decide
  cases emitted : (emit ⟨["game", "text"], 3, defaultRootClass⟩ dottedTree).result with
  | error failure => simp [emitted, Except.toOption] at succeeds
  | ok text =>
    rcases allLines_emitted parsed_dotted accepted emitted with ⟨members, declares, _, _, lines, _⟩
    have same := lines.mpr ⟨show InOneLine "0" by decide, fun _ => codes⟩
    exact ⟨_, text, members, accepted, emitted, declares, same⟩

/-! A code with a line break, and a text with one. Only the break in the text is flattened. -/

/-- The code of this language goes on after a line break. -/
def brokenCode : Text := "en\n    X = 1 #"

/-- A registry with this language alone. -/
def brokenRegistry : Registry where
  languages := [⟨0, brokenCode, "E"⟩]
  fallback := ⟨0, brokenCode, "E"⟩
  fallback_mem := by simp
  codes_distinct := by simp
  ids_distinct := by simp

/-- The tree of a document with one leaf. -/
def brokenTree : Tree :=
  .make [.leaf "a" ⟨[(brokenCode, "t\nu")], by simp⟩] [brokenCode] "0" []

theorem parsed_broken : Parsed brokenRegistry brokenTree := by
  have distinct := codes_nodup brokenRegistry
  have leaf := head_of_readEntry distinct ⟨rfl, by decide⟩
    (show readEntry _ _ "a" [("key", .text "a"), (brokenCode, .text "t\nu")] =
      .ok ⟨_, _, ⟨[(brokenCode, "t\nu")], by simp⟩, none⟩ from rfl)
  have quiet : forestWarnings brokenTree.roots = [] := by decide +kernel
  have parsed : Parsed brokenRegistry (.make brokenTree.roots brokenRegistry.codes "0" _) :=
    .of_translates "0" ⟨_, rfl, .cons (.leaf leaf (Or.inl rfl)) .nil⟩
  rw [quiet] at parsed
  exact parsed

/-- The registry is accepted, and a line of the module for this tree is a statement from a code. -/
theorem code_adds_line :
    brokenRegistry.Accepted ∧ Parsed brokenRegistry brokenTree ∧
      ((membersOfAll 1 none [] brokenTree.roots).toOption.map fun members =>
          (moduleLines plainOptions "0" members).drop 10) =
        some [.ofString "    #: en\n    X = 1 #: t u", .ofString "    a = \"a\""] ∧
      ((emit plainOptions brokenTree).result.toOption.map fun text => (allLines text).drop 10) =
        some [.ofString "    #: en", .ofString "    X = 1 #: t u", .ofString "    a = \"a\""] := by
  refine ⟨⟨brokenRegistry.languages, [], rfl⟩, parsed_broken, ?_, ?_⟩
  · decide +kernel
  · decide +kernel

end Phrasebook.KeyModule
