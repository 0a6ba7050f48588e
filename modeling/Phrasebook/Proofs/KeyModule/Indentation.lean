import Phrasebook.Proofs.KeyModule.Declaration
import Phrasebook.Proofs.KeyModule.Lines

/-!
# Indentation of key modules

A line that is written at a depth of classes has the blanks of this depth in front, and no more of them. A
class is only made where the depth of its members is within the limit, so the lines of the members that
are made for a forest are within it, too.
-/

namespace Phrasebook.KeyModule

open Outcome

/-- The number of blanks at the start of a line. -/
def leadingBlanks (line : Text) : Nat := (line.takeWhile (· = .scalar ' ')).length

variable {width depth : Nat} {line : Text} {members : List Member}

theorem leadingBlanks_indented {content : Text} (stop : content.head? ≠ some (.scalar ' ')) :
    leadingBlanks (indentation width depth ++ content) = width * depth := by
  have blanks : ∀ point ∈ indentation width depth, decide (point = .scalar ' ') := by
    intro point member
    simpa using List.eq_of_mem_replicate member
  have unindented : ∀ point ∈ content.head?, ¬decide (point = .scalar ' ') := by
    rintro point first isBlank
    exact stop (first.trans (congrArg some (of_decide_eq_true isBlank)))
  rw [leadingBlanks, takeWhile_exact blanks unindented, indentation, List.length_replicate]

/-- A line at a depth within the limit is within it. -/
theorem leadingBlanks_le {content : Text} (stop : content.head? ≠ some (.scalar ' '))
    (around : depth ≤ nestingLimit) :
    leadingBlanks (indentation width depth ++ content) ≤ width * nestingLimit := by
  rw [leadingBlanks_indented stop]
  exact Nat.mul_le_mul_left width around

theorem head_constantLine {name keyPath : Text} (identifier : Text.isIdentifier name) :
    (constantLine name keyPath).head? ≠ some (.scalar ' ') := by
  have noBlank := not_mem_of_isIdentifier identifier (show .scalar ' ' ∈ Text.ofString " \"#\n\r" by decide)
  cases name with
  | nil => exact absurd identifier (by decide)
  | cons first rest =>
    intro blank
    cases blank
    exact noBlank List.mem_cons_self

theorem mem_spacedLines (written : line ∈ spacedLines width depth members) :
    line = [] ∨ ∃ member ∈ members, line ∈ member.lines width depth := by
  induction members with
  | nil => cases written
  | cons member rest ih =>
    rw [spacedLines, List.mem_cons, List.mem_append] at written
    rcases written with blank | here | later
    · exact Or.inl blank
    · exact Or.inr ⟨member, List.mem_cons_self, here⟩
    · exact (ih later).imp_right fun ⟨other, isLater, there⟩ => ⟨other, List.mem_cons_of_mem _ isLater, there⟩

theorem mem_bodyLines (written : line ∈ bodyLines width depth members) :
    line = indentation width depth ++ "pass" ∨ line = [] ∨
      ∃ member ∈ members, line ∈ member.lines width depth := by
  cases members with
  | nil => exact Or.inl (List.mem_singleton.mp written)
  | cons first rest =>
    rw [bodyLines, List.mem_append] at written
    rcases written with here | later
    · exact Or.inr (Or.inr ⟨first, List.mem_cons_self, here⟩)
    · exact Or.inr ((mem_spacedLines later).imp_right
        fun ⟨other, isLater, there⟩ => ⟨other, List.mem_cons_of_mem _ isLater, there⟩)

/-- The lines of a member are within the limit. -/
def IsShallow (width depth : Nat) (member : Member) : Prop :=
  ∀ line ∈ member.lines width depth, leadingBlanks line ≤ width * nestingLimit

theorem isShallow_constant {name keyPath : Text} {texts : List (Text × Text)} (around : depth ≤ nestingLimit)
    (identifier : Text.isIdentifier name) : IsShallow width depth (.constant name keyPath texts) := by
  simp only [IsShallow, Member.lines, List.map_append, List.forall_mem_append, List.forall_mem_map]
  constructor
  · intro entry _
    exact leadingBlanks_le (by simp [commentLine, Text.ofString]) around
  · intro line written
    rcases List.mem_singleton.mp written with rfl
    exact leadingBlanks_le (head_constantLine identifier) around

theorem isShallow_nested {name : Text} (around : depth + 1 ≤ nestingLimit)
    (inner : ∀ member ∈ members, IsShallow width (depth + 1) member) :
    IsShallow width depth (.nested name members) := by
  rw [IsShallow, Member.lines, List.forall_mem_cons]
  constructor
  · exact leadingBlanks_le (by simp [classLine, Text.ofString]) (Nat.le_of_succ_le around)
  · intro line written
    rcases mem_bodyLines written with rfl | rfl | ⟨member, isMember, there⟩
    · exact leadingBlanks_le (by decide) around
    · exact Nat.zero_le _
    · exact inner member isMember line there

mutual

theorem isShallow_of_membersOf (width : Nat) {depth : Nat} {parent : Option Text} {taken : List Text}
    (node : Node) {members : List Member} (made : membersOf depth parent taken node = .ok members)
    (around : depth ≤ nestingLimit) : ∀ member ∈ members, IsShallow width depth member := by
  cases node with
  | leaf key texts =>
    simp only [membersOf, bind_eq_ok, constantFor_eq_ok, pure_eq_ok] at made
    rcases made with ⟨_, ⟨name, _, named, _, rfl⟩, rfl⟩
    simpa using isShallow_constant around (Key.isFreeName_of_identifier? named).1
  | branch key texts children =>
    unfold membersOf at made
    dsimp only at made
    split at made
    · simp only [bind_eq_ok, classNameFor_eq_ok, pure_eq_ok, exists_eq_left'] at made
      rcases made with ⟨name, ⟨_, _, bounded, _⟩, members, below, rfl⟩
      simpa using isShallow_nested bounded (isShallow_of_membersOfAll width children below bounded)
    · simp only [bind_eq_ok, constantFor_eq_ok, classNameFor_eq_ok, pure_eq_ok, exists_eq_left'] at made
      rcases made with ⟨_, ⟨constantName, _, named, _, rfl⟩, name, ⟨_, _, bounded, _⟩, members, below, rfl⟩
      have inner := isShallow_of_membersOfAll width children below bounded
      simpa using ⟨isShallow_constant around (Key.isFreeName_of_identifier? named).1,
        isShallow_nested bounded inner⟩

theorem isShallow_of_membersOfAll (width : Nat) {depth : Nat} {parent : Option Text} {taken : List Text}
    (nodes : List Node) {members : List Member}
    (made : membersOfAll depth parent taken nodes = .ok members)
    (around : depth ≤ nestingLimit) : ∀ member ∈ members, IsShallow width depth member := by
  cases nodes with
  | nil =>
    simp only [membersOfAll, pure_eq_ok] at made
    subst made
    simp
  | cons node rest =>
    simp only [membersOfAll, bind_eq_ok, pure_eq_ok] at made
    rcases made with ⟨first, here, later, others, rfl⟩
    rw [List.forall_mem_append]
    exact ⟨isShallow_of_membersOf width node here around, isShallow_of_membersOfAll width rest others around⟩

end

theorem mem_namespaceLines {names : List Text} (written : line ∈ namespaceLines width depth names) :
    ∃ level, ∃ name ∈ names, level < depth + names.length ∧
      line = indentation width level ++ classLine name := by
  induction names generalizing depth with
  | nil => cases written
  | cons name rest ih =>
    rcases List.mem_cons.mp written with rfl | later
    · exact ⟨depth, name, List.mem_cons_self, by simp, rfl⟩
    · rcases ih later with ⟨level, other, isOther, bounded, rfl⟩
      refine ⟨level, other, List.mem_cons_of_mem _ isOther, ?_, rfl⟩
      rw [List.length_cons]
      omega

/-- If the classes around that for all keys fit in, then so do the lines of a module. -/
theorem leadingBlanks_moduleLines {options : Options} {hash : Text} {nodes : List Node}
    {members : List Member} (around : options.namespaces.length + 1 ≤ nestingLimit)
    (made : membersOfAll (options.namespaces.length + 1) none [] nodes = .ok members) :
    ∀ line ∈ moduleLines options hash members, leadingBlanks line ≤ options.indentWidth * nestingLimit := by
  simp only [moduleLines, openingLines, List.forall_mem_append]
  refine ⟨⟨⟨?header, ?namespaces⟩, ?description⟩, ?members⟩
  case header =>
    have unindented : ∀ line ∈ headerLines hash, leadingBlanks line = 0 := by
      simp [headerLines, leadingBlanks, hashMark, Text.ofString]
    intro line written
    rw [unindented line written]
    exact Nat.zero_le _
  case namespaces =>
    intro line written
    rcases mem_namespaceLines written with ⟨level, name, _, bounded, rfl⟩
    rw [List.length_append, List.length_singleton] at bounded
    exact leadingBlanks_le (by simp [classLine, Text.ofString]) (by omega)
  case description =>
    intro line written
    rcases List.mem_singleton.mp written with rfl
    exact leadingBlanks_le (by decide) around
  case members =>
    intro line written
    rcases mem_spacedLines written with rfl | ⟨member, isMember, there⟩
    · exact Nat.zero_le _
    · exact isShallow_of_membersOfAll options.indentWidth nodes made around member isMember line there

end Phrasebook.KeyModule
