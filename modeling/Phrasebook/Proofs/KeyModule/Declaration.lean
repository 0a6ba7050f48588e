import Phrasebook.KeyModule.Member
import Phrasebook.Proofs.Key.Identifier
import Phrasebook.Proofs.Outcome

/-!
# Declarations for forests

What the members of a class must be for the nodes of a forest: a constant for each leaf and each branch
with texts, and after it a class for each branch, with what its children must be. The members that are
made for a forest are these, each class has distinct names in it, and all names are identifiers and no
keywords.
-/

namespace Phrasebook.KeyModule

open Outcome

/-- Members declare the nodes below a parent, in order. -/
inductive Declares : Option Text → List Node → List Member → Prop where
  | nil {parent : Option Text} : Declares parent [] []
  | leaf {parent : Option Text} {key name : Text} {texts : LocalTexts} {rest : List Node}
      {later : List Member} (valid : Key.isValid key) (named : Key.constantName? key = some name)
      (others : Declares parent rest later) :
      Declares parent (.leaf key texts :: rest)
        (.constant name (KeyPath.join parent key) texts.entries :: later)
  | branch {parent : Option Text} {key name : Text} {texts : LocalTexts}
      {children rest : List Node} {members later : List Member} (valid : Key.isValid key)
      (textless : texts.entries = []) (named : Key.className? key = some name)
      (inner : Declares (some (KeyPath.join parent key)) children members)
      (others : Declares parent rest later) :
      Declares parent (.branch key texts children :: rest) (.nested name members :: later)
  | branchWithTexts {parent : Option Text} {key constantName name : Text} {texts : LocalTexts}
      {children rest : List Node} {members later : List Member} (valid : Key.isValid key)
      (given : texts.entries ≠ []) (constantNamed : Key.constantName? key = some constantName)
      (named : Key.className? key = some name)
      (inner : Declares (some (KeyPath.join parent key)) children members)
      (others : Declares parent rest later) :
      Declares parent (.branch key texts children :: rest)
        (.constant constantName (KeyPath.join parent key) texts.entries ::
          .nested name members :: later)

/-- The names in a class are distinct identifiers and no keywords, and so are those in the classes in
it. -/
inductive WellNamed : List Member → Prop where
  | intro {members : List Member} (distinct : (members.map Member.name).Nodup)
      (free : ∀ member ∈ members, Key.IsFreeName member.name)
      (inner : ∀ name nested, .nested name nested ∈ members → WellNamed nested) : WellNamed members

variable {parent : Option Text} {taken : List Text} {depth : Nat} {key keyPath : Text}

theorem Declares.append {node : Node} {rest : List Node} {first later : List Member}
    (here : Declares parent [node] first) (others : Declares parent rest later) :
    Declares parent (node :: rest) (first ++ later) := by
  cases here with
  | leaf valid named none =>
    cases none
    exact .leaf valid named others
  | branch valid textless named inner none =>
    cases none
    exact .branch valid textless named inner others
  | branchWithTexts valid given constantNamed named inner none =>
    cases none
    exact .branchWithTexts valid given constantNamed named inner others

theorem WellNamed.append {first later : List Member} (here : WellNamed first)
    (others : WellNamed later) (fresh : ∀ member ∈ later, member.name ∉ first.map Member.name) :
    WellNamed (first ++ later) := by
  rcases here with ⟨distinct, free, inner⟩
  rcases others with ⟨laterDistinct, laterFree, laterInner⟩
  constructor
  · rw [List.map_append, List.nodup_append]
    refine ⟨distinct, laterDistinct, ?_⟩
    rintro name inFirst other inLater rfl
    rcases List.mem_map.mp inLater with ⟨member, isLater, rfl⟩
    exact fresh member isLater inFirst
  · intro member given
    rcases List.mem_append.mp given with isFirst | isLater
    · exact free member isFirst
    · exact laterFree member isLater
  · intro name nested given
    rcases List.mem_append.mp given with isFirst | isLater
    · exact inner name nested isFirst
    · exact laterInner name nested isLater

/-! ### Names -/

theorem nameFor_eq_ok {make : Text → Option Text} {name : Text} :
    nameFor make key keyPath = .ok name ↔ Key.isValid key ∧ make key = some name := by
  unfold nameFor
  cases Key.isValid key with
  | false => simp
  | true => cases make key <;> simp

theorem claim_eq_ok {name : Text} {answer : Unit} :
    claim taken name keyPath = .ok answer ↔ name ∉ taken := by
  unfold claim
  simp only [List.contains_iff_mem]
  split <;> simp_all

theorem constantFor_eq_ok {texts : LocalTexts} {member : Member} :
    constantFor taken key keyPath texts = .ok member ↔
      ∃ name, Key.isValid key ∧ Key.constantName? key = some name ∧ name ∉ taken ∧
        member = .constant name keyPath texts.entries := by
  simp only [constantFor, bind_eq_ok, nameFor_eq_ok, claim_eq_ok, pure_eq_ok]
  constructor
  · rintro ⟨name, ⟨valid, named⟩, _, fresh, rfl⟩
    exact ⟨name, valid, named, fresh, rfl⟩
  · rintro ⟨name, valid, named, fresh, rfl⟩
    exact ⟨name, ⟨valid, named⟩, (), fresh, rfl⟩

theorem classNameFor_eq_ok {name : Text} :
    classNameFor taken depth key keyPath = .ok name ↔
      Key.isValid key ∧ Key.className? key = some name ∧ depth + 1 ≤ nestingLimit ∧ name ∉ taken := by
  simp only [classNameFor, bind_eq_ok, nameFor_eq_ok]
  constructor
  · rintro ⟨made, ⟨valid, named⟩, rest⟩
    split at rest
    · simp at rest
    · simp only [bind_eq_ok, claim_eq_ok, pure_eq_ok] at rest
      rcases rest with ⟨_, fresh, rfl⟩
      exact ⟨valid, named, by omega, fresh⟩
  · rintro ⟨valid, named, bounded, fresh⟩
    refine ⟨name, ⟨valid, named⟩, ?_⟩
    rw [if_neg (by omega)]
    simpa [claim_eq_ok] using fresh

/-! ### Members -/

/-- Members declare the nodes below a parent, and their names are good ones that are not taken. -/
structure Declared (parent : Option Text) (taken : List Text) (nodes : List Node)
    (members : List Member) : Prop where
  declares : Declares parent nodes members
  named : WellNamed members
  fresh : ∀ member ∈ members, member.name ∉ taken

theorem Declared.nil : Declared parent taken [] [] :=
  ⟨.nil, ⟨.nil, by simp, by simp⟩, by simp⟩

theorem Declared.append {node : Node} {rest : List Node} {first later : List Member}
    (here : Declared parent taken [node] first)
    (others : Declared parent (first.map Member.name ++ taken) rest later) :
    Declared parent taken (node :: rest) (first ++ later) := by
  have apart : ∀ member ∈ later, member.name ∉ first.map Member.name ∧ member.name ∉ taken := by
    intro member given
    have := others.fresh member given
    rw [List.mem_append, not_or] at this
    exact this
  refine ⟨here.declares.append others.declares,
    here.named.append others.named fun member given => (apart member given).1, ?_⟩
  intro member given
  rcases List.mem_append.mp given with isFirst | isLater
  · exact here.fresh member isFirst
  · exact (apart member isLater).2

/-- A name for a constant alone. -/
theorem WellNamed.constant {name : Text} {texts : List (Text × Text)} (free : Key.IsFreeName name) :
    WellNamed [.constant name keyPath texts] :=
  ⟨by simp, by simpa [Member.name] using free, by simp⟩

theorem WellNamed.nested {name : Text} {members : List Member} (free : Key.IsFreeName name)
    (inner : WellNamed members) : WellNamed [.nested name members] :=
  ⟨by simp, by simpa [Member.name] using free, by simpa using inner⟩

mutual

/-- The members made for a node declare it. -/
theorem declared_of_membersOf {depth : Nat} {parent : Option Text} {taken : List Text} (node : Node)
    {members : List Member} (made : membersOf depth parent taken node = .ok members) :
    Declared parent taken [node] members := by
  cases node with
  | leaf key texts =>
    simp only [membersOf, bind_eq_ok, constantFor_eq_ok, pure_eq_ok] at made
    rcases made with ⟨_, ⟨name, valid, named, fresh, rfl⟩, rfl⟩
    exact ⟨.leaf valid named .nil, .constant (Key.isFreeName_of_identifier? named),
      by simpa [Member.name] using fresh⟩
  | branch key texts children =>
    unfold membersOf at made
    dsimp only at made
    split at made
    · rename_i textless
      simp only [bind_eq_ok, classNameFor_eq_ok, pure_eq_ok, exists_eq_left'] at made
      rcases made with ⟨name, ⟨valid, named, _, fresh⟩, members, below, rfl⟩
      have inner := declared_of_membersOfAll children below
      refine ⟨.branch valid (List.isEmpty_iff.mp textless) named inner.declares .nil,
        .nested (Key.isFreeName_of_identifier? named) inner.named, ?_⟩
      simpa [Member.name] using fresh
    · rename_i given
      simp only [bind_eq_ok, constantFor_eq_ok, classNameFor_eq_ok, pure_eq_ok,
        exists_eq_left'] at made
      rcases made with ⟨_, ⟨constantName, valid, constantNamed, free, rfl⟩, name, ⟨_, named, _, fresh⟩,
        members, below, rfl⟩
      have inner := declared_of_membersOfAll children below
      simp only [List.map_cons, List.map_nil, Member.name, List.singleton_append, List.mem_cons,
        not_or] at fresh
      refine ⟨.branchWithTexts valid (mt List.isEmpty_iff.mpr given) constantNamed named inner.declares .nil,
        (WellNamed.constant (Key.isFreeName_of_identifier? constantNamed)).append
          (.nested (Key.isFreeName_of_identifier? named) inner.named) ?_, ?_⟩
      · simpa [Member.name] using fresh.1
      · simpa [Member.name] using ⟨free, fresh.2⟩

/-- The members made for nodes declare them. -/
theorem declared_of_membersOfAll {depth : Nat} {parent : Option Text} {taken : List Text}
    (nodes : List Node) {members : List Member}
    (made : membersOfAll depth parent taken nodes = .ok members) :
    Declared parent taken nodes members := by
  cases nodes with
  | nil =>
    simp only [membersOfAll, pure_eq_ok] at made
    subst made
    exact .nil
  | cons node rest =>
    simp only [membersOfAll, bind_eq_ok, pure_eq_ok] at made
    rcases made with ⟨first, here, later, others, rfl⟩
    exact (declared_of_membersOf node here).append (declared_of_membersOfAll rest others)

end

end Phrasebook.KeyModule
