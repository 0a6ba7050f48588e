import Phrasebook.Key.Path
import Phrasebook.KeyModule.Writer

/-!
# Members of key modules

What a forest becomes in a key module, by recursion on the forest: a constant for every node with a text of
its own and for every leaf, and a class for every branch, which holds the members of its children. Names
within one class are distinct, and classes are not nested too deep. The writer of a key module writes the
lines of these members.
-/

namespace Phrasebook.KeyModule

/-- A member of a class. -/
inductive Member where
  /-- A constant for a key path, with the texts that its comments show. -/
  | constant (name keyPath : Text) (texts : List (Text × Text))
  /-- A class of its own, with its members. -/
  | nested (name : Text) (members : List Member)

/-- The name of a member. -/
def Member.name : Member → Text
  | .constant name _ _ => name
  | .nested name _ => name

/-- The constant for a node, in a class where some names are taken. -/
def constantFor (taken : List Text) (key keyPath : Text) (texts : LocalTexts) :
    Except Problem Member := do
  let name ← nameFor Key.constantName? key keyPath
  claim taken name keyPath
  return .constant name keyPath texts.entries

/-- The name of the class for a branch. The class stands at a depth, and its members one deeper. -/
def classNameFor (taken : List Text) (depth : Nat) (key keyPath : Text) : Except Problem Text := do
  let name ← nameFor Key.className? key keyPath
  if nestingLimit < depth + 1 then throw (.nestingTooDeep keyPath nestingLimit)
  claim taken name keyPath
  return name

mutual

/-- The members for a node below a parent, at a depth of classes. -/
def membersOf (depth : Nat) (parent : Option Text) (taken : List Text) :
    Node → Except Problem (List Member)
  | .leaf key texts => do
    return [← constantFor taken key (KeyPath.join parent key) texts]
  | .branch key texts children => do
    let keyPath := KeyPath.join parent key
    let constants ←
      if texts.isEmpty then pure []
      else do pure [← constantFor taken key keyPath texts]
    let name ← classNameFor (constants.map Member.name ++ taken) depth key keyPath
    let members ← membersOfAll (depth + 1) (some keyPath) [] children
    return constants ++ [.nested name members]

/-- The members for nodes below a parent, in a class where some names are taken. -/
def membersOfAll (depth : Nat) (parent : Option Text) (taken : List Text) :
    List Node → Except Problem (List Member)
  | [] => return []
  | node :: rest => do
    let members ← membersOf depth parent taken node
    return members ++ (← membersOfAll depth parent (members.map Member.name ++ taken) rest)

end

/-! ### Lines -/

mutual

/-- The lines of a member at a depth. -/
def Member.lines (width depth : Nat) : Member → List Text
  | .constant name keyPath texts =>
    (texts.map (fun entry => commentLine entry.1 entry.2) ++ [constantLine name keyPath]).map
      (indentation width depth ++ ·)
  | .nested name members =>
    (indentation width depth ++ classLine name) :: bodyLines width (depth + 1) members

/-- The lines of the members of a class at their depth. -/
def bodyLines (width depth : Nat) : List Member → List Text
  | [] => [indentation width depth ++ "pass"]
  | first :: rest => Member.lines width depth first ++ spacedLines width depth rest

/-- The lines of members, each after a blank line. -/
def spacedLines (width depth : Nat) : List Member → List Text
  | [] => []
  | member :: rest => [] :: (Member.lines width depth member ++ spacedLines width depth rest)

end

end Phrasebook.KeyModule
