import Phrasebook.Failure
import Phrasebook.Key.Identifier

/-!
# Options of key modules

A key module holds one class for all keys, inside a class for each name of a namespace. All these names
must be identifiers as they stand, and the classes may not be nested deeper than the language of key
modules allows.
-/

namespace Phrasebook.KeyModule

/-- How deep classes may be nested. -/
def nestingLimit : Nat := 99

/-- The name of the class for all keys unless another is asked for. -/
def defaultRootClass : Text := "I18nKeys"

/-- The number of blanks for a level unless another is asked for. -/
def defaultIndent : Int := 4

/-- How a key module is written. -/
structure Options where
  /-- The names of the classes around that for all keys. -/
  namespaces : List Text
  /-- The number of blanks for a level. -/
  indentWidth : Nat
  rootClass : Text
deriving DecidableEq, Repr

/-- Whether a name can stand in a module as it is. -/
def isName (name : Text) : Bool := Text.isIdentifier name && Key.identifier? name = some name

/-- The names in a namespace, none if it is absent or empty. -/
def namespaceNames : Option Text → List Text
  | none | some [] => []
  | some path => path.splitOn '.'

/-- The first of some names that cannot stand in a module. -/
def badName? (names : List Text) : Option Text := names.find? fun name => !isName name

/-- What errors of the options name: the namespace, or the class for all keys. -/
def shownPath (namespacePath : Option Text) (rootClass : Text) : Text :=
  match namespacePath with
  | none | some [] => rootClass
  | some path => path

/-- Checks options. -/
def Options.make (namespacePath : Option Text) (indentWidth : Int) (rootClass : Text) :
    Except Failure Options :=
  let namespaces := namespaceNames namespacePath
  let shown := shownPath namespacePath rootClass
  if indentWidth < 1 then .error (.settings (.badWidth indentWidth))
  else
    match badName? (namespaces ++ [rootClass]) with
    | some name => .error (.problem (.invalidIdentifier name shown))
    | none =>
      if nestingLimit < namespaces.length + 1 then
        .error (.problem (.nestingTooDeep shown nestingLimit))
      else .ok ⟨namespaces, indentWidth.toNat, rootClass⟩

/-- The namespace of options as one path. -/
def Options.namespacePath (options : Options) : Option Text :=
  match Text.joinWith "." options.namespaces with
  | [] => none
  | path => some path

end Phrasebook.KeyModule
