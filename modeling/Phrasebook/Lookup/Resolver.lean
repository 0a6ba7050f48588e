import Phrasebook.Failure
import Phrasebook.Language.Registry
import Phrasebook.Tree

/-!
# Looking up texts

A key path leads from a root to a node by the first node with each key. The text of the node in a
language is its own, or that in the fallback language if it has texts but not in this one. Then line
breaks that are escaped in the text are made, and tokens are replaced if values are given for them.

A strict look-up fails where a permissive one answers with a text that shows what is wrong.
-/

namespace Phrasebook

/-- A way to look up texts in a tree. -/
structure Resolver where
  tree : Tree
  /-- The languages that may be asked for; without them all codes may. -/
  registry : Option Registry
  /-- Whether look-ups fail. -/
  strict : Bool
  /-- The code of the language used when a node lacks the one that is asked for. -/
  fallback : Text

namespace Resolver

/-- The fallback language when neither a code nor a registry gives one. -/
def defaultFallback : Text := "en"

/-- The text in place of one that is not found. -/
def notLocalized (keyPath : Text) : Text := "String " ++ keyPath ++ " not localized!!!!!"

/-- Makes a resolver; a code given for the fallback comes before that of the registry. -/
def make (tree : Tree) (registry : Option Registry) (strict : Bool) (fallback : Option Text) :
    Resolver :=
  { tree, registry, strict
    fallback := fallback.getD ((registry.map fun languages => languages.fallback.code).getD
      defaultFallback) }

/-- Follows keys down from a node. -/
def follow (keyPath : Text) (node : Node) : List Text → Except Problem Node
  | [] => .ok node
  | key :: rest =>
    match node.child? key with
    | none => .error (.keyNotFound keyPath key)
    | some child => follow keyPath child rest

/-- The node at a key path. -/
def findNode (resolver : Resolver) (keyPath : Text) : Except Problem Node :=
  match KeyPath.segments keyPath with
  | [] => .error (.keyNotFound keyPath [])
  | first :: rest =>
    match resolver.tree.root? first with
    | none => .error (.keyNotFound keyPath first)
    | some root => follow keyPath root rest

/-- Refuses a code that no language has. -/
def checkLanguage (resolver : Resolver) (language : Text) : Except Problem Unit :=
  match resolver.registry with
  | none => .ok ()
  | some registry => (registry.get language).map fun _ => ()

/-- The text of a node in a language, or else in the fallback language. -/
def nodeText (resolver : Resolver) (language keyPath : Text) (node : Node) :
    Reported Problem Text :=
  match node.textFor language with
  | some text => return text
  | none =>
    match node.textFor resolver.fallback with
    | some text => do
      Reported.report (.fallbackUsed keyPath language resolver.fallback)
      return text
    | none => throw (.textNotFound keyPath language)

/-- The text stored at a key path for a language. -/
def storedText (resolver : Resolver) (language keyPath : Text) : Reported Problem Text := do
  resolver.checkLanguage language
  let node ← resolver.findNode keyPath
  resolver.nodeText language keyPath node

/-- The failure of a substitution at a key path. -/
def substitutionFailure (keyPath : Text) : Template.SubstitutionFailure → Failure
  | .invalid fault => .problem (.substitutionInvalid fault keyPath)
  | .missing name => .problem (.substitutionMissing name keyPath)
  | .overflow overflow => .overflow overflow

/-- Replaces the tokens of a text at a key path. -/
def substitute (keyPath text : Text) (values : Fields) : Except Failure Text :=
  (Template.substitute text values).mapError (substitutionFailure keyPath)

/-- Looks up a text; a problem ends the look-up. -/
def resolveStrictly (resolver : Resolver) (language keyPath : Text) (values : Option Fields) :
    Reported Failure Text := do
  let stored ← (resolver.storedText language keyPath).mapError .problem
  let text := Template.unescapeNewlines stored
  match values with
  | none => return text
  | some values => substitute keyPath text values

/-- Looks up a text; a problem comes beside the text that is used in its place. That is the text
without substitution, or a text that names the key path. -/
def resolveWithProblem (resolver : Resolver) (language keyPath : Text) (values : Option Fields) :
    Reported Failure (Text × Option Problem) :=
  let stored := resolver.storedText language keyPath
  match stored.result with
  | .error problem => ⟨stored.events, .ok (notLocalized keyPath, some problem)⟩
  | .ok found =>
    let text := Template.unescapeNewlines found
    match values with
    | none => ⟨stored.events, .ok (text, none)⟩
    | some values =>
      match substitute keyPath text values with
      | .ok replaced => ⟨stored.events, .ok (replaced, none)⟩
      | .error (.problem problem) => ⟨stored.events, .ok (text, some problem)⟩
      | .error failure => ⟨stored.events, .error failure⟩

/-- Looks up a text, strictly or permissively. -/
def resolve (resolver : Resolver) (language keyPath : Text) (values : Option Fields) :
    Reported Failure Text :=
  if resolver.strict then resolver.resolveStrictly language keyPath values
  else do
    let (text, problem) ← resolver.resolveWithProblem language keyPath values
    match problem with
    | none => return text
    | some problem => do
      Reported.report (.unresolved keyPath problem)
      return text

/-- The keys of the children of the branch at a key path. -/
def childKeys (resolver : Resolver) (keyPath : Text) : Except Problem (List Text) := do
  let node ← resolver.findNode keyPath
  if node.isBranch then return node.childKeys else throw (.notABranch keyPath)

end Resolver

end Phrasebook
