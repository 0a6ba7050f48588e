import Phrasebook.Diagnostic
import Phrasebook.Json.Fault
import Phrasebook.Template.Substitution
import Phrasebook.Text.Utf8

/-!
# Problems

What can be wrong with documents, registries, look-ups and key modules, by cause. Every problem has
one diagnostic, which holds its wording.
-/

namespace Phrasebook

namespace Utf8

/-- The wording of a reason. -/
def Reason.message : Reason → Text
  | .invalidStart => "invalid start byte"
  | .invalidContinuation => "invalid continuation byte"
  | .unexpectedEnd => "unexpected end of data"

/-- The wording of a fault: one byte is shown, several are counted. -/
def Fault.message (fault : Fault) : Text :=
  let place : Text :=
    if fault.length = 1 then
      "byte 0x" ++ Numeral.padded 16 2 fault.first.toNat ++ " in position " ++
        Numeral.natural fault.position
    else
      "bytes in position " ++ Numeral.natural fault.position ++ "-" ++
        Numeral.natural (fault.position + fault.length - 1)
  "'utf-8' codec can't decode " ++ place ++ ": " ++ fault.reason.message

end Utf8

/-- Why a document has not the form of a resource document. -/
inductive SourceFault where
  | invalidUtf8 (fault : Utf8.Fault)
  | invalidJson (reason : Json.Reason) (place : Json.Place)
  /-- Its arrays and objects are nested too deep to be read. -/
  | nestedTooDeep
  /-- The document itself, or the children of a node, are no array. -/
  | notAnArray (nested : Bool)
  | notAnObject (index : Nat) (kindName : Text)
  | flagNotBoolean
  | textNotString (field : Text)
  | linesNotStrings (field : Text)
  | loneSurrogate (field : Text) (position : Nat)
  /-- A fault told in words. -/
  | told (reason : Text)
deriving DecidableEq, Repr

/-- The wording of a fault of a document. -/
def SourceFault.message : SourceFault → Text
  | .invalidUtf8 fault => "not valid UTF-8: " ++ fault.message
  | .invalidJson reason place => "invalid JSON: " ++ Json.describe reason place
  | .nestedTooDeep => "nesting too deep for the JSON decoder"
  | .notAnArray nested =>
    if nested then "'strings' must be an array of objects"
    else "top level must be an array of objects"
  | .notAnObject index kindName =>
    "element #" ++ Numeral.natural index ++ " is " ++ kindName ++ ", expected an object"
  | .flagNotBoolean => "'exclude_newline' must be a boolean"
  | .textNotString field => "'" ++ field ++ "' must be a string"
  | .linesNotStrings field => "'" ++ field ++ "' must be an array of strings"
  | .loneSurrogate field position =>
    "'" ++ field ++ "' contains a lone surrogate at position " ++ Numeral.natural position
  | .told reason => reason

/-- Why languages make no registry. -/
inductive RegistryFault where
  | noLanguages
  | emptyCode (id : Int)
  | duplicateCode (code : Text)
  | duplicateId (id : Int)
  | reservedCode (code : Text)
  /-- A code is the field for the lines of another one. -/
  | linesCode (code : Text)
  | loneSurrogate (id : Int)
  | unknownFallback (code : Text)
  | invalidJson (reason : Json.Reason) (place : Json.Place)
  | fallbackNotString
  | notAnArray
  | entryNotObject (index : Nat)
  | entryWithoutCode (index : Nat)
  | idNotInteger (code : Text)
  | nameNotString (code : Text)
  /-- A fault told in words. -/
  | told (reason : Text)
deriving DecidableEq, Repr

/-- The number of a language that the wording of a fault shows. -/
def RegistryFault.id? : RegistryFault → Option Int
  | .emptyCode id | .duplicateId id | .loneSurrogate id => some id
  | _ => none

/-- The wording of a fault of a registry. A number in it has to be one that can be written. -/
def RegistryFault.message : RegistryFault → Text
  | .noLanguages => "no languages configured"
  | .emptyCode id => "empty language code for id " ++ Numeral.integer id
  | .duplicateCode code => "duplicate language code '" ++ code ++ "'"
  | .duplicateId id => "duplicate language id " ++ Numeral.integer id
  | .reservedCode code => "language code '" ++ code ++ "' is a reserved resource field"
  | .linesCode code =>
    "language code '" ++ code ++ "_long' is the multi-line field of '" ++ code ++ "'"
  | .loneSurrogate id => "language " ++ Numeral.integer id ++ " contains a lone surrogate"
  | .unknownFallback code => "fallback language '" ++ code ++ "' is not registered"
  | .invalidJson reason place => "invalid JSON: " ++ Json.describe reason place
  | .fallbackNotString => "'fallback' must be a string"
  | .notAnArray => "expected an array of language objects"
  | .entryNotObject index => "entry #" ++ Numeral.natural index ++ " is not an object"
  | .entryWithoutCode index => "entry #" ++ Numeral.natural index ++ " has no 'code' string"
  | .idNotInteger code => "entry '" ++ code ++ "' has a non-integer id"
  | .nameNotString code => "entry '" ++ code ++ "' has a non-string display name"
  | .told reason => reason

/-- A problem of documents, registries, look-ups or key modules. -/
inductive Problem where
  | malformedSource (fault : SourceFault) (keyPath : Option Text)
  /-- A document has more code points than a limit allows. The limit has to be one that can be written. -/
  | sourceTooLarge (size limit : Int)
  | missingKey (parent : Option Text) (index : Int)
  | invalidKey (key : Text) (parent : Option Text)
  | incompleteTexts (keyPath : Text) (missing present : List Text)
  | emptyNode (keyPath : Text) (codes : List Text)
  | sharedNode (key : Text)
  | keyNotFound (keyPath segment : Text)
  | textNotFound (keyPath language : Text)
  | notABranch (keyPath : Text)
  | substitutionMissing (name keyPath : Text)
  | substitutionInvalid (fault : Template.SubstitutionFault) (keyPath : Text)
  | unknownLanguage (language : Text) (known : List Text)
  | invalidIdentifier (key keyPath : Text)
  | duplicateIdentifier (name keyPath : Text)
  | nestingTooDeep (keyPath : Text) (limit : Int)
  | invalidRegistry (fault : RegistryFault)
deriving DecidableEq, Repr

namespace Problem

/-- The problem of a code that no language has. -/
def unknownCode (code : Text) (known : List Text) : Problem :=
  .unknownLanguage (Quoted.encode code) known

/-- Codes with commas between them. -/
def listed (codes : List Text) : Text := Text.joinWith ", " codes

/-- Where in a document a fault lies, if it lies in a node. -/
def location : Option Text → Text
  | none | some [] => []
  | some path => " (in '" ++ path ++ "')"

/-- Which object of a document has no key. -/
def objectPlace (parent : Option Text) (index : Int) : Text :=
  match parent with
  | none | some [] => "root object #" ++ Numeral.integer index
  | some path => "child #" ++ Numeral.integer index ++ " of '" ++ path ++ "'"

/-- The diagnostic of a problem. -/
def diagnostic : Problem → Diagnostic
  | malformedSource fault keyPath =>
    { code := .malformedSource
      message := "Malformed resource source" ++ location keyPath ++ ": " ++ fault.message
      hint := some "The resource file must be a JSON array of objects with a 'key' field"
      keyPath }
  | sourceTooLarge size limit =>
    { code := .sourceTooLarge
      message :=
        "Resource source is " ++ Numeral.integer size ++ " characters, limit is " ++
          Numeral.integer limit
      hint := some "Split the resource file or raise max_source_size" }
  | missingKey parent index =>
    { code := .missingKey
      message := "Key-less string is not allowed (" ++ objectPlace parent index ++ ")"
      hint := some "Add a 'key' field to every object"
      keyPath := parent }
  | invalidKey key parent =>
    { code := .invalidKey
      message :=
        key ++ " is not a valid key. A key cannot have non-alphanumeric characters " ++
          "except for -(dash), .(period), and _(underscore)"
      hint := some "Use letters, numbers, '_', '-' or '.' only"
      keyPath := parent }
  | incompleteTexts keyPath missing present =>
    { code := .incompleteTexts
      message :=
        "Localized string for key '" ++ keyPath ++ "' is incomplete: has " ++ listed present ++
          " but lacks " ++ listed missing
      hint := some "Provide text for every registered language, or none at all on a branch"
      keyPath := some keyPath }
  | emptyNode keyPath codes =>
    { code := .emptyNode
      message := "Localized string for key '" ++ keyPath ++ "' seems to be malformed"
      hint := some ("Object must have 'strings', OR text for all of: " ++ listed codes)
      keyPath := some keyPath }
  | sharedNode key =>
    { code := .sharedNode
      message := "Node '" ++ key ++ "' is attached to more than one parent"
      hint := some "Build a separate node for every position in the tree" }
  | keyNotFound keyPath segment =>
    { code := .keyNotFound
      message := "Key '" ++ keyPath ++ "' not found (no node for segment '" ++ segment ++ "')"
      hint :=
        some "Check the key path against the resource file, or regenerate the key module"
      keyPath := some keyPath }
  | textNotFound keyPath language =>
    { code := .textNotFound
      message := "Key '" ++ keyPath ++ "' has no text for language '" ++ language ++ "'"
      hint :=
        some "Branches without text cannot be resolved; address one of their children"
      keyPath := some keyPath
      language := some language }
  | notABranch keyPath =>
    { code := .notABranch
      message := "Key '" ++ keyPath ++ "' has no children"
      keyPath := some keyPath }
  | substitutionMissing name keyPath =>
    { code := .substitutionMissing
      message :=
        "Token '\x7b" ++ name ++ "\x7d' in '" ++ keyPath ++ "' has no substitution value"
      hint := some ("Pass '" ++ name ++ "' in the substitutions mapping")
      keyPath := some keyPath }
  | substitutionInvalid fault keyPath =>
    { code := .substitutionInvalid
      message := "Cannot substitute tokens in '" ++ keyPath ++ "': " ++ fault.message
      hint :=
        some ("Tokens must be plain names like \x7bname\x7d; " ++
          "write \x7b\x7b and \x7d\x7d for literal braces")
      keyPath := some keyPath }
  | unknownLanguage language known =>
    { code := .unknownLanguage
      message := "Unknown language " ++ language
      hint := some ("Registered languages: " ++ listed known) }
  | invalidIdentifier key keyPath =>
    { code := .invalidIdentifier
      message :=
        "There are keys ('" ++ key ++ "' is one of them) in the resource file " ++
          "that are not suited for key class generation"
      hint := some "Keys may only contain letters, numbers, '_', '-' and '.'"
      keyPath := some keyPath }
  | duplicateIdentifier name keyPath =>
    { code := .duplicateIdentifier
      message := "Identifier '" ++ name ++ "' for '" ++ keyPath ++ "' clashes with a sibling"
      hint := some "Avoid TitleCase keys and keys differing only in '-', '.' or '_'"
      keyPath := some keyPath }
  | nestingTooDeep keyPath limit =>
    { code := .nestingTooDeep
      message :=
        "Branch '" ++ keyPath ++ "' would need more than " ++ Numeral.integer limit ++
          " nested classes"
      hint := some "Flatten the resource tree or shorten the namespace"
      keyPath := some keyPath }
  | invalidRegistry fault =>
    { code := .invalidRegistry
      message := "Invalid language registry: " ++ fault.message
      hint := some "Expected a JSON array of \x7bid, code, display\x7d objects" }

/-- The full form of a problem. -/
def message (problem : Problem) : Text := problem.diagnostic.full false

end Problem

end Phrasebook
