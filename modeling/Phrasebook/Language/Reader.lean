import Phrasebook.Failure
import Phrasebook.File.TextFile
import Phrasebook.Json.Reader
import Phrasebook.Language.Registry

/-!
# Reading registries

A registry is configured by a JSON array of languages, or by an object with such an array and the code
of the fallback. A language that gives no number has its position, and one that gives no name to show
has its name for itself.
-/

namespace Phrasebook.Registry

/-- The failure of a configuration that is not JSON. -/
def jsonFailure : Json.Fault → Failure
  | .malformed reason place => .problem (.invalidRegistry (.invalidJson reason place))
  | .numberTooLong digits => .numberTooLong digits
  | .tooDeep => .nestedTooDeep

/-- The code of an entry. -/
def entryCode? (entry : Fields) : Option Text :=
  match entry.get? "code" with
  | some (.text code) => if code.all CodePoint.isBlank then none else some code
  | _ => none

/-- The identity number of an entry. -/
def entryId? (position : Nat) (entry : Fields) : Option Int :=
  match entry.get? "id" with
  | none => some position
  | some (.int id) => some id
  | some _ => none

/-- The name that an entry shows. -/
def entryName [Host] (code : Text) (entry : Fields) : Reported RegistryFault Text :=
  match entry.get? "display" with
  | none | some .null => Locale.displayName code
  | some (.text name) => return name
  | some _ => throw (.nameNotString code)

/-- Reads the entry at a position. -/
def readEntry [Host] (position : Nat) (value : Datum) : Reported RegistryFault Language :=
  match value with
  | .record entry =>
    match entryCode? entry with
    | none => throw (.entryWithoutCode position)
    | some code =>
      match entryId? position entry with
      | none => throw (.idNotInteger code)
      | some id => return ⟨id, code, ← entryName code entry⟩
  | _ => throw (.entryNotObject position)

/-- Reads the entries from a position on. -/
def readEntries [Host] (position : Nat) : List Datum → Reported RegistryFault (List Language)
  | [] => return []
  | value :: rest => return (← readEntry position value) :: (← readEntries (position + 1) rest)

/-- The code of the fallback in a configuration, empty if there is none. -/
def configuredFallback : Datum → Except RegistryFault Text
  | .record fields =>
    match Fields.get? fields "fallback" with
    | none | some .null => .ok []
    | some (.text code) => .ok code
    | some _ => .error .fallbackNotString
  | _ => .ok []

/-- The entries of a configuration. -/
def configuredEntries : Datum → Except RegistryFault (List Datum)
  | .list entries => .ok entries
  | .record fields =>
    match Fields.get? fields "languages" with
    | some (.list entries) => .ok entries
    | _ => .error .notAnArray
  | _ => .error .notAnArray

/-- Makes the registry that a value configures. -/
def ofDatum [Host] (value : Datum) : Reported RegistryFault Registry := do
  let fallback ← configuredFallback value
  let entries ← configuredEntries value
  let languages ← readEntries 0 entries
  ofLanguages languages fallback

/-- Reads the text of a configuration. The numbers in its faults come from the text or count its entries, and
can be written. -/
def read [Host] (text : Text) : Reported Failure Registry := do
  let value ← Reported.ofExcept jsonFailure (Json.read text)
  (ofDatum value).mapError fun fault => .problem (.invalidRegistry fault)

/-- Loads the configuration in a file. No path and a missing file give the built-in registry. -/
def load [Host] (disk : Disk) (path : Option FilePath) : Reported Failure Registry :=
  match path with
  | none => return builtIn
  | some path => do
    if ← Reported.ofExcept (Failure.atPath path) (disk.isFile path) then
      let content ← Reported.ofExcept (Failure.atPath path) (disk.read path)
      let text ← Reported.ofExcept Failure.undecodable (TextFile.read content)
      let registry ← read text
      Reported.report (.registryRead registry.languages.length path.display)
      return registry
    else
      Reported.report (.registryAbsent path.display)
      return builtIn

end Phrasebook.Registry
