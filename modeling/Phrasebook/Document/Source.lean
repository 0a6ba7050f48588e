import Phrasebook.Document.Reader
import Phrasebook.Json.Reader

/-!
# Sources of documents

A document is read from a text, from bytes or from a file. Bytes are UTF-8, with a byte order mark or
without. A text may not be longer than a limit, and the hash of the tree that is read from it is the
hash of the text. A source is read up to its first object also where there is no registry.

A limit is taken to have few enough digits to be written in a message, as every limit has that a text can
keep to.
-/

namespace Phrasebook.Document

/-- The greatest length of a text unless another limit is asked for: ten times 1024 times 1024. -/
def defaultLimit : Int := 10485760

/-- The failure of a text that is not JSON. A number that is too long is not a fault of the text. -/
def jsonFailure : Json.Fault → Failure
  | .malformed reason place => .problem (.malformedSource (.invalidJson reason place) none)
  | .numberTooLong digits => .numberTooLong digits
  | .tooDeep => .problem (.malformedSource .nestedTooDeep none)

/-- Reads a document from a text. -/
def readText [Host] (registry : Option Registry) (limit : Int) (text : Text) : Reported Failure Tree :=
  if limit < text.length then throw (.problem (.sourceTooLarge text.length limit))
  else do
    let data ← Reported.ofExcept jsonFailure (Json.read text)
    readDecoded registry data (contentHash text)

/-- The failure of bytes that are not UTF-8. -/
def bytesFailure (fault : Utf8.Fault) : Failure :=
  .problem (.malformedSource (.invalidUtf8 fault) none)

/-- Reads a document from bytes. -/
def readBytes [Host] (registry : Option Registry) (limit : Int) (bytes : Utf8.Bytes) :
    Reported Failure Tree := do
  let text ← Reported.ofExcept bytesFailure (Utf8.decodeAfterMark bytes)
  readText registry limit text

/-- Reads a document from a file. -/
def load [Host] (registry : Option Registry) (disk : Disk) (path : FilePath) : Reported Failure Tree := do
  let bytes ← Reported.ofExcept (Failure.atPath path) (disk.read path)
  Reported.report (.sourceOpened path.display)
  readBytes registry defaultLimit bytes

end Phrasebook.Document
