import Phrasebook.Document.Source
import Phrasebook.Proofs.Outcome
import Phrasebook.Proofs.Text.Decoding

/-!
# Texts and their bytes

A document is read from its text and from the bytes of the text in the same way, whether or not a byte order
mark stands before the bytes. A text that starts with the mark itself is the exception: its first character is
taken for the mark of its bytes. Bytes that encode no text are refused.
-/

namespace Phrasebook

open Outcome

namespace Utf8

/-- The character whose encoding is the byte order mark. -/
def mark : CodePoint := .scalar '\uFEFF'

theorem encode_mark : encode [mark] = byteOrderMark := by decide

/-- Bytes without one leading byte order mark. -/
def withoutMark (bytes : Bytes) : Bytes :=
  if byteOrderMark.isPrefixOf bytes then bytes.drop byteOrderMark.length else bytes

theorem decodeAfterMark_eq (bytes : Bytes) : decodeAfterMark bytes = decode (withoutMark bytes) := rfl

theorem withoutMark_append (bytes : Bytes) : withoutMark (byteOrderMark ++ bytes) = bytes := by
  have marked : byteOrderMark.isPrefixOf (byteOrderMark ++ bytes) := by
    rw [List.isPrefixOf_iff_prefix]
    exact List.prefix_append byteOrderMark bytes
  rw [withoutMark, if_pos marked, List.drop_left]

/-- The mark is the first character of a text whose bytes start with those of the mark: the decoder has read it
after them, and does not forget it. -/
theorem head?_of_isPrefixOf {text : Text} (encodable : text.isEncodable)
    (marked : byteOrderMark.isPrefixOf (encode text)) : text.head? = some mark := by
  rcases List.isPrefixOf_iff_prefix.mp marked with ⟨rest, split⟩
  have whole : (byteOrderMark ++ rest).foldlM State.step {} = _ :=
    split ▸ decode_encode_between [] 0 encodable
  have opened : (encode [mark]).foldlM State.step {} = _ :=
    decode_encode_between [] 0 (show Text.isEncodable [mark] from rfl)
  rw [encode_mark] at opened
  rw [List.foldlM_append, opened] at whole
  have kept : [mark] <:+ (State.between (text.reverse ++ []) (0 + (encode text).length)).read := by
    refine foldlM_keeps (fun state => [mark] <:+ state.read) ?_ whole (List.suffix_refl [mark])
    intro byte _ before after stepped suffix
    exact suffix.trans (State.read_suffix_of_step stepped)
  rcases kept with ⟨later, kept⟩
  have reads : text = mark :: later.reverse := by
    simpa [State.between] using (congrArg List.reverse kept).symm
  rw [reads, List.head?_cons]

theorem withoutMark_encode {text : Text} (encodable : text.isEncodable) (unmarked : text.head? ≠ some mark) :
    withoutMark (encode text) = encode text := by
  rw [withoutMark, if_neg]
  intro marked
  exact unmarked (head?_of_isPrefixOf encodable marked)

end Utf8

namespace Document

open Utf8 (Bytes)

variable {registry : Option Registry} {limit : Int}

theorem readBytes_of_decoded [Host] {bytes : Bytes} {text : Text}
    (decoded : Utf8.decode (Utf8.withoutMark bytes) = .ok text) :
    readBytes registry limit bytes = readText registry limit text := by
  rw [readBytes, Utf8.decodeAfterMark_eq, decoded]
  rfl

theorem readBytes_of_undecoded [Host] {bytes : Bytes} {fault : Utf8.Fault}
    (undecoded : Utf8.decode (Utf8.withoutMark bytes) = .error fault) :
    readBytes registry limit bytes = throw (bytesFailure fault) := by
  rw [readBytes, Utf8.decodeAfterMark_eq, undecoded]
  rfl

/-- A text, its bytes, and its bytes after a byte order mark are read with the same result and the same events,
unless the text starts with the mark and its bytes are given alone. Bytes that encode no text, one leading mark
left out, are refused as malformed. -/
theorem bytes_agree_with_text [Host] (registry : Option Registry) (limit : Int) :
    (∀ text : Text, text.isEncodable → text.head? ≠ some Utf8.mark →
      readBytes registry limit (Utf8.encode text) = readText registry limit text) ∧
    (∀ text : Text, text.isEncodable →
      readBytes registry limit (Utf8.byteOrderMark ++ Utf8.encode text) = readText registry limit text) ∧
    ∀ bytes : Bytes, (∀ text : Text, text.isEncodable → Utf8.encode text ≠ Utf8.withoutMark bytes) →
      ∃ fault, readBytes registry limit bytes = throw (.problem (.malformedSource (.invalidUtf8 fault) none)) := by
  refine ⟨?bare, ?marked, ?invalid⟩
  case bare =>
    intro text encodable unmarked
    apply readBytes_of_decoded
    rw [Utf8.withoutMark_encode encodable unmarked]
    exact Utf8.decode_encode encodable
  case marked =>
    intro text encodable
    apply readBytes_of_decoded
    rw [Utf8.withoutMark_append]
    exact Utf8.decode_encode encodable
  case invalid =>
    intro bytes invalid
    rcases Utf8.exists_decode_eq_error invalid with ⟨fault, undecoded⟩
    exact ⟨fault, readBytes_of_undecoded undecoded⟩

/-- A document with characters of one, three and four bytes. -/
def faceDocument : Text := "[\x7b\"key\": \"face\", \"ja\": \"笑顔😀\", \"en\": \"Face\"\x7d]"

section Example

open Host.Plain

theorem bytes_agree_with_text_face :
    readBytes (some .builtIn) defaultLimit (Utf8.encode faceDocument) =
        readText (some .builtIn) defaultLimit faceDocument ∧
      readBytes (some .builtIn) defaultLimit (Utf8.byteOrderMark ++ Utf8.encode faceDocument) =
        readText (some .builtIn) defaultLimit faceDocument ∧
      ∃ fault, readBytes (some .builtIn) defaultLimit (Utf8.byteOrderMark ++ [0xED, 0xA0, 0x80]) =
        throw (.problem (.malformedSource (.invalidUtf8 fault) none)) := by
  rcases bytes_agree_with_text (some .builtIn) defaultLimit with ⟨bare, marked, invalid⟩
  refine ⟨bare faceDocument (by decide) (by decide), marked faceDocument (by decide), invalid _ ?_⟩
  intro text encodable same
  have refused : Utf8.decode (Utf8.withoutMark (Utf8.byteOrderMark ++ [0xED, 0xA0, 0x80])) =
      .error ⟨0, 1, 0xED, .invalidContinuation⟩ := rfl
  rw [Utf8.decode_eq_ok.mpr ⟨encodable, same⟩] at refused
  cases refused

end Example

end Document

end Phrasebook
