import Phrasebook.Proofs.Charset.Coverage
import Phrasebook.Proofs.Document.Encodable
import Phrasebook.Proofs.KeyModule.Indentation
import Phrasebook.Proofs.KeyModule.Stamp

/-!
# What is written can be encoded

The tree of a document has no surrogates, and what is made of it adds none: names are identifiers, the
comments of a key module show what is left of the texts, a computed hash is a row of digits, and a character
set has the characters of the texts and of the names of languages. So a file is never refused for its text.
-/

namespace Phrasebook

open Outcome

/-! ### Key modules -/

namespace KeyModule

variable {width depth : Nat}

theorem isEncodable_indentation : (indentation width depth).isEncodable := by
  rw [Text.isEncodable_iff]
  intro point inside
  rw [List.eq_of_mem_replicate inside]
  rfl

theorem isEncodable_commentText {text : Text} (encodable : text.isEncodable) :
    (commentText text).isEncodable := by
  rw [Text.isEncodable_iff] at encodable ⊢
  refine forall_mem_commentText (fun point inside => ?_) (by decide)
  unfold flatten
  split
  · rfl
  · exact encodable point inside

theorem isEncodable_contentHash (content : Text) : (contentHash content).isEncodable := by
  have digits : ∀ point ∈ Numeral.hexDigits, point.isSurrogate = false := by decide
  rw [Text.isEncodable_iff]
  exact fun point inside => digits point (mem_hexDigits_of_mem_contentHash point inside)

theorem isEncodable_classLine {name : Text} (encodable : name.isEncodable) :
    (indentation width depth ++ classLine name).isEncodable := by
  simp [classLine, isEncodable_indentation, Text.isEncodable_ofString, encodable]

/-- The lines of a member have no surrogates, at whatever depth it stands. -/
def Member.IsEncodable (width : Nat) (member : Member) : Prop :=
  ∀ depth, ∀ line ∈ member.lines width depth, line.isEncodable

theorem isEncodable_constant {name keyPath : Text} {texts : List (Text × Text)} (named : name.isEncodable)
    (path : keyPath.isEncodable) (shown : ∀ entry ∈ texts, entry.1.isEncodable ∧ entry.2.isEncodable) :
    (Member.constant name keyPath texts).IsEncodable width := by
  intro depth
  simp only [Member.lines, List.map_append, List.forall_mem_append, List.forall_mem_map,
    List.forall_mem_singleton, Text.isEncodable_append]
  refine ⟨fun entry listed => ⟨isEncodable_indentation, ?_⟩, isEncodable_indentation, ?_⟩
  · have text := isEncodable_commentText (shown entry listed).2
    simp [commentLine, Text.isEncodable_ofString, (shown entry listed).1, text]
  · simp [constantLine, Text.isEncodable_ofString, named, path]

theorem isEncodable_spacedLines {members : List Member}
    (each : ∀ member ∈ members, member.IsEncodable width) :
    ∀ line ∈ spacedLines width depth members, line.isEncodable := by
  intro line written
  rcases mem_spacedLines written with rfl | ⟨member, isMember, there⟩
  · rfl
  · exact each member isMember depth line there

theorem isEncodable_nested {name : Text} {members : List Member} (named : name.isEncodable)
    (inner : ∀ member ∈ members, member.IsEncodable width) :
    (Member.nested name members).IsEncodable width := by
  intro depth line written
  rw [Member.lines, List.mem_cons] at written
  rcases written with rfl | inBody
  · exact isEncodable_classLine named
  · rcases mem_bodyLines inBody with rfl | rfl | ⟨member, isMember, there⟩
    · simp [isEncodable_indentation, Text.isEncodable_ofString]
    · rfl
    · exact inner member isMember _ line there

/-- Members that declare nodes without surrogates have lines without them. -/
theorem Declares.isEncodable {parent : Option Text} {nodes : List Node} {members : List Member}
    (declares : Declares parent nodes members)
    (encodable : ∀ entry ∈ Place.entriesBelow parent nodes, entry.1.isEncodable ∧ entry.2.IsEncodable) :
    ∀ member ∈ members, member.IsEncodable width := by
  have name {key name : Text} (made : Key.identifier? key = some name) : name.isEncodable :=
    Text.isEncodable_of_isIdentifier (Key.isFreeName_of_identifier? made).1
  induction declares with
  | nil => simp
  | leaf _ named _ others =>
    rw [Place.entriesBelow_cons, List.forall_mem_cons, List.forall_mem_append] at encodable
    rw [List.forall_mem_cons]
    exact ⟨isEncodable_constant (name named) encodable.1.1 encodable.1.2.2, others encodable.2.2⟩
  | branch _ _ named _ _ inner others =>
    rw [Place.entriesBelow_cons, List.forall_mem_cons, List.forall_mem_append] at encodable
    rw [List.forall_mem_cons]
    exact ⟨isEncodable_nested (name named) (inner encodable.2.1), others encodable.2.2⟩
  | branchWithTexts _ _ constantNamed named _ _ inner others =>
    rw [Place.entriesBelow_cons, List.forall_mem_cons, List.forall_mem_append] at encodable
    rw [List.forall_mem_cons, List.forall_mem_cons]
    exact ⟨isEncodable_constant (name constantNamed) encodable.1.1 encodable.1.2.2,
      isEncodable_nested (name named) (inner encodable.2.1), others encodable.2.2⟩

theorem isEncodable_headerLines {hash : Text} (encodable : hash.isEncodable) :
    ∀ line ∈ headerLines hash, line.isEncodable := by
  simp [headerLines, hashMark, Text.isEncodable_ofString, encodable]

theorem isEncodable_moduleLines {options : Options} {hash : Text} {members : List Member}
    (free : ∀ name ∈ options.namespaces ++ [options.rootClass], Key.IsFreeName name)
    (computed : hash.isEncodable) (each : ∀ member ∈ members, member.IsEncodable options.indentWidth) :
    ∀ line ∈ moduleLines options hash members, line.isEncodable := by
  simp only [moduleLines, openingLines, List.forall_mem_append, List.forall_mem_singleton]
  refine ⟨⟨⟨isEncodable_headerLines computed, ?namespaces⟩, ?description⟩, isEncodable_spacedLines each⟩
  case namespaces =>
    intro line written
    rcases mem_namespaceLines written with ⟨level, name, isName, _, rfl⟩
    exact isEncodable_classLine (Text.isEncodable_of_isIdentifier (free name isName).1)
  case description => simp [isEncodable_indentation, rootDescription, Text.isEncodable_ofString]

/-- What is emitted for a tree without surrogates has none, whatever the options are. -/
theorem isEncodable_emit {namespacePath : Option Text} {indentWidth : Int} {rootClass : Text}
    {options : Options} {tree : Tree} {text : Text}
    (accepted : Options.make namespacePath indentWidth rootClass = .ok options)
    (encodable : Document.IsEncodable tree) (hashed : Hashed tree)
    (emitted : (emit options tree).result = .ok text) : text.isEncodable := by
  rcases emit_eq_ok.mp emitted with ⟨_, members, made, rfl⟩
  rcases hashed.sourceHash_eq with ⟨content, computed⟩
  have entries : ∀ entry ∈ Place.entriesBelow none tree.roots, entry.1.isEncodable ∧ entry.2.IsEncodable := by
    intro entry listed
    have met : entry ∈ tree.walk := by
      rw [Tree.walk, Place.walk_eq_map_all]
      exact listed
    exact ⟨encodable.paths entry met, encodable.nodes entry met⟩
  have lines := isEncodable_moduleLines (Options.accepted_of_make accepted).free
    (computed ▸ isEncodable_contentHash content)
    ((declared_of_membersOfAll _ made).declares.isEncodable entries)
  rw [Text.isEncodable_append]
  exact ⟨Text.isEncodable_joinWith rfl lines, rfl⟩

end KeyModule

/-! ### Character sets -/

theorem Charset.isEncodable_characters {charset : Charset} {tree : Tree}
    (encodable : Document.IsEncodable tree) (accepted : ∀ registry ∈ charset.registry, registry.Accepted) :
    (charset.characters tree).isEncodable := by
  have texts : (textCharacters tree).isEncodable := by
    rw [Text.isEncodable_iff]
    intro point inside
    rcases mem_textCharacters.mp inside with ⟨_, visited, met, entry, stored, inText⟩
    exact Text.isEncodable_iff.mp ((encodable.nodes visited met).2 entry stored).2 point inText
  have numbers : (if charset.numeric then numericCharacters else []).isEncodable := by
    split <;> rfl
  have names : Text.isEncodable
      ((charset.registry.map fun registry => registry.displayNames.flatten).getD []) := by
    cases given : charset.registry with
    | none => rfl
    | some registry =>
      rw [Option.map_some, Option.getD_some, Text.isEncodable_iff]
      intro point inside
      rcases List.mem_flatten.mp inside with ⟨_, listed, inName⟩
      rcases List.mem_map.mp listed with ⟨language, known, rfl⟩
      have sound := Registry.accepted_iff.mp (accepted registry given)
      exact Text.isEncodable_iff.mp (sound.encodable language known).2 point inName
  have needed : (charset.needed tree).isEncodable := by
    simp only [Charset.needed, Text.isEncodable_append]
    exact ⟨⟨⟨texts, numbers⟩, names⟩, rfl⟩
  rw [Text.isEncodable_iff] at needed ⊢
  exact fun point inside => needed point (mem_characters.mp inside)

/-! ### Files -/

/-- An operation on files failed for a fault of a file. -/
inductive Failure.IsOfFile : Failure → Prop where
  | file (fault : FileFault) (paths : List FilePath) : IsOfFile (.file fault paths)
  | temporaryFile (fault : FileFault) (paths : List FilePath) : IsOfFile (.temporaryFile fault paths)

theorem Disk.isOfFile_of_moveInto {disk : Disk} {temporary path : FilePath} {text : Text} {failure : Failure}
    (failed : disk.moveInto temporary path text = .error failure) :
    failure.IsOfFile ∨ encoded text = .error failure := by
  rw [moveInto, bind_eq_error] at failed
  rcases failed with refused | ⟨content, _, failed⟩
  · exact Or.inr refused
  left
  split at failed
  · cases throw_eq_error.mp failed
    exact .file _ _
  · split at failed
    · cases throw_eq_error.mp failed
      exact .temporaryFile _ _
    · simp only [bind_eq_error, mapError_eq_error, pure_ne_error, and_false, exists_false, or_false] at failed
      rcases failed with ⟨fault, _, rfl⟩
      exact .file _ _

/-- The replacement of a file fails for a fault of a file, or because the text cannot be encoded. -/
theorem Disk.isOfFile_of_replace {disk : Disk} {path : FilePath} {text : Text} {failure : Failure}
    (failed : (disk.replace path text).1.result = .error failure) :
    failure.IsOfFile ∨ encoded text = .error failure := by
  unfold replace at failed
  split at failed
  · cases failed
    exact Or.inl (.file _ _)
  · dsimp only at failed
    split at failed
    · cases failed
      exact Or.inl (.temporaryFile _ _)
    · split at failed
      · rename_i moved
        cases failed
        exact isOfFile_of_moveInto moved
      · cases failed

/-- A text without surrogates is written, or there is a fault of a file. -/
theorem Disk.isOfFile_of_isEncodable {disk : Disk} {path : FilePath} {text : Text} {failure : Failure}
    (encodable : text.isEncodable) (failed : (disk.replace path text).1.result = .error failure) :
    failure.IsOfFile := by
  refine (isOfFile_of_replace failed).resolve_right fun refused => ?_
  have encodes := encoded_eq_ok.mpr (Utf8.encode?_of_isEncodable encodable)
  cases encodes.symm.trans refused

/-- A tree was read with a registry, from a text or from bytes. -/
inductive Document.IsRead (registry : Registry) (tree : Tree) : Prop where
  | ofText [Host] {limit : Int} {text : Text}
      (read : (readText (some registry) limit text).result = .ok tree) : IsRead registry tree
  | ofBytes [Host] {limit : Int} {bytes : Utf8.Bytes}
      (read : (readBytes (some registry) limit bytes).result = .ok tree) : IsRead registry tree

namespace Document.IsRead

variable {registry : Registry} {tree : Tree}

theorem parsed (read : IsRead registry tree) : Parsed registry tree := by
  cases read with
  | ofText read => exact .of_readText read
  | ofBytes read => exact .of_readBytes read

theorem hashed (read : IsRead registry tree) : KeyModule.Hashed tree := by
  cases read with
  | ofText read => exact .ofText read
  | ofBytes read => exact .ofBytes read

end Document.IsRead

section Written

variable {tree : Tree} {disk : Disk} {path : FilePath} {failure : Failure}

theorem KeyModule.of_write_error {options : Options}
    (encodable : ∀ text, (emit options tree).result = .ok text → text.isEncodable)
    (failed : (write options tree disk path).1.result = .error failure) :
    (emit options tree).result = .error failure ∨ failure.IsOfFile := by
  cases emitted : (emit options tree).result with
  | error given =>
    simp only [write, emitted] at failed
    cases failed
    exact Or.inl rfl
  | ok text =>
    rw [(write_of_emit emitted).1] at failed
    exact Or.inr (Disk.isOfFile_of_isEncodable (encodable text emitted) failed)

theorem Charset.result_write (charset : Charset) :
    (charset.write tree disk path).1.result = (disk.replace path (charset.characters tree)).1.result :=
  reported_bind_report _ _

theorem Charset.of_write_error {charset : Charset} (encodable : (charset.characters tree).isEncodable)
    (failed : (charset.write tree disk path).1.result = .error failure) : failure.IsOfFile := by
  exact Disk.isOfFile_of_isEncodable encodable (result_write charset ▸ failed)

end Written

/-- Nothing that comes from an accepted document has a surrogate: the keys, key paths and texts of the tree
and its warnings, the key modules that are emitted for it, and its character sets. So no writing is refused
because a text cannot be encoded. -/
theorem derived_texts_encodable {registry : Registry} {tree : Tree} (accepted : registry.Accepted)
    (read : Document.IsRead registry tree) :
    Document.IsEncodable tree ∧
    (∀ namespacePath indentWidth rootClass options,
      KeyModule.Options.make namespacePath indentWidth rootClass = .ok options →
      (∀ text, (KeyModule.emit options tree).result = .ok text → text.isEncodable) ∧
      ∀ disk path first position count,
        (KeyModule.write options tree disk path).1.result ≠ .error (.unencodable first position count)) ∧
    ∀ charset : Charset, (∀ shown ∈ charset.registry, shown.Accepted) →
      (charset.characters tree).isEncodable ∧
      ∀ disk path first position count,
        (charset.write tree disk path).1.result ≠ .error (.unencodable first position count) := by
  have encodable := read.parsed.isEncodable accepted
  refine ⟨encodable, ?modules, ?charsets⟩
  case modules =>
    intro namespacePath indentWidth rootClass options made
    have emitted : ∀ text, (KeyModule.emit options tree).result = .ok text → text.isEncodable :=
      fun text emitted => KeyModule.isEncodable_emit made encodable read.hashed emitted
    refine ⟨emitted, ?_⟩
    intro disk path first position count failed
    rcases KeyModule.of_write_error emitted failed with refused | ofFile
    · have refusal := KeyModule.emit_eq_error.mp refused
      split at refusal
      · cases refusal
      · rcases refusal with ⟨_, _, ⟨⟩⟩
    · cases ofFile
  case charsets =>
    intro charset shown
    have written := Charset.isEncodable_characters encodable shown
    refine ⟨written, ?_⟩
    intro disk path first position count failed
    cases Charset.of_write_error written failed

section Example

open Host.Plain

/-- A document with a character from beyond the basic plane, escaped as a pair of surrogates. -/
def smileDocument : Text :=
  "[\x7b\"key\": \"smile\", \"ja\": \"\\ud83d\\ude00\", \"en\": \"<\"\x7d]"

theorem derived_texts_encodable_smile :
    ∃ tree, (Document.readText (some .builtIn) 100 smileDocument).result = .ok tree ∧
      Document.IsEncodable tree ∧ ((Charset.mk true (some .builtIn)).characters tree).isEncodable := by
  have succeeds : (Document.readText (some .builtIn) 100 smileDocument).result.toOption.isSome := by
    decide +kernel
  cases read : (Document.readText (some .builtIn) 100 smileDocument).result with
  | error failure => simp [read, Except.toOption] at succeeds
  | ok tree =>
    rcases derived_texts_encodable Registry.accepted_builtIn (.ofText read) with ⟨encodable, _, charsets⟩
    refine ⟨tree, rfl, encodable, (charsets ⟨true, some .builtIn⟩ ?_).1⟩
    rintro _ ⟨⟩
    exact Registry.accepted_builtIn

end Example

end Phrasebook
