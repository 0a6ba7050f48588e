import Phrasebook.Proofs.File.Replacement
import Phrasebook.Proofs.KeyModule.PhysicalLines

/-!
# Stamps are found again

The stamp of a module that was written is the hash of the tree it was made of. It stands in the third
line, and that line ends in the first block of the file, whatever the options and the texts are.
-/

namespace Phrasebook.KeyModule

open Outcome
open Utf8 (Bytes)

/-! ### Hashes -/

/-- A hash that was computed is a row of eight words of eight digits. -/
theorem length_contentHash (content : Text) : (contentHash content).length = 64 := by
  have eight (word : UInt32) : (Numeral.padded 16 8 word.toNat).length = 8 :=
    Numeral.length_padded word.toNat_lt
  simp only [contentHash, Sha256.hexDigest, Text.concat, List.length_flatten, List.map_map,
    Function.comp_def, eight]
  rfl

/-- A hash that was computed has no blanks around it. -/
theorem trim_contentHash (content : Text) :
    Text.trim CodePoint.isBlank (contentHash content) = contentHash content := by
  have digits : ∀ point ∈ Numeral.hexDigits, CodePoint.isBlank point = false := by decide
  apply Text.trim_of_forall
  intro point member
  simp [digits point (mem_hexDigits_of_mem_contentHash point member)]

/-- The line with a hash that was computed gives the hash. -/
theorem stampOf?_contentHash (content : Text) :
    stampOf? (hashMark ++ contentHash content) = some (some (contentHash content)) := by
  have nonempty : contentHash content ≠ [] := by
    intro empty
    simpa [empty] using length_contentHash content
  rw [stampOf?, dropStart?_append, Option.map_some, trim_contentHash]
  split
  · exact absurd ‹_› nonempty
  · rfl

/-! ### Complete lines -/

/-- The text of lines that end with line feeds. -/
def textOfLines (lines : List Text) : Text := lines.flatMap (· ++ "\n")

theorem joinWith_append_break {lines : List Text} (given : lines ≠ []) :
    Text.joinWith "\n" lines ++ "\n" = textOfLines lines := by
  cases lines with
  | nil => exact absurd rfl given
  | cons first rest =>
    induction rest generalizing first with
    | nil => simp [Text.joinWith, textOfLines]
    | cons second rest ih =>
      have later := ih second (by simp)
      simp only [textOfLines, List.flatMap_cons] at later ⊢
      rw [← later]
      simp [Text.joinWith]

theorem unifyBreaks_append {line : Text} (flat : InOneLine line) (rest : Text) :
    TextFile.unifyBreaks (line ++ rest) = line ++ TextFile.unifyBreaks rest := by
  induction line with
  | nil => rfl
  | cons point line ih =>
    rw [InOneLine, List.forall_mem_cons] at flat
    have noReturn : point ≠ .scalar '\r' := flat.1.2
    rw [List.cons_append, TextFile.unifyBreaks, ih flat.2, List.cons_append]
    · rintro _ rfl
      exact absurd rfl noReturn
    · exact noReturn

theorem unifyBreaks_break (rest : Text) :
    TextFile.unifyBreaks (.scalar '\n' :: rest) = .scalar '\n' :: TextFile.unifyBreaks rest := by
  rw [TextFile.unifyBreaks]
  · intro _ impossible
    cases impossible
  · intro impossible
    cases impossible

/-- Lines at the start of a text are its first lines. -/
theorem splitOn_textOfLines {lines : List Text} (flat : ∀ line ∈ lines, InOneLine line) (more : Text) :
    (TextFile.unifyBreaks (textOfLines lines ++ more)).splitOn '\n' =
      lines ++ (TextFile.unifyBreaks more).splitOn '\n' := by
  induction lines with
  | nil => rfl
  | cons line rest ih =>
    rw [List.forall_mem_cons] at flat
    have free : .scalar '\n' ∉ line := fun inside => (flat.1 _ inside).1 rfl
    calc
      _ = (TextFile.unifyBreaks (line ++ .scalar '\n' :: (textOfLines rest ++ more))).splitOn '\n' := by
        simp [textOfLines, Text.ofString]
      _ = (line ++ .scalar '\n' :: TextFile.unifyBreaks (textOfLines rest ++ more)).splitOn '\n' := by
        rw [unifyBreaks_append flat.1, unifyBreaks_break]
      _ = line.splitOn '\n' ++ (TextFile.unifyBreaks (textOfLines rest ++ more)).splitOn '\n' :=
        Text.splitOn_append_cons _ _ _
      _ = _ := by
        rw [Text.splitOn_of_not_mem free, ih flat.2]
        rfl

theorem not_mem_textOfLines {lines : List Text} (flat : ∀ line ∈ lines, InOneLine line) :
    .scalar '\r' ∉ textOfLines lines := by
  intro inside
  rcases List.mem_flatMap.mp inside with ⟨line, listed, member⟩
  rcases List.mem_append.mp member with inLine | inBreak
  · exact (flat line listed _ inLine).2 rfl
  · revert inBreak
    decide

/-- Lines at the start of what has been read so far are its first complete lines. A carriage return that
is left out stands after them. -/
theorem completeLines_textOfLines {lines : List Text} (flat : ∀ line ∈ lines, InOneLine line)
    (more : Text) : ∃ others, completeLines (textOfLines lines ++ more) = lines ++ others := by
  have settled : ∃ kept, (if (textOfLines lines ++ more).getLast? = some (.scalar '\r')
      then (textOfLines lines ++ more).dropLast else textOfLines lines ++ more) = textOfLines lines ++ kept := by
    split
    · rename_i waits
      cases more with
      | nil =>
        rw [List.append_nil] at waits
        exact absurd (List.mem_of_getLast? waits) (not_mem_textOfLines flat)
      | cons point rest =>
        exact ⟨_, List.dropLast_append_of_ne_nil (List.cons_ne_nil point rest)⟩
    · exact ⟨more, rfl⟩
  rcases settled with ⟨kept, settled⟩
  rw [completeLines, settled, splitOn_textOfLines flat,
    List.dropLast_append_of_ne_nil (Text.splitOn_ne_nil _ _)]
  exact ⟨_, rfl⟩

/-! ### The first block -/

/-- A text that begins a longer one is decoded from a block that its bytes fit in, with what else the block
has of the longer text. -/
theorem decodeSome_take {front rest : Text} {size : Nat} (encodable : (front ++ rest).isEncodable)
    (fits : (Utf8.encode front).length ≤ size) :
    ∃ more pending,
      decodeSome ((Utf8.encode (front ++ rest)).take size) = .ok (front ++ more, pending) := by
  rcases Text.isEncodable_append.mp encodable with ⟨frontEncodable, restEncodable⟩
  have block : (Utf8.encode (front ++ rest)).take size =
      Utf8.encode front ++ (Utf8.encode rest).take (size - (Utf8.encode front).length) := by
    rw [Utf8.encode_append, List.take_append, List.take_of_length_le fits]
  have opened : (Utf8.encode front).foldlM Utf8.State.step {} = _ :=
    Utf8.decode_encode_between [] 0 frontEncodable
  have whole := Utf8.decode_encode_between (front.reverse ++ []) (0 + (Utf8.encode front).length)
    restEncodable
  rw [← List.take_append_drop (size - (Utf8.encode front).length) (Utf8.encode rest),
    List.foldlM_append, bind_eq_ok] at whole
  rcases whole with ⟨state, reached, _⟩
  have run : ((Utf8.encode (front ++ rest)).take size).foldlM Utf8.State.step {} = .ok state := by
    rw [block, List.foldlM_append, opened]
    exact reached
  have kept : front.reverse <:+ state.read := by
    refine foldlM_keeps (fun state => front.reverse <:+ state.read) ?_ reached ?_
    · intro byte _ before after stepped suffix
      exact suffix.trans (Utf8.State.read_suffix_of_step stepped)
    · simp [Utf8.State.between]
  rcases kept with ⟨more, kept⟩
  have reads : state.read.reverse = front ++ more.reverse := by
    rw [← kept, List.reverse_append, List.reverse_reverse]
  refine ⟨more.reverse, ?_⟩
  rw [decodeSome, run, ← reads]
  exact ⟨_, rfl⟩

/-! ### The stamp -/

theorem verdict?_contentHash (first second content : Text) (others : List Text)
    (passed : stampOf? first = none ∧ stampOf? second = none) :
    verdict? stampLines (first :: second :: (hashMark ++ contentHash content) :: others) =
      some (some (contentHash content)) := by
  simp only [stampLines, verdict?, passed.1, passed.2, stampOf?_contentHash]

/-- The first three lines of a module; the third one has the stamp. -/
def stampedLines (hash : Text) : List Text := (headerLines hash).take 3

theorem length_textOfLines_stampedLines (content : Text) :
    (textOfLines (stampedLines (contentHash content))).length = 167 := by
  have opening : (Text.ofString "# Auto-generated by i18ntree key class generator.").length = 49 := by
    decide
  have warning : (Text.ofString "# Any changes will be lost.").length = 27 := by decide
  have mark : hashMark.length = 24 := by decide
  have feed : (Text.ofString "\n").length = 1 := by decide
  simp only [stampedLines, headerLines, List.take, textOfLines, List.flatMap_cons, List.flatMap_nil,
    List.length_append, length_contentHash, opening, warning, mark, feed, List.length_nil]

/-- The stamp of a text that begins with the first lines of a module is found in its first block. -/
theorem stamp_encode {content rest : Text}
    (encodable : (textOfLines (stampedLines (contentHash content)) ++ rest).isEncodable) :
    stamp (Utf8.encode (textOfLines (stampedLines (contentHash content)) ++ rest)) =
      .ok (some (contentHash content)) := by
  have short := length_textOfLines_stampedLines content
  have fits := Utf8.length_encode_le (textOfLines (stampedLines (contentHash content)))
  have flat : ∀ line ∈ stampedLines (contentHash content), InOneLine line := fun line listed =>
    inOneLine_headerLines (inOneLine_contentHash content) line (List.mem_of_mem_take listed)
  have nonempty : (Utf8.encode (textOfLines (stampedLines (contentHash content)) ++ rest)).isEmpty =
      false := by
    rw [List.isEmpty_eq_false_iff]
    intro empty
    rw [show [] = Utf8.encode [] from rfl, Utf8.encode_inj encodable rfl, List.append_eq_nil_iff] at empty
    simp [empty.1] at short
  rcases decodeSome_take encodable (show _ ≤ blockSize by unfold blockSize; omega) with
    ⟨more, pending, decoded⟩
  rcases completeLines_textOfLines flat more with ⟨others, complete⟩
  have passed : stampOf? "# Auto-generated by i18ntree key class generator." = none ∧
      stampOf? "# Any changes will be lost." = none := by
    decide
  have found : verdict? stampLines (stampedLines (contentHash content) ++ others) =
      some (some (contentHash content)) :=
    verdict?_contentHash _ _ _ _ passed
  rw [stamp, blocksOf, nonempty, if_neg Bool.false_ne_true, searchBlocks, List.nil_append, decoded]
  simp only [bind, Except.bind, List.nil_append, complete, found]
  rfl

/-! ### Trees -/

/-- Trees with a hash that was computed: those of documents that were read, and those made without a
hash. -/
inductive Hashed : Tree → Prop where
  | ofText [Host] {registry : Option Registry} {limit : Int} {text : Text} {tree : Tree}
      (read : (Document.readText registry limit text).result = .ok tree) : Hashed tree
  | ofBytes [Host] {registry : Option Registry} {limit : Int} {bytes : Bytes} {tree : Tree}
      (read : (Document.readBytes registry limit bytes).result = .ok tree) : Hashed tree
  | ofFile [Host] {registry : Option Registry} {disk : Disk} {path : FilePath} {tree : Tree}
      (read : (Document.load registry disk path).result = .ok tree) : Hashed tree
  | ofForest (roots : List Node) (languages : List Text) (warnings : List Warning) :
      Hashed (.make roots languages [] warnings)

namespace Hashed

variable {tree : Tree}

theorem sourceHash_of_readData [Host] {registry : Registry} {data : Datum} {content : Text}
    (read : (Document.readData registry data (contentHash content)).result = .ok tree) :
    tree.sourceHash = contentHash content := by
  rcases Document.readData_eq_ok.mp read with ⟨roots, _, rfl⟩
  have nonempty : contentHash content ≠ [] := by
    intro empty
    simpa [empty] using length_contentHash content
  simp [Tree.make, nonempty]

theorem readUnregistered_ne_ok [Host] {data : Datum} :
    (Document.readUnregistered data).result ≠ .ok tree := by
  unfold Document.readUnregistered
  split
  · simp
  · simp
  · dsimp only
    intro read
    rcases bind_eq_ok.mp read with ⟨_, _, ⟨⟩⟩

/-- A tree that is read from a text has the hash of the text. -/
theorem sourceHash_of_readText [Host] {registry : Option Registry} {limit : Int} {text : Text}
    (read : (Document.readText registry limit text).result = .ok tree) :
    tree.sourceHash = contentHash text := by
  unfold Document.readText at read
  split at read
  · cases read
  · simp only [reported_bind_eq_ok] at read
    rcases read with ⟨data, _, decoded⟩
    cases registry with
    | none => exact absurd decoded readUnregistered_ne_ok
    | some registry => exact sourceHash_of_readData decoded

theorem sourceHash_of_readBytes [Host] {registry : Option Registry} {limit : Int} {bytes : Bytes}
    (read : (Document.readBytes registry limit bytes).result = .ok tree) :
    ∃ text, tree.sourceHash = contentHash text := by
  simp only [Document.readBytes, reported_bind_eq_ok] at read
  rcases read with ⟨text, _, read⟩
  exact ⟨text, sourceHash_of_readText read⟩

/-- The hash of such a tree is that of some text. -/
theorem sourceHash_eq (hashed : Hashed tree) : ∃ content, tree.sourceHash = contentHash content := by
  cases hashed with
  | ofText read => exact ⟨_, sourceHash_of_readText read⟩
  | ofBytes read => exact sourceHash_of_readBytes read
  | ofFile read =>
    simp only [Document.load, reported_bind_eq_ok] at read
    rcases read with ⟨_, _, _, _, read⟩
    exact sourceHash_of_readBytes read
  | ofForest roots languages warnings => exact ⟨_, rfl⟩

end Hashed

/-! ### Files -/

variable {options : Options} {tree : Tree} {disk : Disk} {path : FilePath} {content : Bytes}

/-- The text of a module begins with the first three lines. -/
theorem emit_eq_textOfLines {text : Text} (emitted : (emit options tree).result = .ok text) :
    ∃ rest, text = textOfLines (stampedLines tree.sourceHash) ++ rest := by
  rcases emit_eq_ok.mp emitted with ⟨_, members, _, rfl⟩
  rw [joinWith_append_break (by simp [moduleLines, openingLines, headerLines])]
  refine ⟨textOfLines ((moduleLines options tree.sourceHash members).drop 3), ?_⟩
  rw [textOfLines, textOfLines, textOfLines, ← List.flatMap_append]
  rfl

/-- The stamp of a file that a path leads to is that of its content. -/
theorem readStamp_of_read (reads : disk.read path = .ok content) :
    readStamp disk path = (stamp content).mapError .undecodable := by
  simp [readStamp, Disk.isFile, reads, bind, Except.bind, Except.mapError]

/-- The stamp of a file depends on nothing else on a disk. -/
theorem readStamp_congr {later : Disk} (same : later.read path = disk.read path) :
    readStamp later path = readStamp disk path := by
  rw [readStamp, readStamp, Disk.isFile, Disk.isFile, same]

/-- The stamp of a module that was written is the hash of its tree. -/
theorem readStamp_write (hashed : Hashed tree)
    (written : (write options tree disk path).1.result = .ok ()) :
    readStamp (write options tree disk path).2 path = .ok (some tree.sourceHash) := by
  have whole := allOrNothing_write options tree disk path
  rcases whole.succeeded written with ⟨text, content, emitted, encodes, replaced⟩
  rcases emit_eq_textOfLines emitted with ⟨rest, rfl⟩
  rcases hashed.sourceHash_eq with ⟨origin, computed⟩
  rw [computed] at encodes ⊢
  rcases Utf8.encode?_eq_ok.mp encodes with ⟨encodable, rfl⟩
  rw [readStamp_of_read replaced.written, stamp_encode encodable]
  rfl

/-- A file is stale exactly if its stamp differs from the hash of the tree. -/
theorem isStale_of_readStamp {hash : Text} (stamped : readStamp disk path = .ok (some hash))
    (other : Tree) : isStale disk path other = .ok (decide (other.sourceHash ≠ hash)) := by
  have differs : (some hash != some other.sourceHash) = decide (other.sourceHash ≠ hash) := by
    rw [Bool.eq_iff_iff, bne_iff_ne, decide_eq_true_iff, ne_eq, Option.some_inj, eq_comm]
  rw [isStale, stamped, ← differs]
  rfl

end Phrasebook.KeyModule
