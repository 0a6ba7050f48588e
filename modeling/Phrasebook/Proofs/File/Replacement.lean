import Mathlib.Data.List.Nodup
import Phrasebook.Charset
import Phrasebook.KeyModule.Emission
import Phrasebook.Proofs.File.Disk
import Phrasebook.Proofs.Number.Numeral

/-!
# Replacing files is all or nothing

A temporary file is made at a place that is free. So if a replacement fails, taking the temporary file
away leaves the files as they were, and if it succeeds, one file has the new content and all others are
as they were. Directories that were made on the way stay.
-/

namespace Phrasebook.Disk

open Utf8 (Bytes)
open Outcome

variable {disk before after : Disk} {path place : FilePath} {text : Text}

/-! ### The temporary file -/

theorem temporaryName_inj {name : Text} {first second : Nat}
    (same : temporaryName name first = temporaryName name second) : first = second := by
  have digits := List.append_cancel_left (List.append_cancel_right same)
  rw [← Numeral.ofDigits_padded 8 first, digits, Numeral.ofDigits_padded]

theorem length_temporaryName (name : Text) (number : Nat) :
    name.length + 6 ≤ (temporaryName name number).length := by
  simp only [temporaryName, List.length_append]
  have marks : (Text.ofString ".").length = 1 ∧ (Text.ofString ".tmp").length = 4 := by decide
  omega

theorem temporaryName_ne_up (name : Text) (number : Nat) :
    temporaryName name number ≠ FilePath.up := by
  intro same
  have long := length_temporaryName name number
  have short : FilePath.up.length = 2 := by decide
  rw [same] at long
  omega

theorem temporaryName_ne (name : Text) (number : Nat) : temporaryName name number ≠ name := by
  intro same
  have long := length_temporaryName name number
  rw [same] at long
  omega

theorem child_inj {directory : FilePath} {first second : Text} :
    directory.child first = directory.child second ↔ first = second := by
  simp [FilePath.child]

theorem not_always_child {directory : FilePath} {name : Text} (proper : name ≠ FilePath.up) :
    ¬AlwaysDirectory (directory.child name) := by
  simp [AlwaysDirectory, FilePath.child, proper]

/-- The place that the names of a path spell. -/
def spelled (path : FilePath) : FilePath := path.names.foldl step (start path)

theorem spelled_child {directory : FilePath} {name : Text} (proper : name ≠ FilePath.up) :
    spelled (directory.child name) = (spelled directory).child name := by
  have beside : start (directory.child name) = start directory := rfl
  rw [spelled, beside, FilePath.child, List.foldl_append, List.foldl_cons, List.foldl_nil, step,
    if_neg proper, spelled]

/-- A path that nothing stands at. -/
def IsFree (disk : Disk) (path : FilePath) : Prop :=
  ∀ place, disk.place path = .ok place → disk.entry? place = none

/-- The paths that are tried for the temporary file of a path. -/
def candidate (path : FilePath) (number : Nat) : FilePath :=
  path.parent.child (temporaryName path.name number)

theorem spelled_candidate (path : FilePath) (number : Nat) :
    spelled (candidate path number) =
      (spelled path.parent).child (temporaryName path.name number) :=
  spelled_child (temporaryName_ne_up _ _)

theorem not_always_candidate (path : FilePath) (number : Nat) :
    ¬AlwaysDirectory (spelled (candidate path number)) := by
  rw [spelled_candidate]
  exact not_always_child (temporaryName_ne_up _ _)

/-- One of the paths that are tried is free, because a disk has fewer entries than there are such paths
and no two of them lead to one place. -/
theorem exists_free_candidate (disk : Disk) (path : FilePath) :
    ∃ number < disk.entries.length + 1, disk.IsFree (candidate path number) := by
  by_contra taken
  simp only [IsFree, not_exists, not_and, not_forall] at taken
  let spots := (List.range (disk.entries.length + 1)).map fun number => spelled (candidate path number)
  have apart : spots.Nodup := by
    refine List.nodup_range.map ?_
    intro first second same
    simp only [spelled_candidate, child_inj] at same
    exact temporaryName_inj same
  have held : spots ⊆ disk.entries.map Prod.fst := by
    intro spot member
    rcases List.mem_map.mp member with ⟨number, inRange, rfl⟩
    rcases taken number (List.mem_range.mp inRange) with ⟨place, led, stands⟩
    rw [place_eq_foldl led] at stands
    have listed : disk.entries.lookup (spelled (candidate path number)) ≠ none := by
      rwa [← entry?_of_not_always (not_always_candidate path number)]
    rcases Option.ne_none_iff_exists'.mp listed with ⟨entry, found⟩
    rcases List.lookup_eq_some_iff.mp found with ⟨before, after, entries, _⟩
    simp [entries]
  have few := apart.length_le_of_subset held
  rw [List.length_map, List.length_map, List.length_range] at few
  omega

/-- The test of the search for a temporary path. -/
def testsFree (disk : Disk) (tried : FilePath) : Bool :=
  match disk.place tried with
  | .ok place => (disk.entry? place).isNone
  | .error _ => true

theorem testsFree_iff {tried : FilePath} : disk.testsFree tried ↔ disk.IsFree tried := by
  rw [testsFree]
  cases led : disk.place tried with
  | error fault => simp [IsFree, led]
  | ok place => simp [IsFree, led]

theorem temporaryPath_eq (disk : Disk) (path : FilePath) :
    disk.temporaryPath path =
      (((List.range (disk.entries.length + 1)).map (candidate path)).find? disk.testsFree).getD
        path.parent := rfl

/-- The temporary path is one beside the file, and it is free. -/
theorem temporaryPath_spec (disk : Disk) (path : FilePath) :
    ∃ number, disk.temporaryPath path = candidate path number ∧
      disk.IsFree (candidate path number) := by
  rw [temporaryPath_eq]
  cases search : ((List.range _).map (candidate path)).find? disk.testsFree with
  | none =>
    rcases exists_free_candidate disk path with ⟨number, small, free⟩
    have tried := List.mem_map_of_mem (f := candidate path) (List.mem_range.mpr small)
    exact absurd (testsFree_iff.mpr free) (List.find?_eq_none.mp search _ tried)
  | some chosen =>
    rcases List.mem_map.mp (List.mem_of_find?_eq_some search) with ⟨number, _, rfl⟩
    exact ⟨number, rfl, testsFree_iff.mp (List.find?_some search)⟩

/-! ### Files that come and go -/

/-- A file that is put at a free place and taken away leaves no trace. -/
theorem entry?_erase_put {spot : FilePath} {entry : Entry} (free : disk.entry? spot = none)
    (place : FilePath) : entry? ((disk.put spot entry).erase spot) place = disk.entry? place := by
  have proper : ¬AlwaysDirectory spot := not_always_of_free free
  by_cases same : place = spot
  · rw [same, entry?_erase_self proper, free]
  · rw [entry?_erase_of_ne same, entry?_put_of_ne same]

/-- A file that is put at a place is no directory. -/
theorem keepsDirectories_of_put_file {spot : FilePath} {content : Bytes} (proper : ¬AlwaysDirectory spot) :
    KeepsDirectories (disk.put spot (.file content)) disk := by
  intro place isDirectory
  have apart : place ≠ spot := by
    rintro rfl
    simp [entry?_put_self proper] at isDirectory
  rwa [entry?_put_of_ne apart] at isDirectory

/-- A disk with a file at a place, and otherwise with the files of an earlier one. No directory is
missing; some may be new. -/
structure Rewritten (before after : Disk) (place : FilePath) (content : Bytes) : Prop where
  stands : after.entry? place = some (.file content)
  others : ∀ other ≠ place, ∀ kept,
    after.entry? other = some (.file kept) ↔ before.entry? other = some (.file kept)
  directories : KeepsDirectories before after

namespace Rewritten

variable {content : Bytes}

theorem read (rewritten : Rewritten before after place content) (led : after.place path = .ok place) :
    after.read path = .ok content :=
  read_eq_ok.mpr ⟨place, led, rewritten.stands⟩

/-- What could be read before can still be read, unless its path leads to the place of the new file. -/
theorem read_other (rewritten : Rewritten before after place content) {kept : Bytes}
    (given : before.read path = .ok kept) (apart : after.place path ≠ .ok place) :
    after.read path = .ok kept := by
  rcases read_eq_ok.mp given with ⟨other, led, stood⟩
  have leads := place_mono rewritten.directories led
  have differs : other ≠ place := by
    rintro rfl
    exact apart leads
  exact read_eq_ok.mpr ⟨other, leads, (rewritten.others other differs kept).mpr stood⟩

theorem of_grown {middle : Disk} (grown : Grown before middle)
    (rewritten : Rewritten middle after place content) : Rewritten before after place content where
  stands := rewritten.stands
  others other apart kept := (rewritten.others other apart kept).trans (grown.files other kept)
  directories other := rewritten.directories other ∘ grown.directories other

/-- A file is put where no directory stands while another one comes and goes. -/
theorem of_swap {spot : FilePath} {entry : Entry} (free : disk.entry? spot = none)
    (apart : place ≠ spot) (notDirectory : disk.entry? place ≠ some .directory) :
    Rewritten disk (((disk.put spot entry).put place (.file content)).erase spot) place content := by
  have kept_elsewhere {other : FilePath} (differs : other ≠ place) :
      entry? (((disk.put spot entry).put place (.file content)).erase spot) other =
        disk.entry? other := by
    by_cases same : other = spot
    · rw [same, entry?_erase_self (not_always_of_free free), free]
    · rw [entry?_erase_of_ne same, entry?_put_of_ne differs, entry?_put_of_ne same]
  refine ⟨?_, ?_, ?_⟩
  · rw [entry?_erase_of_ne apart, entry?_put_self (not_always_of_ne_directory notDirectory)]
  · intro other differs kept
    rw [kept_elsewhere differs]
  · intro other isDirectory
    have differs : other ≠ place := by
      rintro rfl
      exact notDirectory isDirectory
    rw [kept_elsewhere differs, isDirectory]

end Rewritten

/-! ### The replacement -/

theorem encoded_eq_ok {content : Bytes} :
    encoded text = .ok content ↔ Utf8.encode? text = .ok content := by
  rw [encoded, Utf8.encode?]
  split <;> simp_all

theorem makeTemporary_eq_ok {temporary spot : FilePath} {opened : Disk}
    (made : disk.makeTemporary temporary = .ok (spot, opened)) :
    disk.place temporary = .ok spot ∧ opened = disk.put spot (.file []) := by
  rw [makeTemporary, bind_eq_ok] at made
  rcases made with ⟨_, led, made⟩
  split at made
  · simp at made
  · cases pure_eq_ok.mp made
    exact ⟨led, rfl⟩

theorem replacementFault?_eq_none (allowed : disk.replacementFault? path = none) :
    path.name ≠ [] ∧ path.name ≠ FilePath.up ∧
      ∀ place, disk.place path = .ok place → disk.entry? place ≠ some .directory := by
  rw [replacementFault?] at allowed
  split at allowed
  · cases allowed
  rename_i proper
  simp only [List.isEmpty_iff, not_or] at proper
  refine ⟨proper.1, proper.2, ?_⟩
  intro place led isDirectory
  simp [led, isDirectory] at allowed

/-- A temporary file that takes the place of a path stands where no directory is, at the end of a path
whose last name is that of a file. -/
theorem moveInto_eq_ok {temporary : FilePath} {written : Disk}
    (moved : disk.moveInto temporary path text = .ok written) :
    ∃ content place, Utf8.encode? text = .ok content ∧ disk.place path = .ok place ∧
      path.name ≠ [] ∧ path.name ≠ FilePath.up ∧ disk.entry? place ≠ some .directory ∧
      written = disk.put place (.file content) := by
  rw [moveInto, bind_eq_ok] at moved
  rcases moved with ⟨content, encodes, moved⟩
  split at moved
  · simp at moved
  split at moved
  · simp at moved
  rename_i allowed
  rw [bind_eq_ok] at moved
  rcases moved with ⟨place, led, moved⟩
  cases pure_eq_ok.mp moved
  have arrives := mapError_eq_ok.mp led
  rcases replacementFault?_eq_none allowed with ⟨named, notUp, notDirectory⟩
  exact ⟨content, place, encoded_eq_ok.mp encodes, arrives, named, notUp, notDirectory place arrives,
    rfl⟩

/-- A path with a proper name and the temporary path beside it lead to different places. -/
theorem spelled_ne_candidate {number : Nat} (named : path.name ≠ [])
    (notUp : path.name ≠ FilePath.up) : spelled path ≠ spelled (candidate path number) := by
  have some : path.names ≠ [] := by
    intro none
    exact named (by rw [FilePath.name, none]; rfl)
  have whole : path.parent.child path.name = path := by
    rcases path with ⟨root, names⟩
    simp only [FilePath.parent, FilePath.child, FilePath.name, FilePath.mk.injEq, true_and]
    rw [List.getLastD_eq_getLast?, List.getLast?_eq_some_getLast some, Option.getD_some,
      List.dropLast_append_getLast]
  have ends : spelled path = (spelled path.parent).child path.name := by
    rw [← spelled_child notUp, whole]
  intro same
  rw [spelled_candidate, ends, child_inj] at same
  exact temporaryName_ne _ _ same.symm

/-- A replacement fails and changes no file, or it succeeds and puts the encoded text where the path
leads, and changes no other file. -/
theorem replace_cases (disk : Disk) (path : FilePath) (text : Text) :
    (∃ failure, (disk.replace path text).1.result = .error failure ∧
      Grown disk (disk.replace path text).2) ∨
    ((disk.replace path text).1.result = .ok () ∧ ∃ content place,
      Utf8.encode? text = .ok content ∧ (disk.replace path text).2.place path = .ok place ∧
      Rewritten disk (disk.replace path text).2 place content) := by
  have grown := grown_makeDirectories disk path.parent.root path.parent.names.reverse
  rw [replace]
  split
  -- Some directory cannot be made; those made before it stay.
  · rename_i fault directory reached directories
    rw [directories] at grown
    exact Or.inl ⟨_, rfl, grown⟩
  rename_i reached directories
  rw [directories] at grown
  rcases temporaryPath_spec reached path with ⟨number, chosen, free⟩
  dsimp only
  rw [chosen]
  split
  · exact Or.inl ⟨_, rfl, grown⟩
  rename_i spot opened made
  rcases makeTemporary_eq_ok made with ⟨led, rfl⟩
  have absent := free spot led
  split
  -- The temporary file is there, and has to go without a trace.
  · exact Or.inl ⟨_, rfl, grown.trans (.of_same_entries (entry?_erase_put absent))⟩
  · rename_i written moved
    rcases moveInto_eq_ok moved with
      ⟨content, place, encodes, arrives, named, notUp, notDirectory, rfl⟩
    have apart : place ≠ spot := by
      rw [place_eq_foldl arrives, place_eq_foldl led]
      exact spelled_ne_candidate named notUp
    rw [entry?_put_of_ne apart] at notDirectory
    have rewritten : Rewritten reached
        (((reached.put spot (.file [])).put place (.file content)).erase spot) place content :=
      .of_swap absent apart notDirectory
    have stays : KeepsDirectories (reached.put spot (.file [])) reached :=
      keepsDirectories_of_put_file (not_always_of_free absent)
    exact Or.inr ⟨rfl, content, place, encodes,
      place_mono (fun other => rewritten.directories other ∘ stays other) arrives,
      .of_grown grown rewritten⟩

/-! ### All or nothing -/

/-- Two disks with the same files: none is missing, changed or new at any place, and every path that
could be read on the first one reads the same on the second one. -/
structure SameFiles (before after : Disk) : Prop where
  files : ∀ place content,
    after.entry? place = some (.file content) ↔ before.entry? place = some (.file content)
  readable : ∀ path content, before.read path = .ok content → after.read path = .ok content

theorem Grown.sameFiles (grown : Grown before after) : SameFiles before after :=
  ⟨grown.files, fun _ _ => grown.read⟩

/-- Two disks of which the second one has a new content where a path leads, and otherwise the files of
the first one: none is missing, changed or new at another place, and every path to another place that
could be read reads the same. -/
structure OneFileNew (before after : Disk) (path : FilePath) (content : Bytes) : Prop where
  written : after.read path = .ok content
  others : ∃ place, after.place path = .ok place ∧ ∀ other ≠ place, ∀ kept,
    after.entry? other = some (.file kept) ↔ before.entry? other = some (.file kept)
  readable : ∀ other kept, before.read other = .ok kept → after.place other ≠ after.place path →
    after.read other = .ok kept

theorem Rewritten.oneFileNew {content : Bytes} (rewritten : Rewritten before after place content)
    (led : after.place path = .ok place) : OneFileNew before after path content where
  written := rewritten.read led
  others := ⟨place, led, rewritten.others⟩
  readable _ _ given apart := rewritten.read_other given (led ▸ apart)

/-- A path that could be read, and that leads to another place, reads the same. -/
theorem OneFileNew.read_eq {content kept : Bytes} {other : FilePath}
    (replaced : OneFileNew before after path content) (apart : after.place other ≠ after.place path)
    (reads : before.read other = .ok kept) : after.read other = before.read other := by
  rw [reads, replaced.readable other kept reads apart]

/-- A text is written to a path all or nothing. Where there is no such text the writing fails for that
reason. If it fails the files are the same, and if it succeeds the encoding of the text is what is new. -/
structure AllOrNothing (before : Disk) (path : FilePath) (text : Except Failure Text)
    (result : Except Failure Unit) (after : Disk) : Prop where
  absent : ∀ failure, text = .error failure → result = .error failure
  failed : ∀ failure, result = .error failure → SameFiles before after
  succeeded : result = .ok () → ∃ given content,
    text = .ok given ∧ Utf8.encode? given = .ok content ∧ OneFileNew before after path content

theorem allOrNothing_replace (disk : Disk) (path : FilePath) (text : Text) :
    AllOrNothing disk path (.ok text) (disk.replace path text).1.result (disk.replace path text).2 := by
  rcases replace_cases disk path text with
    ⟨failure, failed, grown⟩ | ⟨succeeded, content, place, encodes, led, rewritten⟩
  · exact ⟨by simp, fun _ _ => grown.sameFiles, by simp [failed]⟩
  · exact ⟨by simp, by simp [succeeded],
      fun _ => ⟨text, content, rfl, encodes, rewritten.oneFileNew led⟩⟩

end Phrasebook.Disk

/-! ### Key modules and character sets -/

namespace Phrasebook

open Disk Outcome

namespace KeyModule

variable {options : Options} {tree : Tree} {disk : Disk} {path : FilePath} {text : Text}

/-- After a text is emitted, its replacement decides how a writing ends. -/
theorem write_of_emit (emitted : (emit options tree).result = .ok text) :
    (write options tree disk path).1.result = (disk.replace path text).1.result ∧
      (write options tree disk path).2 = (disk.replace path text).2 := by
  simp only [write, emitted, reported_bind_of_ok emitted, reported_bind_report, and_self]

theorem allOrNothing_write (options : Options) (tree : Tree) (disk : Disk) (path : FilePath) :
    AllOrNothing disk path (emit options tree).result (write options tree disk path).1.result
      (write options tree disk path).2 := by
  cases emitted : (emit options tree).result with
  | error failure =>
    simp only [write, emitted]
    exact ⟨by simp, fun _ _ => (Grown.refl disk).sameFiles, by simp⟩
  | ok text =>
    rw [(write_of_emit emitted).1, (write_of_emit emitted).2]
    exact allOrNothing_replace disk path text

end KeyModule

theorem Charset.allOrNothing_write (charset : Charset) (tree : Tree) (disk : Disk) (path : FilePath) :
    AllOrNothing disk path (.ok (charset.characters tree)) (charset.write tree disk path).1.result
      (charset.write tree disk path).2 := by
  have same : (charset.write tree disk path).1.result =
      (disk.replace path (charset.characters tree)).1.result :=
    reported_bind_report _ _
  rw [same]
  exact allOrNothing_replace disk path (charset.characters tree)

end Phrasebook
