import Phrasebook.Proofs.File.Replacement
import Phrasebook.Proofs.Text.Split

/-!
# Paths that no file system takes

Two kinds of characters cannot stand in a path: the one that ends texts in file systems, and surrogates that
stand for no byte. Reading at a path fails for them exactly if a name of the path has one, and so it is with
every fault for them when a file is replaced, unless the disk gives that for a reason of its own.
-/

namespace Phrasebook

open Outcome

/-- Whether a character cannot stand in a path. -/
def CodePoint.isUntaken (point : CodePoint) : Bool := point.hasNoByte || point == .scalar '\x00'

/-- A name of a path has a character that cannot stand in a path. -/
def FilePath.HasUntaken (path : FilePath) : Prop := ∃ name ∈ path.names, ∃ point ∈ name, point.isUntaken

/-- Whether a failure is that of a path which no file system takes. -/
def Failure.isOfPath : Failure → Bool
  | .file fault _ | .temporaryFile fault _ => fault.isOfPath
  | _ => false

namespace FilePath

variable {path : FilePath} {point : CodePoint}

theorem mem_display_iff (untaken : point.isUntaken) :
    point ∈ path.display ↔ ∃ name ∈ path.names, point ∈ name := by
  have missing (text : Text) (taken : text.any CodePoint.isUntaken = false) : point ∉ text := by
    rw [List.any_eq_false] at taken
    exact fun inside => taken point inside untaken
  have root : point ∉ rootText path.root := missing _ (by cases path.root <;> decide)
  unfold display
  split
  · rename_i here
    exact iff_of_false (missing "." (by decide)) (by simp [here.2])
  · rw [List.mem_append, or_iff_right root]
    constructor
    · intro inside
      exact (Text.mem_joinWith inside).resolve_left (missing "/" (by decide))
    · rintro ⟨name, listed, inside⟩
      exact Text.mem_joinWith_of_mem _ listed inside

/-- A directory above a path has no name that the path does not have. -/
theorem hasUntaken_of_parent (untaken : path.parent.HasUntaken) : path.HasUntaken := by
  rcases untaken with ⟨name, listed, inside⟩
  exact ⟨name, List.dropLast_subset _ listed, inside⟩

theorem hasUntaken_of_name (inside : point ∈ path.name) (untaken : point.isUntaken) : path.HasUntaken := by
  cases names : path.names.getLast? with
  | none => simp [name, List.getLastD_eq_getLast?, names] at inside
  | some last =>
    rw [name, List.getLastD_eq_getLast?, names] at inside
    exact ⟨last, List.mem_of_getLast? names, point, inside, untaken⟩

end FilePath

namespace Disk

variable {disk : Disk} {path : FilePath}

theorem pathFault?_isSome : (pathFault? path).isSome ↔ path.HasUntaken := by
  have inside : path.HasUntaken ↔ ∃ point ∈ path.display, point.isUntaken := by
    constructor
    · rintro ⟨name, listed, point, inside, untaken⟩
      exact ⟨point, (FilePath.mem_display_iff untaken).mpr ⟨name, listed, inside⟩, untaken⟩
    · rintro ⟨point, inside, untaken⟩
      rcases (FilePath.mem_display_iff untaken).mp inside with ⟨name, listed, inside⟩
      exact ⟨name, listed, point, inside, untaken⟩
  rw [inside, pathFault?]
  split
  · rename_i noByte
    rcases List.any_eq_true.mp noByte with ⟨point, listed, noByte⟩
    exact iff_of_true rfl ⟨point, listed, by simp [CodePoint.isUntaken, noByte]⟩
  · rename_i bytes
    split
    · rename_i nul
      exact iff_of_true rfl ⟨_, List.contains_iff_mem.mp nul, by decide⟩
    · rename_i noNul
      refine iff_of_false Bool.false_ne_true ?_
      rintro ⟨point, listed, untaken⟩
      rcases Bool.or_eq_true_iff.mp untaken with noByte | nul
      · exact bytes (List.any_eq_true.mpr ⟨point, listed, noByte⟩)
      · cases eq_of_beq nul
        exact noNul (List.contains_iff_mem.mpr listed)

theorem isOfPath_of_pathFault? {fault : FileFault} (found : pathFault? path = some fault) :
    fault.isOfPath := by
  unfold pathFault? at found
  split at found
  · cases found
    rfl
  · split at found <;> cases found
    rfl

theorem follow_not_isOfPath {fault : FileFault} (place : FilePath) (names : List Text)
    (failed : disk.follow place names = .error fault) : ¬fault.isOfPath := by
  fun_induction follow disk place names with
  | case7 place name rest _ next _ _ ih => exact ih failed
  | _ => cases failed <;> decide

/-- A path leads nowhere because no file system takes it exactly if it has what keeps them from it. -/
theorem place_eq_error_of_isOfPath {fault : FileFault} (ofPath : fault.isOfPath) :
    disk.place path = .error fault ↔ pathFault? path = some fault := by
  rw [Disk.place]
  split
  · rename_i found
    rw [found]
    simp
  · rename_i sound
    rw [sound]
    refine iff_of_false (fun failed => ?_) (by simp)
    split at failed
    · cases failed
      cases ofPath
    · exact follow_not_isOfPath _ _ failed ofPath

theorem read_eq_error_of_isOfPath {fault : FileFault} (ofPath : fault.isOfPath) :
    disk.read path = .error fault ↔ pathFault? path = some fault := by
  rw [Disk.read, bind_eq_error, place_eq_error_of_isOfPath ofPath, or_iff_left]
  rintro ⟨place, _, failed⟩
  split at failed
  · cases throw_eq_error.mp failed
    cases ofPath
  · cases throw_eq_error.mp failed
    cases ofPath
  · cases failed

theorem hasUntaken_of_place {fault : FileFault} (ofPath : fault.isOfPath)
    (failed : disk.place path = .error fault) : path.HasUntaken := by
  rw [← pathFault?_isSome, (place_eq_error_of_isOfPath ofPath).mp failed]
  rfl

/-! ### Replacements -/

variable {fault : FileFault}

/-- No stage of a replacement is refused, for a reason of the disk, as a path is that no file system takes. -/
def RefusesNoPath (disk : Disk) : Prop := ∀ stage, ∀ fault ∈ disk.refusal stage, ¬fault.isOfPath

theorem refusal_of_makeDirectory {after : Disk} (made : disk.makeDirectory path = .ok after) :
    after.refusal = disk.refusal := by
  rw [makeDirectory, bind_eq_ok] at made
  rcases made with ⟨place, _, made⟩
  split at made
  · simp at made
  · split at made
    · simp at made
    · cases pure_eq_ok.mp made
      rfl

theorem refusal_settled :
    (settled path disk (disk.makeDirectory path)).2.refusal = disk.refusal := by
  cases tried : disk.makeDirectory path with
  | ok made => exact refusal_of_makeDirectory tried
  | error fault => rfl

theorem makeDirectory_untaken (honest : disk.RefusesNoPath) (ofPath : fault.isOfPath)
    (failed : disk.makeDirectory path = .error fault) : path.HasUntaken := by
  rw [makeDirectory, bind_eq_error] at failed
  rcases failed with failed | ⟨place, _, failed⟩
  · exact hasUntaken_of_place ofPath failed
  · split at failed
    · cases throw_eq_error.mp failed
      cases ofPath
    · split at failed
      · rename_i refused
        cases throw_eq_error.mp failed
        exact absurd ofPath (honest .directory fault refused)
      · cases failed

theorem settled_untaken (honest : disk.RefusesNoPath) (ofPath : fault.isOfPath) {directory : FilePath}
    {reached : Disk}
    (failed : settled path disk (disk.makeDirectory path) = (some (fault, directory), reached)) :
    path.HasUntaken := by
  cases tried : disk.makeDirectory path with
  | ok made =>
    rw [tried] at failed
    cases failed
  | error other =>
    simp only [tried, settled, Prod.mk.injEq, Option.ite_none_left_eq_some, Option.some.injEq] at failed
    rcases failed with ⟨⟨_, rfl, _⟩, _⟩
    exact makeDirectory_untaken honest ofPath tried

/-- Making directories changes nothing about what a disk refuses. -/
theorem refusal_makeDirectories (disk : Disk) (root : PathRoot) (namesBackwards : List Text) :
    (disk.makeDirectories root namesBackwards).2.refusal = disk.refusal := by
  induction namesBackwards with
  | nil =>
    rw [makeDirectories_of_tried fun _ => rfl]
    exact refusal_settled
  | cons name above ih =>
    by_cases missing : disk.makeDirectory ⟨root, (name :: above).reverse⟩ = .error .missing
    · rw [makeDirectories_of_missing missing]
      split
      · rename_i reached made
        rw [made] at ih
        exact refusal_settled.trans ih
      · exact ih
    · rw [makeDirectories_of_tried fun failed => absurd failed missing]
      exact refusal_settled

/-- Directories cannot be made for the sake of a name only if that name is among theirs. -/
theorem makeDirectories_untaken (honest : disk.RefusesNoPath) (ofPath : fault.isOfPath) (root : PathRoot)
    (namesBackwards : List Text) {directory : FilePath} {reached : Disk}
    (failed : disk.makeDirectories root namesBackwards = (some (fault, directory), reached)) :
    FilePath.HasUntaken ⟨root, namesBackwards.reverse⟩ := by
  induction namesBackwards generalizing directory reached with
  | nil =>
    rw [makeDirectories_of_tried fun _ => rfl] at failed
    exact settled_untaken honest ofPath failed
  | cons name above ih =>
    -- A directory that is missing is tried again once those above it are made.
    by_cases missing : disk.makeDirectory ⟨root, (name :: above).reverse⟩ = .error .missing
    · rw [makeDirectories_of_missing missing] at failed
      split at failed
      · rename_i middle made
        have same := refusal_makeDirectories disk root above
        rw [made] at same
        exact settled_untaken (by rwa [RefusesNoPath, same]) ofPath failed
      · rcases ih failed with ⟨other, listed, inside⟩
        exact ⟨other, by simpa using Or.inl (List.mem_reverse.mp listed), inside⟩
    · rw [makeDirectories_of_tried fun failed => absurd failed missing] at failed
      exact settled_untaken honest ofPath failed

theorem isUntaken_padded (width number : Nat) :
    ∀ point ∈ Numeral.padded 10 width number, ¬point.isUntaken := by
  intro point inside
  rcases List.mem_append.mp inside with zero | digit
  · cases List.eq_of_mem_replicate zero
    decide
  · have isDigit := Numeral.isAsciiDigit_of_mem_natural number point digit
    cases point with
    | scalar char =>
      intro untaken
      have nul : CodePoint.scalar char = .scalar '\x00' := eq_of_beq untaken
      rw [nul] at isDigit
      exact absurd isDigit (by decide)
    | surrogate offset =>
      have great : ¬(0xD800 + offset.val ≤ 0x39) := by omega
      simp [CodePoint.isAsciiDigit, CodePoint.digit?, CodePoint.value, great] at isDigit

/-- The path of a temporary file adds no name to those of its file that no file system takes. -/
theorem hasUntaken_of_candidate {number : Nat} (untaken : (candidate path number).HasUntaken) :
    path.HasUntaken := by
  rcases untaken with ⟨name, listed, point, inside, untaken⟩
  rcases List.mem_append.mp listed with above | last
  · exact FilePath.hasUntaken_of_parent ⟨name, above, point, inside, untaken⟩
  · cases List.mem_singleton.mp last
    have dot : ∀ other ∈ Text.ofString ".", ¬other.isUntaken := by decide
    have suffix : ∀ other ∈ Text.ofString ".tmp", ¬other.isUntaken := by decide
    simp only [temporaryName, List.mem_append] at inside
    rcases inside with (((opening | own) | between) | number) | ending
    · exact absurd untaken (dot point opening)
    · exact FilePath.hasUntaken_of_name own untaken
    · exact absurd untaken (dot point between)
    · exact absurd untaken (isUntaken_padded _ _ point number)
    · exact absurd untaken (suffix point ending)

theorem makeTemporary_untaken (honest : disk.RefusesNoPath) (ofPath : fault.isOfPath)
    (failed : disk.makeTemporary path = .error fault) : path.HasUntaken := by
  rw [makeTemporary, bind_eq_error] at failed
  rcases failed with failed | ⟨place, _, failed⟩
  · exact hasUntaken_of_place ofPath failed
  · split at failed
    · rename_i refused
      cases throw_eq_error.mp failed
      exact absurd ofPath (honest .temporary fault refused)
    · cases failed

theorem replacementFault?_untaken (honest : disk.RefusesNoPath) (ofPath : fault.isOfPath)
    (kept : disk.replacementFault? path = some fault) : path.HasUntaken := by
  rw [replacementFault?] at kept
  split at kept
  · cases kept
    cases ofPath
  · split at kept
    · rename_i failed
      cases kept
      exact hasUntaken_of_place ofPath failed
    · split at kept
      · cases kept
        cases ofPath
      · exact absurd ofPath (honest .replacing fault kept)

theorem moveInto_untaken (honest : disk.RefusesNoPath) {temporary : FilePath} {text : Text}
    {failure : Failure} (failed : disk.moveInto temporary path text = .error failure)
    (ofPath : failure.isOfPath) : path.HasUntaken := by
  rw [moveInto, bind_eq_error] at failed
  rcases failed with refused | ⟨content, _, failed⟩
  · rw [encoded] at refused
    split at refused <;> cases refused
    cases ofPath
  split at failed
  · rename_i fault refused
    cases throw_eq_error.mp failed
    exact absurd ofPath (honest .writing fault refused)
  · split at failed
    · rename_i fault kept
      cases throw_eq_error.mp failed
      exact replacementFault?_untaken honest ofPath kept
    · simp only [bind_eq_error, mapError_eq_error, pure_ne_error, and_false, exists_false, or_false] at failed
      rcases failed with ⟨fault, refused, rfl⟩
      exact hasUntaken_of_place ofPath refused

/-- A file is not replaced, as at a path that no file system takes, only if its path is one. -/
theorem hasUntaken_of_replace (honest : disk.RefusesNoPath) {text : Text} {failure : Failure}
    (failed : (disk.replace path text).1.result = .error failure) (ofPath : failure.isOfPath) :
    path.HasUntaken := by
  unfold replace at failed
  split at failed
  · rename_i fault directory reached made
    cases failed
    have above := makeDirectories_untaken honest ofPath _ _ made
    rw [List.reverse_reverse] at above
    exact FilePath.hasUntaken_of_parent above
  · rename_i reached made
    have same := refusal_makeDirectories disk path.parent.root path.parent.names.reverse
    rw [made] at same
    have reachedHonest : reached.RefusesNoPath := by
      rwa [RefusesNoPath, same]
    rcases temporaryPath_spec reached path with ⟨number, chosen, _⟩
    dsimp only at failed
    rw [chosen] at failed
    split at failed
    · rename_i fault refused
      cases failed
      exact hasUntaken_of_candidate (makeTemporary_untaken reachedHonest ofPath refused)
    · rename_i spot opened opens
      rcases makeTemporary_eq_ok opens with ⟨_, rfl⟩
      split at failed
      · rename_i moved
        cases failed
        have openedHonest : (reached.put spot (.file [])).RefusesNoPath := reachedHonest
        exact moveInto_untaken openedHonest moved ofPath
      · cases failed

end Disk

end Phrasebook
