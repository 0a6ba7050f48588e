import Phrasebook.File.Disk
import Phrasebook.Proofs.Outcome

/-!
# Disks that grow

What is put at a place and taken from it changes nothing at another place. A disk that keeps the
directories of an earlier one leads every path that led somewhere to the same place, and making
directories changes no file.
-/

namespace Phrasebook.Disk

open Utf8 (Bytes)
open Outcome

variable {disk before after : Disk} {place other : FilePath} {entry : Entry}

/-! ### Entries -/

theorem lookup_filter_self (entries : List (FilePath × Entry)) (place : FilePath) :
    (entries.filter fun listed => listed.1 ≠ place).lookup place = none := by
  rw [List.lookup_eq_none_iff]
  intro listed member
  have apart : listed.1 ≠ place := by simpa using (List.mem_filter.mp member).2
  simpa using apart.symm

theorem lookup_filter_of_ne (entries : List (FilePath × Entry)) (apart : other ≠ place) :
    (entries.filter fun listed => listed.1 ≠ place).lookup other = entries.lookup other := by
  induction entries with
  | nil => rfl
  | cons listed rest ih =>
    rcases listed with ⟨first, entry⟩
    by_cases same : first = place
    · subst same
      have skipped : (other == first) = false := by simpa using apart
      rw [List.filter_cons_of_neg (by simp), ih, List.lookup_cons, skipped]
    · rw [List.filter_cons_of_pos (by simpa using same), List.lookup_cons, List.lookup_cons, ih]

/-- A place where directories stand whatever a disk holds. -/
def AlwaysDirectory (place : FilePath) : Prop := place.names.all (· = FilePath.up)

theorem entry?_of_always (always : AlwaysDirectory place) : disk.entry? place = some .directory :=
  if_pos always

theorem not_always_of_ne_directory (differs : disk.entry? place ≠ some .directory) :
    ¬AlwaysDirectory place :=
  fun always => differs (entry?_of_always always)

theorem not_always_of_free (free : disk.entry? place = none) : ¬AlwaysDirectory place :=
  not_always_of_ne_directory (show disk.entry? place ≠ some .directory by simp [free])

theorem entry?_of_not_always (free : ¬AlwaysDirectory place) :
    disk.entry? place = disk.entries.lookup place :=
  if_neg free

theorem entry?_put_self (free : ¬AlwaysDirectory place) :
    entry? (disk.put place entry) place = some entry := by
  rw [entry?_of_not_always free, put, List.lookup_cons_self]

theorem entry?_put_of_ne (apart : other ≠ place) :
    entry? (disk.put place entry) other = disk.entry? other := by
  have skipped : (other == place) = false := by simpa using apart
  simp only [put, entry?, List.lookup_cons, skipped, lookup_filter_of_ne _ apart]

theorem entry?_erase_self (free : ¬AlwaysDirectory place) :
    entry? (disk.erase place) place = none := by
  rw [entry?_of_not_always free, erase, lookup_filter_self]

theorem entry?_erase_of_ne (apart : other ≠ place) :
    entry? (disk.erase place) other = disk.entry? other := by
  simp only [erase, entry?, lookup_filter_of_ne _ apart]

/-! ### Paths -/

/-- Whether every directory of a disk is one on another disk. -/
def KeepsDirectories (before after : Disk) : Prop :=
  ∀ place, before.entry? place = some .directory → after.entry? place = some .directory

/-- Names lead nowhere but to the place that they name. -/
theorem follow_eq_foldl {names : List Text} {found : FilePath}
    (followed : disk.follow place names = .ok found) : found = names.foldl step place := by
  fun_induction follow disk place names with
  | case1 => simpa using followed.symm
  | case2 | case4 | case5 | case6 => cases followed
  | case3 place name => simpa using followed.symm
  | case7 place name rest _ next _ _ ih => exact ih followed

theorem follow_mono (keeps : KeepsDirectories before after) {names : List Text} {found : FilePath}
    (followed : before.follow place names = .ok found) : after.follow place names = .ok found := by
  fun_induction follow before place names with
  | case1 => exact followed
  | case2 | case4 | case5 | case6 => cases followed
  | case3 place name short => rw [follow, if_neg short, followed]
  | case7 place name rest notLast next short isDirectory ih =>
    rw [follow, if_neg short, keeps next isDirectory]
    · exact ih followed
    · exact notLast

variable {path : FilePath}

/-- A path leads nowhere but to the place that its names spell. -/
theorem place_eq_foldl (led : disk.place path = .ok place) :
    place = path.names.foldl step (start path) := by
  unfold Disk.place at led
  split at led
  · cases led
  · split at led
    · cases led
    · exact follow_eq_foldl led

theorem place_mono (keeps : KeepsDirectories before after) (led : before.place path = .ok place) :
    after.place path = .ok place := by
  unfold Disk.place at led ⊢
  split at led
  · cases led
  · split at led
    · cases led
    · rename_i short
      rw [if_neg short]
      exact follow_mono keeps led

/-- A path can be read if it leads to a place where a file stands. -/
theorem read_eq_ok {content : Bytes} :
    disk.read path = .ok content ↔
      ∃ place, disk.place path = .ok place ∧ disk.entry? place = some (.file content) := by
  rw [Disk.read, bind_eq_ok]
  apply exists_congr
  intro place
  apply and_congr_right
  intro led
  rcases disk.entry? place with _ | ⟨stored⟩ | _ <;> simp [pure_eq_ok]

theorem isFile_eq_true : disk.isFile path = .ok true ↔ ∃ content, disk.read path = .ok content := by
  rw [isFile]
  split <;> simp_all

/-! ### Growth -/

/-- A disk with the files of an earlier one. No directory is missing; some may be new. -/
structure Grown (before after : Disk) : Prop where
  files : ∀ place content,
    after.entry? place = some (.file content) ↔ before.entry? place = some (.file content)
  directories : KeepsDirectories before after

namespace Grown

theorem refl (disk : Disk) : Grown disk disk := ⟨fun _ _ => Iff.rfl, fun _ => id⟩

theorem trans {middle : Disk} (first : Grown before middle) (second : Grown middle after) :
    Grown before after where
  files place content := (second.files place content).trans (first.files place content)
  directories place := second.directories place ∘ first.directories place

/-- Disks that hold the same are grown from one another. -/
theorem of_same_entries (same : ∀ place, after.entry? place = before.entry? place) :
    Grown before after where
  files place content := by rw [same]
  directories place := by rw [same]; exact id

/-- What can be read before the growth can be read after it. -/
theorem read (grown : Grown before after) {content : Bytes} (given : before.read path = .ok content) :
    after.read path = .ok content := by
  rcases read_eq_ok.mp given with ⟨place, led, stands⟩
  exact read_eq_ok.mpr
    ⟨place, place_mono grown.directories led, (grown.files place content).mpr stands⟩

/-- A directory that is put at a free place. -/
theorem put_directory (free : disk.entry? place = none) :
    Grown disk (disk.put place .directory) where
  files other content := by
    by_cases same : other = place
    · have stands : entry? (disk.put place .directory) place = some .directory :=
        entry?_put_self (not_always_of_free free)
      simp [same, stands, free]
    · rw [entry?_put_of_ne same]
  directories other isDirectory := by
    have apart : other ≠ place := by
      rintro rfl
      simp [free] at isDirectory
    rw [entry?_put_of_ne apart, isDirectory]

end Grown

theorem grown_of_makeDirectory (made : disk.makeDirectory path = .ok after) : Grown disk after := by
  rw [makeDirectory, bind_eq_ok] at made
  rcases made with ⟨place, _, made⟩
  split at made
  · simp at made
  · rename_i free
    split at made
    · simp at made
    · cases pure_eq_ok.mp made
      exact .put_directory free

/-- How the making of a directory ends, with the disk that it was tried on if it fails. -/
def settled (path : FilePath) (disk : Disk) :
    Except FileFault Disk → Option (FileFault × FilePath) × Disk
  | .ok made => (none, made)
  | .error fault => (if disk.isDirectory path then none else some (fault, path), disk)

theorem grown_settled : Grown disk (settled path disk (disk.makeDirectory path)).2 := by
  cases tried : disk.makeDirectory path with
  | ok made => exact grown_of_makeDirectory tried
  | error fault => exact .refl disk

/-- A directory is tried once unless the one above it is missing. -/
theorem makeDirectories_of_tried {root : PathRoot} {namesBackwards : List Text}
    (present : disk.makeDirectory ⟨root, namesBackwards.reverse⟩ = .error .missing →
      namesBackwards = []) :
    disk.makeDirectories root namesBackwards =
      settled ⟨root, namesBackwards.reverse⟩ disk
        (disk.makeDirectory ⟨root, namesBackwards.reverse⟩) := by
  rw [makeDirectories]
  · rfl
  · rintro name above missing rfl
    exact List.cons_ne_nil _ _ (present missing)

theorem makeDirectories_of_missing {root : PathRoot} {name : Text} {above : List Text}
    (missing : disk.makeDirectory ⟨root, (name :: above).reverse⟩ = .error .missing) :
    disk.makeDirectories root (name :: above) =
      match disk.makeDirectories root above with
      | (none, reached) =>
        settled ⟨root, (name :: above).reverse⟩ reached
          (reached.makeDirectory ⟨root, (name :: above).reverse⟩)
      | failed => failed := by
  rw [makeDirectories]
  · rfl
  · exact missing

/-- Directories are made one by one, and no file is touched, whether all of them can be made or not. -/
theorem grown_makeDirectories (disk : Disk) (root : PathRoot) (namesBackwards : List Text) :
    Grown disk (disk.makeDirectories root namesBackwards).2 := by
  induction namesBackwards with
  | nil =>
    rw [makeDirectories_of_tried fun _ => rfl]
    exact grown_settled
  | cons name above ih =>
    by_cases missing : disk.makeDirectory ⟨root, (name :: above).reverse⟩ = .error .missing
    · rw [makeDirectories_of_missing missing]
      split
      · rename_i reached made
        rw [made] at ih
        exact ih.trans grown_settled
      · exact ih
    · rw [makeDirectories_of_tried fun failed => absurd failed missing]
      exact grown_settled

end Phrasebook.Disk
