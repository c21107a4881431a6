import Driftwatch.Scan.Changes
import Mathlib.Data.Finset.Dedup
import Mathlib.Data.Finset.SDiff

/-!
# Changes as sets of paths

A report says which paths went away and which came. Taken together these two lists carry the set of
paths of a scan to that of the next one, whatever order the files were listed in and even if a path
occurs more than once.

## Main definitions

* `Snapshot.paths`: the set of paths of a snapshot.
* `Changes.apply`: what a report makes of a set of paths.

## Main results

* `mem_newFiles_compareFiles`, `mem_deletedFiles_compareFiles`: which paths a report names.
* `apply_changesSince`: from one scan to the next.
-/

namespace Driftwatch

/-! ### Changes and sets of paths -/

/-- The paths of the files of a snapshot. -/
def Snapshot.paths (snapshot : Snapshot) : Finset String :=
  (snapshot.files.map (·.filePath)).toFinset

/-- A set of paths without the deleted files and with the new ones. -/
def Changes.apply (changes : Changes) (paths : Finset String) : Finset String :=
  (paths \ changes.deletedFiles.toFinset) ∪ changes.newFiles.toFinset

theorem lastRecord?_eq_none_iff {files : List ScannedFile} {path : String} :
    lastRecord? files path = none ↔ path ∉ files.map (·.filePath) := by
  simp only [lastRecord?, List.find?_eq_none, List.mem_reverse, List.mem_map, beq_iff_eq]
  exact ⟨fun h ⟨file, hfile, hpath⟩ => h file hfile hpath,
    fun h file hfile hpath => h ⟨file, hfile, hpath⟩⟩

theorem mem_of_lastRecord? {files : List ScannedFile} {path : String} {file : ScannedFile}
    (h : lastRecord? files path = some file) : file ∈ files ∧ file.filePath = path :=
  ⟨List.mem_reverse.1 (List.mem_of_find?_eq_some h), by simpa using List.find?_some h⟩

/-- Where a record is the only one with its path, it is the last one. -/
theorem lastRecord?_of_forall {files : List ScannedFile} {file : ScannedFile} (hfile : file ∈ files)
    (h : ∀ other ∈ files, other.filePath = file.filePath → other = file) :
    lastRecord? files file.filePath = some file := by
  cases hlast : lastRecord? files file.filePath with
  | none => exact absurd (List.mem_map_of_mem hfile) (lastRecord?_eq_none_iff.1 hlast)
  | some found =>
    obtain ⟨hmem, hpath⟩ := mem_of_lastRecord? hlast
    rw [h found hmem hpath]

/-- Where no path occurs twice, a record is the last one with its path. -/
theorem lastRecord?_of_mem {files : List ScannedFile} (h : (files.map (·.filePath)).Nodup)
    {file : ScannedFile} (hfile : file ∈ files) : lastRecord? files file.filePath = some file :=
  lastRecord?_of_forall hfile fun _ hother hpath => List.inj_on_of_nodup_map h hother hfile hpath

/-- Only a file without an earlier record is new. -/
theorem newFiles_add_changeSince (report : Changes) (file : ScannedFile)
    (old : Option ScannedFile) :
    (report.add file.filePath (file.changeSince old)).newFiles =
      if old = none then file.filePath :: report.newFiles else report.newFiles := by
  cases old with
  | none => rfl
  | some old =>
    simp only [ScannedFile.changeSince, reduceCtorEq, if_false]
    split
    · rfl
    · split <;> rfl

theorem mem_newFiles_compareFiles {current previous : List ScannedFile} {path : String} :
    path ∈ (compareFiles current previous).newFiles ↔
      path ∈ current.map (·.filePath) ∧ path ∉ previous.map (·.filePath) := by
  simp only [compareFiles]
  induction current with
  | nil => simp
  | cons file current ih =>
    rw [List.foldr_cons, newFiles_add_changeSince]
    split
    · next hnone =>
      rw [List.mem_cons, ih, List.map_cons, List.mem_cons]
      rw [lastRecord?_eq_none_iff] at hnone
      constructor
      · rintro (rfl | ⟨hmem, hnot⟩)
        · exact ⟨.inl rfl, hnone⟩
        · exact ⟨.inr hmem, hnot⟩
      · rintro ⟨rfl | hmem, hnot⟩
        · exact .inl rfl
        · exact .inr ⟨hmem, hnot⟩
    · next hsome =>
      rw [ih, List.map_cons, List.mem_cons]
      rw [lastRecord?_eq_none_iff, not_not] at hsome
      constructor
      · rintro ⟨hmem, hnot⟩
        exact ⟨.inr hmem, hnot⟩
      · rintro ⟨rfl | hmem, hnot⟩
        · exact absurd hsome hnot
        · exact ⟨hmem, hnot⟩

theorem mem_deletedFiles_compareFiles {current previous : List ScannedFile} {path : String} :
    path ∈ (compareFiles current previous).deletedFiles ↔
      path ∈ previous.map (·.filePath) ∧ path ∉ current.map (·.filePath) := by
  simp only [compareFiles, List.mem_map, List.mem_filter, Bool.not_eq_true', List.any_eq_false,
    beq_iff_eq]
  constructor
  · rintro ⟨file, ⟨hfile, hnone⟩, rfl⟩
    exact ⟨⟨file, hfile, rfl⟩, fun ⟨other, hother, heq⟩ => hnone other hother heq⟩
  · rintro ⟨⟨file, hfile, rfl⟩, hnone⟩
    exact ⟨file, ⟨hfile, fun other hother heq => hnone ⟨other, hother, heq⟩⟩, rfl⟩

/-- The changes since a scan lead from its paths to the paths of the next one. -/
theorem apply_changesSince (current : Snapshot) (previous : Option Snapshot) :
    (current.changesSince previous).apply ((previous.map Snapshot.paths).getD ∅) =
      current.paths := by
  ext path
  cases previous with
  | none => simp [Changes.apply, Snapshot.changesSince, Snapshot.paths]
  | some previous =>
    simp only [Changes.apply, Snapshot.changesSince, Snapshot.paths, Option.map_some,
      Option.getD_some, Finset.mem_union, Finset.mem_sdiff, List.mem_toFinset,
      mem_newFiles_compareFiles, mem_deletedFiles_compareFiles]
    by_cases hcurrent : path ∈ current.files.map (·.filePath) <;>
      by_cases hprevious : path ∈ previous.files.map (·.filePath) <;> simp [hcurrent, hprevious]

end Driftwatch
