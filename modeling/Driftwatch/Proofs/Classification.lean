import Mathlib.Algebra.GroupWithZero.Nat
import Mathlib.Data.List.Sort
import Driftwatch.Proofs.Comparison
import Driftwatch.Proofs.Signature

/-!
# Classification of files

A comparison of two scans puts every path of either into one of five lists: new, deleted, modified,
drifted and unchanged. The lists are made in one pass over the current files and one over the
earlier ones, so each of them is in the order of its scan.

## The shape of the argument

A file of the current scan has a kind, which depends on its earlier record only. One step of the
pass puts the path of a file into the list of its kind and leaves the other lists alone
(`Changes.listed_add`), so the list of a kind holds the paths of the files of that kind
(`listed_compareFiles`). Everything else is read off these lists. Where no path occurs twice in a
scan, the earlier record of a file is the only one with its path.

## Main definitions

* `ChangeKind`: the five kinds, with `Changes.listed` for the paths of a kind.
* `ScannedFile.kindSince`: the kind of a file that both scans have.
* `Changes.Classifies`: what is asked of a report.

## Main results

* `listed_compareFiles`: the list of each kind.
* `mem_listed_common_iff`: paths that both scans have.
* `changesSince_classifies`: every report is as asked.
-/

namespace Driftwatch

/-! ### Signatures of two versions -/

/-- Sets with the same members are equal. -/
theorem SignatureSet.eq_of_mem_iff {first second : SignatureSet}
    (h : ∀ x, x ∈ first.items ↔ x ∈ second.items) : first = second := by
  have hitems := first.increasing.eq_of_mem_iff second.increasing h
  cases first
  cases second
  cases hitems
  rfl

/-- A comparison is structural exactly when the sets of signatures differ. -/
theorem isStructural_changesSince {current previous : Extraction} :
    (current.changesSince previous).isStructural = true ↔
      current.signatures ≠ previous.signatures := by
  rw [ne_eq, ← Bool.not_eq_false, not_iff_not, changesSince_isStructural_iff]
  constructor
  · intro h
    exact SignatureSet.eq_of_mem_iff h
  · intro h x
    rw [h]

/-! ### Kinds of changes -/

/-- What became of a path from one scan to the next. -/
inductive ChangeKind where
  | new
  | deleted
  | modified
  | drifted
  | unchanged
  deriving DecidableEq

/-- The kind of a change of a file. -/
def FileChange.kind : FileChange → ChangeKind
  | added => .new
  | modified _ => .modified
  | drifted _ => .drifted
  | unchanged => .unchanged

theorem FileChange.kind_ne_deleted (change : FileChange) : change.kind ≠ .deleted := by
  cases change <;> exact ChangeKind.noConfusion

/-- The paths that a report gives for a kind. -/
def Changes.listed (report : Changes) : ChangeKind → List String
  | .new => report.newFiles
  | .deleted => report.deletedFiles
  | .modified => report.modifiedFiles.map (·.filePath)
  | .drifted => report.driftedFiles.map (·.filePath)
  | .unchanged => report.unchangedFiles

namespace ScannedFile

/-- The kind of a file that both scans have. -/
def kindSince (file old : ScannedFile) : ChangeKind :=
  if file.fileHash ≠ old.fileHash then .modified
  else if file.analysis.signatures ≠ old.analysis.signatures then .drifted
  else .unchanged

/-- The record of a modified file. -/
def modifiedSince (file old : ScannedFile) : ModifiedFile :=
  ⟨file.filePath, old.analysis.totalLines, file.analysis.totalLines,
    lineDifference old.analysis.totalLines file.analysis.totalLines,
    file.analysis.changesSince old.analysis⟩

/-- The record of a drifted file. -/
def driftedSince (file old : ScannedFile) : DriftedFile :=
  ⟨file.filePath, file.analysis.changesSince old.analysis⟩

variable {file old : ScannedFile}

theorem kindSince_eq_modified_iff : file.kindSince old = .modified ↔
    file.fileHash ≠ old.fileHash := by
  grind [kindSince]

theorem kindSince_eq_drifted_iff : file.kindSince old = .drifted ↔
    file.fileHash = old.fileHash ∧ file.analysis.signatures ≠ old.analysis.signatures := by
  grind [kindSince]

theorem kindSince_eq_unchanged_iff : file.kindSince old = .unchanged ↔
    file.fileHash = old.fileHash ∧ file.analysis.signatures = old.analysis.signatures := by
  grind [kindSince]

theorem kindSince_cases (file old : ScannedFile) : file.kindSince old = .modified ∨
    file.kindSince old = .drifted ∨ file.kindSince old = .unchanged := by
  grind [kindSince]

theorem kindSince_ne_new (file old : ScannedFile) : file.kindSince old ≠ .new := by
  obtain h | h | h := file.kindSince_cases old <;> rw [h] <;> exact ChangeKind.noConfusion

theorem kindSince_ne_deleted (file old : ScannedFile) : file.kindSince old ≠ .deleted := by
  obtain h | h | h := file.kindSince_cases old <;> rw [h] <;> exact ChangeKind.noConfusion

/-- What becomes of a file that both scans have, by its kind. -/
theorem changeSince_some (file old : ScannedFile) : file.changeSince (some old) =
    match file.kindSince old with
    | .modified => .modified (file.modifiedSince old)
    | .drifted => .drifted (file.driftedSince old)
    | _ => .unchanged := by
  simp only [changeSince, kindSince, isStructural_changesSince]
  split
  · rfl
  · split <;> rfl

theorem kind_changeSince_some (file old : ScannedFile) :
    (file.changeSince (some old)).kind = file.kindSince old := by
  rw [changeSince_some]
  obtain h | h | h := file.kindSince_cases old <;> rw [h] <;> rfl

end ScannedFile

/-! ### The lists of a report -/

section

variable {current previous : List ScannedFile} {path : String}

/-- **One step of the pass.** The path of a file goes to the list of its kind. -/
theorem Changes.listed_add (report : Changes) (file : ScannedFile) (old : Option ScannedFile)
    (kind : ChangeKind) :
    (report.add file.filePath (file.changeSince old)).listed kind =
      if (file.changeSince old).kind = kind then file.filePath :: report.listed kind
      else report.listed kind := by
  cases old with
  | none => cases kind <;> rfl
  | some old =>
    rw [ScannedFile.changeSince_some]
    obtain h | h | h := file.kindSince_cases old <;> rw [h] <;> cases kind <;> rfl

/-- What became of a file since the scan of the given files. -/
def ScannedFile.changeIn (file : ScannedFile) (previous : List ScannedFile) : FileChange :=
  file.changeSince (lastRecord? previous file.filePath)

/-- The pass puts the paths of the files of a kind into its list, in their order. -/
theorem listed_foldr_add (current previous : List ScannedFile) (kind : ChangeKind) :
    (current.foldr (fun file (report : Changes) =>
      report.add file.filePath (file.changeSince (lastRecord? previous file.filePath))) {}).listed
        kind =
      (current.filter fun file => (file.changeIn previous).kind = kind).map (·.filePath) := by
  induction current with
  | nil => cases kind <;> rfl
  | cons file current ih =>
    rw [List.foldr_cons, Changes.listed_add, ih, ← ScannedFile.changeIn]
    by_cases hkind : (file.changeIn previous).kind = kind
    · rw [if_pos hkind, List.filter_cons_of_pos (by simpa using hkind), List.map_cons]
    · rw [if_neg hkind, List.filter_cons_of_neg (by simpa using hkind)]

/-- **The list of a kind** that a file of the current scan can have. -/
theorem listed_compareFiles (current previous : List ScannedFile) {kind : ChangeKind}
    (h : kind ≠ .deleted) : (compareFiles current previous).listed kind =
      (current.filter fun file => (file.changeIn previous).kind = kind).map (·.filePath) := by
  rw [← listed_foldr_add]
  cases kind with
  | deleted => exact absurd rfl h
  | new | modified | drifted | unchanged => rfl

theorem mem_listed_iff {kind : ChangeKind} (h : kind ≠ .deleted) :
    path ∈ (compareFiles current previous).listed kind ↔
      ∃ file ∈ current, file.filePath = path ∧ (file.changeIn previous).kind = kind := by
  rw [listed_compareFiles current previous h]
  simp only [List.mem_map, List.mem_filter, decide_eq_true_eq]
  constructor
  · rintro ⟨file, ⟨hfile, hkind⟩, hpath⟩
    exact ⟨file, hfile, hpath, hkind⟩
  · rintro ⟨file, hfile, hpath, hkind⟩
    exact ⟨file, ⟨hfile, hkind⟩, hpath⟩

/-- A path that is listed for its two records has them. -/
theorem exists_records_of_mem_listed {kind : ChangeKind} (hnew : kind ≠ .new)
    (hdeleted : kind ≠ .deleted) (h : path ∈ (compareFiles current previous).listed kind) :
    ∃ file ∈ current, ∃ old ∈ previous, file.filePath = path ∧ old.filePath = path ∧
      file.kindSince old = kind := by
  obtain ⟨file, hfile, rfl, hkind⟩ := (mem_listed_iff hdeleted).1 h
  unfold ScannedFile.changeIn at hkind
  cases hold : lastRecord? previous file.filePath with
  | none =>
    rw [hold] at hkind
    exact absurd hkind.symm hnew
  | some old =>
    rw [hold, ScannedFile.kind_changeSince_some] at hkind
    obtain ⟨hmem, hpath⟩ := mem_of_lastRecord? hold
    exact ⟨file, hfile, old, hmem, rfl, hpath, hkind⟩

/-- **Paths that both scans have** are listed by the kind of their two records. -/
theorem mem_listed_common_iff (hprevious : (previous.map (·.filePath)).Nodup) (kind : ChangeKind)
    (hnew : kind ≠ .new) (hdeleted : kind ≠ .deleted) :
    path ∈ (compareFiles current previous).listed kind ↔
      ∃ file ∈ current, ∃ old ∈ previous, file.filePath = path ∧ old.filePath = path ∧
        file.kindSince old = kind := by
  refine ⟨exists_records_of_mem_listed hnew hdeleted, ?_⟩
  rintro ⟨file, hfile, old, hold, rfl, hpath, hkind⟩
  refine (mem_listed_iff hdeleted).2 ⟨file, hfile, rfl, ?_⟩
  rw [ScannedFile.changeIn, ← hpath, lastRecord?_of_mem hprevious hold,
    ScannedFile.kind_changeSince_some, hkind]

/-- The records of modified files are made one by one. -/
theorem exists_of_mem_modifiedFiles {file : ModifiedFile}
    (h : file ∈ (compareFiles current previous).modifiedFiles) :
    ∃ now ∈ current, now.changeIn previous = .modified file := by
  simp only [compareFiles] at h
  induction current with
  | nil => exact absurd h List.not_mem_nil
  | cons first current ih =>
    have hlater : file ∈ (compareFiles current previous).modifiedFiles →
        ∃ now ∈ first :: current, now.changeIn previous = .modified file := by
      intro hrest
      obtain ⟨now, hnow, hchange⟩ := ih hrest
      exact ⟨now, List.mem_cons_of_mem first hnow, hchange⟩
    rw [List.foldr_cons, ← ScannedFile.changeIn] at h
    cases hchange : first.changeIn previous with
    | modified found =>
      rw [hchange] at h
      rcases List.mem_cons.1 h with rfl | hrest
      · exact ⟨first, List.mem_cons_self, hchange⟩
      · exact hlater hrest
    | added | drifted | unchanged =>
      rw [hchange] at h
      exact hlater h

/-- A modified file carries what its two records say. -/
theorem exists_records_of_mem_modifiedFiles {file : ModifiedFile}
    (h : file ∈ (compareFiles current previous).modifiedFiles) :
    ∃ now ∈ current, ∃ old ∈ previous, old.filePath = now.filePath ∧
      file = now.modifiedSince old := by
  obtain ⟨now, hnow, hchange⟩ := exists_of_mem_modifiedFiles h
  unfold ScannedFile.changeIn at hchange
  cases hold : lastRecord? previous now.filePath with
  | none =>
    rw [hold] at hchange
    cases hchange
  | some old =>
    obtain ⟨hmem, hpath⟩ := mem_of_lastRecord? hold
    rw [hold, ScannedFile.changeSince_some] at hchange
    refine ⟨now, hnow, old, hmem, hpath, ?_⟩
    obtain hkind | hkind | hkind := now.kindSince_cases old
    · rw [hkind] at hchange
      exact (FileChange.modified.inj hchange).symm
    · rw [hkind] at hchange
      cases hchange
    · rw [hkind] at hchange
      cases hchange

end

/-! ### Reports -/

/-- The two records of a path, of which `P` holds. -/
def Snapshot.Both (current previous : Snapshot) (path : String)
    (P : ScannedFile → ScannedFile → Prop) : Prop :=
  ∃ file ∈ current.files, ∃ old ∈ previous.files,
    file.filePath = path ∧ old.filePath = path ∧ P file old

/-- A report that says of every path of two scans what became of it, and of no other. -/
structure Changes.Classifies (report : Changes) (current previous : Snapshot) : Prop where
  exactly_one : ∀ path ∈ current.paths ∪ previous.paths, ∃! kind, path ∈ report.listed kind
  no_other : ∀ kind, ∀ path ∈ report.listed kind, path ∈ current.paths ∪ previous.paths
  new_iff : ∀ path, path ∈ report.newFiles ↔ path ∈ current.paths ∧ path ∉ previous.paths
  deleted_iff : ∀ path, path ∈ report.deletedFiles ↔ path ∈ previous.paths ∧ path ∉ current.paths
  modified_iff : ∀ path, path ∈ report.modifiedFiles.map (·.filePath) ↔
    current.Both previous path fun file old => file.fileHash ≠ old.fileHash
  drifted_iff : ∀ path, path ∈ report.driftedFiles.map (·.filePath) ↔
    current.Both previous path fun file old => file.fileHash = old.fileHash ∧
      file.analysis.signatures ≠ old.analysis.signatures
  unchanged_iff : ∀ path, path ∈ report.unchangedFiles ↔
    current.Both previous path fun file old => file.fileHash = old.fileHash ∧
      file.analysis.signatures = old.analysis.signatures
  current_order : ∀ kind ≠ .deleted,
    (report.listed kind).Sublist (current.files.map (·.filePath))
  previous_order : report.deletedFiles.Sublist (previous.files.map (·.filePath))
  modified : ∀ file ∈ report.modifiedFiles,
    current.Both previous file.filePath fun now old =>
      file.previousLines = old.analysis.totalLines ∧ file.currentLines = now.analysis.totalLines ∧
        file.changes = now.analysis.changesSince old.analysis
  difference : ∀ file ∈ report.modifiedFiles, file.previousLines < 2 ^ 63 →
    file.currentLines < 2 ^ 63 → file.lineDiff = (file.currentLines : Int) - file.previousLines
  hasChanges_iff : report.hasChanges = false ↔ current.paths = previous.paths ∧
    ∀ file ∈ current.files, ∀ old ∈ previous.files, file.filePath = old.filePath →
      file.fileHash = old.fileHash ∧ file.analysis.signatures = old.analysis.signatures

section

variable {current previous : Snapshot} {path : String}

theorem mem_paths {snapshot : Snapshot} :
    path ∈ snapshot.paths ↔ ∃ file ∈ snapshot.files, file.filePath = path := by
  rw [Snapshot.paths, List.mem_toFinset, List.mem_map]

/-- Only paths of the two scans are listed. -/
theorem mem_paths_of_mem_listed {kind : ChangeKind}
    (h : path ∈ (compareFiles current.files previous.files).listed kind) :
    path ∈ current.paths ∪ previous.paths := by
  rw [Finset.mem_union]
  by_cases hkind : kind = .deleted
  · subst hkind
    obtain ⟨hmem, -⟩ := mem_deletedFiles_compareFiles.1 h
    exact .inr (List.mem_toFinset.2 hmem)
  · obtain ⟨file, hfile, hpath, -⟩ := (mem_listed_iff hkind).1 h
    exact .inl (mem_paths.2 ⟨file, hfile, hpath⟩)

/-- Where no path occurs twice in the current scan, a path is listed once. -/
theorem existsUnique_listed (hcurrent : (current.files.map (·.filePath)).Nodup)
    (h : path ∈ current.paths ∪ previous.paths) :
    ∃! kind, path ∈ (compareFiles current.files previous.files).listed kind := by
  by_cases hpath : path ∈ current.files.map (·.filePath)
  · obtain ⟨file, hfile, rfl⟩ := List.mem_map.1 hpath
    have hne := (file.changeIn previous.files).kind_ne_deleted
    refine ⟨_, (mem_listed_iff hne).2 ⟨file, hfile, rfl, rfl⟩, fun kind hkind => ?_⟩
    by_cases hdeleted : kind = .deleted
    · subst hdeleted
      exact absurd hpath (mem_deletedFiles_compareFiles.1 hkind).2
    · obtain ⟨other, hother, heq, rfl⟩ := (mem_listed_iff hdeleted).1 hkind
      rw [List.inj_on_of_nodup_map hcurrent hother hfile heq]
  · have hprevious : path ∈ previous.files.map (·.filePath) := by
      rcases Finset.mem_union.1 h with hmem | hmem
      · exact absurd (List.mem_toFinset.1 hmem) hpath
      · exact List.mem_toFinset.1 hmem
    refine ⟨.deleted, mem_deletedFiles_compareFiles.2 ⟨hprevious, hpath⟩, fun kind hkind => ?_⟩
    by_contra hne
    obtain ⟨file, hfile, rfl, -⟩ := (mem_listed_iff hne).1 hkind
    exact hpath (List.mem_map_of_mem hfile)

theorem sublist_listed {kind : ChangeKind} (h : kind ≠ .deleted) :
    ((compareFiles current.files previous.files).listed kind).Sublist
      (current.files.map (·.filePath)) := by
  rw [listed_compareFiles _ _ h]
  exact List.filter_sublist.map _

/-- A difference of two counts that signed words hold is exact. -/
theorem lineDifference_eq {before now : Nat} (hbefore : before < 2 ^ 63) (hnow : now < 2 ^ 63) :
    lineDifference before now = (now : Int) - before := by
  have hbound : lineCountBound = 2 ^ 63 - 1 := rfl
  rw [lineDifference, hbound, Nat.min_eq_left (by omega), Nat.min_eq_left (by omega)]

/-- A report without changes lists its paths as unchanged only. -/
theorem anyChange_eq_false_iff {report : Changes} :
    report.anyChange = false ↔ ∀ kind ≠ .unchanged, report.listed kind = [] := by
  simp only [Changes.anyChange, Bool.or_eq_false_iff, Bool.not_eq_false', List.isEmpty_iff]
  constructor
  · rintro ⟨⟨⟨hnew, hdeleted⟩, hmodified⟩, hdrifted⟩ kind hkind
    cases kind with
    | new => exact hnew
    | deleted => exact hdeleted
    | modified => exact List.map_eq_nil_iff.2 hmodified
    | drifted => exact List.map_eq_nil_iff.2 hdrifted
    | unchanged => exact absurd rfl hkind
  · intro h
    have hmodified := List.map_eq_nil_iff.1 (h .modified (by decide))
    have hdrifted := List.map_eq_nil_iff.1 (h .drifted (by decide))
    exact ⟨⟨⟨h .new (by decide), h .deleted (by decide)⟩, hmodified⟩, hdrifted⟩

/-- Nothing changed exactly when the scans have the same paths with the same fingerprints and the
same signatures. -/
theorem anyChange_compareFiles (hprevious : (previous.files.map (·.filePath)).Nodup) :
    (compareFiles current.files previous.files).anyChange = false ↔
      current.paths = previous.paths ∧ ∀ file ∈ current.files, ∀ old ∈ previous.files,
        file.filePath = old.filePath → file.fileHash = old.fileHash ∧
          file.analysis.signatures = old.analysis.signatures := by
  rw [anyChange_eq_false_iff]
  constructor
  · intro hnone
    refine ⟨?_, fun file hfile old hold heq => ?_⟩
    · ext path
      rw [Snapshot.paths, Snapshot.paths, List.mem_toFinset, List.mem_toFinset]
      have hnew : path ∉ (compareFiles current.files previous.files).newFiles :=
        List.eq_nil_iff_forall_not_mem.1 (hnone .new (by decide)) path
      have hdeleted : path ∉ (compareFiles current.files previous.files).deletedFiles :=
        List.eq_nil_iff_forall_not_mem.1 (hnone .deleted (by decide)) path
      rw [mem_newFiles_compareFiles] at hnew
      rw [mem_deletedFiles_compareFiles] at hdeleted
      tauto
    · rw [← ScannedFile.kindSince_eq_unchanged_iff]
      by_contra hkind
      have hlisted : file.filePath ∈
          (compareFiles current.files previous.files).listed (file.kindSince old) :=
        (mem_listed_common_iff hprevious _ (file.kindSince_ne_new old)
          (file.kindSince_ne_deleted old)).2 ⟨file, hfile, old, hold, rfl, heq.symm, rfl⟩
      rw [hnone _ hkind] at hlisted
      cases hlisted
  · rintro ⟨hpaths, hsame⟩ kind hkind
    refine List.eq_nil_iff_forall_not_mem.2 fun path hpath => ?_
    have hiff := Finset.ext_iff.1 hpaths path
    rw [Snapshot.paths, Snapshot.paths, List.mem_toFinset, List.mem_toFinset] at hiff
    have hcommon : kind ≠ .new → kind ≠ .deleted → False := by
      intro hnew hdeleted
      obtain ⟨file, hfile, old, hold, rfl, heq, rfl⟩ :=
        (mem_listed_common_iff hprevious kind hnew hdeleted).1 hpath
      exact hkind (ScannedFile.kindSince_eq_unchanged_iff.2 (hsame file hfile old hold heq.symm))
    cases kind with
    | new =>
      obtain ⟨hmem, hnot⟩ := mem_newFiles_compareFiles.1 hpath
      exact hnot (hiff.1 hmem)
    | deleted =>
      obtain ⟨hmem, hnot⟩ := mem_deletedFiles_compareFiles.1 hpath
      exact hnot (hiff.2 hmem)
    | modified | drifted | unchanged => exact hcommon (by decide) (by decide)

/-- **A comparison classifies exactly.** For two scans in each of which no path occurs twice, every
path of either is in exactly one of the five lists and no other path is in any, each list holds the
paths that it should and in the order of its scan, a modified file carries the two line counts,
their difference and the difference of the two analyses, and the report is without changes exactly
when the scans agree on paths, fingerprints and signatures. -/
theorem changesSince_classifies (current previous : Snapshot)
    (hcurrent : (current.files.map (·.filePath)).Nodup)
    (hprevious : (previous.files.map (·.filePath)).Nodup) :
    (current.changesSince (some previous)).Classifies current previous where
  exactly_one _ := existsUnique_listed hcurrent
  no_other _ _ := mem_paths_of_mem_listed
  new_iff path := by
    rw [Snapshot.paths, Snapshot.paths, List.mem_toFinset, List.mem_toFinset]
    exact mem_newFiles_compareFiles
  deleted_iff path := by
    rw [Snapshot.paths, Snapshot.paths, List.mem_toFinset, List.mem_toFinset]
    exact mem_deletedFiles_compareFiles
  modified_iff path := by
    simp only [Snapshot.Both, ← ScannedFile.kindSince_eq_modified_iff]
    exact mem_listed_common_iff hprevious .modified (by decide) (by decide)
  drifted_iff path := by
    simp only [Snapshot.Both, ← ScannedFile.kindSince_eq_drifted_iff]
    exact mem_listed_common_iff hprevious .drifted (by decide) (by decide)
  unchanged_iff path := by
    simp only [Snapshot.Both, ← ScannedFile.kindSince_eq_unchanged_iff]
    exact mem_listed_common_iff hprevious .unchanged (by decide) (by decide)
  current_order _ := sublist_listed
  previous_order := List.filter_sublist.map _
  modified file hfile := by
    obtain ⟨now, hnow, old, hold, hpath, rfl⟩ := exists_records_of_mem_modifiedFiles hfile
    exact ⟨now, hnow, old, hold, rfl, hpath, rfl, rfl, rfl⟩
  difference file hfile := by
    obtain ⟨now, hnow, old, hold, hpath, rfl⟩ := exists_records_of_mem_modifiedFiles hfile
    exact lineDifference_eq
  hasChanges_iff := anyChange_compareFiles hprevious

end

/-! ### Two scans with a path of each kind -/

/-- The record of a file with one function. -/
def recordOf (path hash name : String) (lines : Nat) : ScannedFile where
  filePath := path
  fileName := path
  fileSize := 0
  modifiedTime := none
  fileHash := hash
  language := .braceFamily
  analysis := ⟨path, [.function ⟨name, .function, 1, lines, []⟩], lines⟩

/-- A scan with the given files. -/
def scanOf (files : List ScannedFile) : Snapshot :=
  ⟨"scan", .epoch, "src", files, [], {}⟩

/-- The scan before. -/
def scanBefore : Snapshot :=
  scanOf [recordOf "keep.js" "k" "f" 2, recordOf "edit.js" "e" "f" 5, recordOf "gone.js" "g" "f" 1,
    recordOf "drift.js" "d" "f" 3]

/-- The scan after it. -/
def scanAfter : Snapshot :=
  scanOf [recordOf "fresh.js" "n" "f" 1, recordOf "drift.js" "d" "h" 3,
    recordOf "edit.js" "m" "f" 3, recordOf "keep.js" "k" "f" 2]

theorem changesSince_classifies_scanAfter :
    (scanAfter.files.map (·.filePath)).Nodup ∧ (scanBefore.files.map (·.filePath)).Nodup ∧
      (scanAfter.changesSince (some scanBefore)).Classifies scanAfter scanBefore ∧
      ∃ file ∈ (scanAfter.changesSince (some scanBefore)).modifiedFiles,
        file.filePath = "edit.js" ∧ file.lineDiff = -2 := by
  have hafter : (scanAfter.files.map (·.filePath)).Nodup := by decide
  have hbefore : (scanBefore.files.map (·.filePath)).Nodup := by decide
  have hclassifies := changesSince_classifies scanAfter scanBefore hafter hbefore
  have hrecord : (recordOf "edit.js" "m" "f" 3).modifiedSince (recordOf "edit.js" "e" "f" 5) ∈
      (scanAfter.changesSince (some scanBefore)).modifiedFiles := by decide +kernel
  exact ⟨hafter, hbefore, hclassifies, _, hrecord, rfl,
    hclassifies.difference _ hrecord (by decide) (by decide)⟩

end Driftwatch
