import Driftwatch.Proofs.Classification

/-!
# Comparisons in reverse

Two scans can be compared in either direction, and the two reports tell the same story. What one
calls new the other calls deleted, and a file that both scans have is in the same list of both
reports, with everything that was recorded about it turned round.

## The shape of the argument

New and deleted files are made by different passes, so their lists are compared directly
(`newFiles_eq_deletedFiles`). For the other lists it is enough to look at pairs of records: a report
is made from the files that both scans have, each with its earlier record (`matched`), and where no
path occurs twice in a scan the pairs of the reverse comparison are the same pairs, swapped and in
the order of the other scan (`perm_matched_swap`). What becomes of a file depends on its pair in a
way that can be turned round (`ScannedFile.kindSince_comm`, `ScannedFile.modifiedSince_swap`).

## Main definitions

* `EntityChanges.reverse`, `ModifiedFile.reverse`, `DriftedFile.reverse`: records turned round.
* `Changes.Reverses`: what is asked of the reports of the two directions.

## Main results

* `lineDifference_swap`, `natAbs_lineDifference_lt`: differences of line counts.
* `modifiedFiles_compareFiles`, `driftedFiles_compareFiles`, `unchangedFiles_compareFiles`: the
  lists of a report by pairs of records.
* `changesSince_reverses`: every two reports are as asked.
-/

namespace Driftwatch

/-! ### Records turned round -/

/-- The changes in the other direction. -/
def EntityChanges.reverse (changes : EntityChanges) : EntityChanges where
  added := changes.removed
  removed := changes.added
  unchanged := changes.unchanged

/-- The record of a modified file in the other direction. -/
def ModifiedFile.reverse (file : ModifiedFile) : ModifiedFile where
  filePath := file.filePath
  previousLines := file.currentLines
  currentLines := file.previousLines
  lineDiff := -file.lineDiff
  changes := file.changes.reverse

/-- The record of a drifted file in the other direction. -/
def DriftedFile.reverse (file : DriftedFile) : DriftedFile where
  filePath := file.filePath
  changes := file.changes.reverse

/-- Counts are cut down before they are subtracted, and in either direction in the same way. -/
theorem lineDifference_swap (previous current : Nat) :
    lineDifference current previous = -lineDifference previous current := by
  rw [lineDifference, lineDifference, Int.neg_sub]

/-- A difference of line counts and its negation are signed words, whatever the counts are. -/
theorem natAbs_lineDifference_lt (previous current : Nat) :
    (lineDifference previous current).natAbs < 2 ^ 63 := by
  have hbound : lineCountBound = 2 ^ 63 - 1 := rfl
  have hprevious := Nat.min_le_right previous lineCountBound
  have hcurrent := Nat.min_le_right current lineCountBound
  rw [lineDifference]
  omega

theorem SignatureSet.inter_comm (first second : SignatureSet) :
    first.inter second = second.inter first := by
  refine SignatureSet.eq_of_mem_iff fun x => ?_
  simp only [inter, filter, contains, List.mem_filter, List.contains_iff_mem]
  exact And.comm

theorem Extraction.changesSince_swap (current previous : Extraction) :
    previous.changesSince current = (current.changesSince previous).reverse := by
  simp only [changesSince, EntityChanges.reverse, SignatureSet.inter_comm current.signatures]

namespace ScannedFile

variable {file old : ScannedFile}

/-- Fingerprints and signatures are only tested for equality. -/
theorem kindSince_comm (file old : ScannedFile) : old.kindSince file = file.kindSince old := by
  simp only [kindSince, ne_comm]

theorem modifiedSince_swap (h : old.filePath = file.filePath) :
    old.modifiedSince file = (file.modifiedSince old).reverse := by
  simp only [modifiedSince, ModifiedFile.reverse, h, Extraction.changesSince_swap file.analysis,
    lineDifference_swap old.analysis.totalLines]

theorem driftedSince_swap (h : old.filePath = file.filePath) :
    old.driftedSince file = (file.driftedSince old).reverse := by
  simp only [driftedSince, DriftedFile.reverse, h, Extraction.changesSince_swap file.analysis]

end ScannedFile

/-! ### New and deleted files -/

variable {current previous : List ScannedFile}

theorem kind_changeIn_eq_new_iff {file : ScannedFile} :
    (file.changeIn previous).kind = .new ↔ file.filePath ∉ previous.map (·.filePath) := by
  rw [← lastRecord?_eq_none_iff, ScannedFile.changeIn]
  cases lastRecord? previous file.filePath with
  | none => exact ⟨fun _ => rfl, fun _ => rfl⟩
  | some old =>
    rw [ScannedFile.kind_changeSince_some]
    exact ⟨fun h => absurd h (file.kindSince_ne_new old), fun h => absurd h (Option.some_ne_none _)⟩

/-- What is new in one direction is deleted in the other, in the same order. -/
theorem newFiles_eq_deletedFiles (current previous : List ScannedFile) :
    (compareFiles current previous).newFiles = (compareFiles previous current).deletedFiles := by
  show (compareFiles current previous).listed .new = (compareFiles previous current).deletedFiles
  rw [listed_compareFiles current previous (by decide)]
  refine congrArg (List.map _) (List.filter_congr fun file _ => ?_)
  rw [Bool.eq_iff_iff, decide_eq_true_eq, kind_changeIn_eq_new_iff, Bool.not_eq_true',
    List.any_eq_false]
  simp only [List.mem_map, not_exists, not_and, beq_iff_eq]

/-! ### Files that both scans have -/

/-- The files that both scans have, each with its earlier record. -/
def matched (current previous : List ScannedFile) : List (ScannedFile × ScannedFile) :=
  current.filterMap fun file => (lastRecord? previous file.filePath).map (file, ·)

/-- The files of a kind that both scans have, each with its earlier record. -/
def matchedAs (kind : ChangeKind) (current previous : List ScannedFile) :
    List (ScannedFile × ScannedFile) :=
  (matched current previous).filter fun pair => pair.1.kindSince pair.2 = kind

theorem mem_matched_iff {pair : ScannedFile × ScannedFile} : pair ∈ matched current previous ↔
    pair.1 ∈ current ∧ lastRecord? previous pair.1.filePath = some pair.2 := by
  obtain ⟨file, old⟩ := pair
  simp only [matched, List.mem_filterMap, Option.map_eq_some_iff, Prod.mk.injEq]
  constructor
  · rintro ⟨_, hfile, _, hlast, rfl, rfl⟩
    exact ⟨hfile, hlast⟩
  · rintro ⟨hfile, hlast⟩
    exact ⟨file, hfile, old, hlast, rfl, rfl⟩

theorem mem_matched (hprevious : (previous.map (·.filePath)).Nodup)
    {pair : ScannedFile × ScannedFile} : pair ∈ matched current previous ↔
      pair.1 ∈ current ∧ pair.2 ∈ previous ∧ pair.2.filePath = pair.1.filePath := by
  rw [mem_matched_iff]
  constructor
  · rintro ⟨hfile, hlast⟩
    exact ⟨hfile, mem_of_lastRecord? hlast⟩
  · rintro ⟨hfile, hold, hpath⟩
    exact ⟨hfile, hpath ▸ lastRecord?_of_mem hprevious hold⟩

theorem nodup_matched (hcurrent : (current.map (·.filePath)).Nodup) :
    (matched current previous).Nodup := by
  refine hcurrent.of_map.filterMap fun first second pair hfirst hsecond => ?_
  obtain ⟨_, -, rfl⟩ := Option.map_eq_some_iff.1 hfirst
  obtain ⟨_, -, heq⟩ := Option.map_eq_some_iff.1 hsecond
  exact (Prod.mk.inj heq).1.symm

/-- **The pairs of the reverse comparison are the same pairs, swapped.** -/
theorem perm_matched_swap (hcurrent : (current.map (·.filePath)).Nodup)
    (hprevious : (previous.map (·.filePath)).Nodup) :
    (matched previous current).Perm ((matched current previous).map Prod.swap) := by
  have hswapped : ((matched current previous).map Prod.swap).Nodup :=
    (nodup_matched hcurrent).map Prod.swap_injective
  rw [List.perm_ext_iff_of_nodup (nodup_matched hprevious) hswapped]
  rintro ⟨file, old⟩
  rw [mem_matched hcurrent, List.mem_map]
  constructor
  · rintro ⟨hfile, hold, hpath⟩
    exact ⟨(old, file), (mem_matched hprevious).2 ⟨hold, hfile, hpath.symm⟩, rfl⟩
  · rintro ⟨pair, hpair, heq⟩
    obtain ⟨hfile, hold, hpath⟩ := (mem_matched hprevious).1 hpair
    obtain ⟨rfl, rfl⟩ := Prod.mk.inj heq
    exact ⟨hold, hfile, hpath.symm⟩

/-- What is made of the pairs of a kind in one direction is made of them in the other, if it can be
turned round. -/
theorem perm_map_matchedAs {α : Type} (hcurrent : (current.map (·.filePath)).Nodup)
    (hprevious : (previous.map (·.filePath)).Nodup) (kind : ChangeKind)
    (make : ScannedFile → ScannedFile → α) (turn : α → α)
    (h : ∀ file old : ScannedFile, old.filePath = file.filePath →
      make old file = turn (make file old)) :
    ((matchedAs kind previous current).map fun pair => make pair.1 pair.2).Perm
      (((matchedAs kind current previous).map fun pair => make pair.1 pair.2).map turn) := by
  have hperm := (((perm_matched_swap hcurrent hprevious).filter
    fun pair => pair.1.kindSince pair.2 = kind).map fun pair => make pair.1 pair.2)
  rw [List.filter_map, List.map_map] at hperm
  refine hperm.trans (List.Perm.of_eq ?_)
  have hkind : (matched current previous).filter
      ((fun pair => decide (pair.1.kindSince pair.2 = kind)) ∘ Prod.swap) =
        matchedAs kind current previous := by
    refine List.filter_congr fun pair _ => ?_
    simp only [Function.comp_apply, Prod.fst_swap, Prod.snd_swap,
      ScannedFile.kindSince_comm pair.1]
  rw [hkind, List.map_map]
  refine List.map_congr_left fun pair hpair => ?_
  obtain ⟨-, -, hpath⟩ := (mem_matched hprevious).1 (List.mem_of_mem_filter hpair)
  exact h pair.1 pair.2 hpath

/-! ### The lists of a report by pairs -/

theorem matched_cons (file : ScannedFile) (current previous : List ScannedFile) :
    matched (file :: current) previous =
      ((lastRecord? previous file.filePath).map (file, ·)).toList ++ matched current previous := by
  rw [matched, List.filterMap_cons]
  cases lastRecord? previous file.filePath <;> rfl

/-- One pass makes the lists of modified, drifted and unchanged files from the pairs of their
kind. -/
theorem foldr_add_matched (current previous : List ScannedFile) :
    let report : Changes := current.foldr (fun file (report : Changes) =>
      report.add file.filePath (file.changeSince (lastRecord? previous file.filePath))) {}
    report.modifiedFiles =
        (matchedAs .modified current previous).map (fun pair => pair.1.modifiedSince pair.2) ∧
      report.driftedFiles =
        (matchedAs .drifted current previous).map (fun pair => pair.1.driftedSince pair.2) ∧
      report.unchangedFiles =
        (matchedAs .unchanged current previous).map (fun pair => pair.1.filePath) := by
  induction current with
  | nil => exact ⟨rfl, rfl, rfl⟩
  | cons file current ih =>
    simp only [List.foldr_cons, matchedAs, matched_cons, List.filter_append, List.map_append]
      at ih ⊢
    generalize List.foldr (fun file (report : Changes) =>
      report.add file.filePath (file.changeSince (lastRecord? previous file.filePath))) {} current
        = report at ih ⊢
    obtain ⟨hmodified, hdrifted, hunchanged⟩ := ih
    cases lastRecord? previous file.filePath with
    | none => exact ⟨hmodified, hdrifted, hunchanged⟩
    | some old =>
      rw [ScannedFile.changeSince_some, ← hmodified, ← hdrifted, ← hunchanged]
      obtain hkind | hkind | hkind := file.kindSince_cases old
      all_goals simp [hkind, Changes.add]

theorem modifiedFiles_compareFiles (current previous : List ScannedFile) :
    (compareFiles current previous).modifiedFiles =
      (matchedAs .modified current previous).map fun pair => pair.1.modifiedSince pair.2 :=
  (foldr_add_matched current previous).1

theorem driftedFiles_compareFiles (current previous : List ScannedFile) :
    (compareFiles current previous).driftedFiles =
      (matchedAs .drifted current previous).map fun pair => pair.1.driftedSince pair.2 :=
  (foldr_add_matched current previous).2.1

theorem unchangedFiles_compareFiles (current previous : List ScannedFile) :
    (compareFiles current previous).unchangedFiles =
      (matchedAs .unchanged current previous).map fun pair => pair.1.filePath :=
  (foldr_add_matched current previous).2.2

/-! ### Reports -/

/-- The reports of two directions. Lists of new and deleted files change places. The other lists
have the same files, in the order of the other scan and turned round. -/
structure Changes.Reverses (back report : Changes) : Prop where
  newFiles : back.newFiles = report.deletedFiles
  deletedFiles : back.deletedFiles = report.newFiles
  modifiedFiles : back.modifiedFiles.Perm (report.modifiedFiles.map ModifiedFile.reverse)
  driftedFiles : back.driftedFiles.Perm (report.driftedFiles.map DriftedFile.reverse)
  unchangedFiles : back.unchangedFiles.Perm report.unchangedFiles
  lineDiff_fits : ∀ file ∈ report.modifiedFiles, file.lineDiff.natAbs < 2 ^ 63
  hasChanges : back.hasChanges = report.hasChanges

theorem Changes.anyChange_eq_of_perm {back report : Changes}
    (hnew : back.newFiles = report.deletedFiles) (hdeleted : back.deletedFiles = report.newFiles)
    (hmodified : back.modifiedFiles.Perm (report.modifiedFiles.map ModifiedFile.reverse))
    (hdrifted : back.driftedFiles.Perm (report.driftedFiles.map DriftedFile.reverse)) :
    back.anyChange = report.anyChange := by
  have hmodified : back.modifiedFiles.isEmpty = report.modifiedFiles.isEmpty := by
    rw [hmodified.isEmpty_eq, List.isEmpty_map]
  have hdrifted : back.driftedFiles.isEmpty = report.driftedFiles.isEmpty := by
    rw [hdrifted.isEmpty_eq, List.isEmpty_map]
  rw [anyChange, anyChange, hnew, hdeleted, hmodified, hdrifted,
    Bool.or_comm (!report.deletedFiles.isEmpty)]

/-- **Change detection is antisymmetric.** For two scans in each of which no path occurs twice, the
report of one direction is that of the other turned round: new and deleted files change places, the
same files are modified, drifted and unchanged, with added and removed signatures and the two line
counts swapped and the difference of the counts negated, which is a signed word for all counts. One
direction has changes if and only if the other has. -/
theorem changesSince_reverses (current previous : Snapshot)
    (hcurrent : (current.files.map (·.filePath)).Nodup)
    (hprevious : (previous.files.map (·.filePath)).Nodup) :
    (previous.changesSince (some current)).Reverses (current.changesSince (some previous)) := by
  have hmodified : (compareFiles previous.files current.files).modifiedFiles.Perm
      ((compareFiles current.files previous.files).modifiedFiles.map ModifiedFile.reverse) := by
    rw [modifiedFiles_compareFiles, modifiedFiles_compareFiles]
    exact perm_map_matchedAs hcurrent hprevious .modified ScannedFile.modifiedSince
      ModifiedFile.reverse fun _ _ => ScannedFile.modifiedSince_swap
  have hdrifted : (compareFiles previous.files current.files).driftedFiles.Perm
      ((compareFiles current.files previous.files).driftedFiles.map DriftedFile.reverse) := by
    rw [driftedFiles_compareFiles, driftedFiles_compareFiles]
    exact perm_map_matchedAs hcurrent hprevious .drifted ScannedFile.driftedSince
      DriftedFile.reverse fun _ _ => ScannedFile.driftedSince_swap
  have hunchanged : (compareFiles previous.files current.files).unchangedFiles.Perm
      (compareFiles current.files previous.files).unchangedFiles := by
    have hperm := perm_map_matchedAs hcurrent hprevious .unchanged (fun file _ => file.filePath) id
      fun _ _ hpath => hpath
    rwa [List.map_id, ← unchangedFiles_compareFiles, ← unchangedFiles_compareFiles] at hperm
  have hnew := newFiles_eq_deletedFiles previous.files current.files
  have hdeleted := (newFiles_eq_deletedFiles current.files previous.files).symm
  constructor
  case newFiles => exact hnew
  case deletedFiles => exact hdeleted
  case modifiedFiles => exact hmodified
  case driftedFiles => exact hdrifted
  case unchangedFiles => exact hunchanged
  case lineDiff_fits =>
    intro file hfile
    obtain ⟨now, -, old, -, -, rfl⟩ := exists_records_of_mem_modifiedFiles hfile
    exact natAbs_lineDifference_lt old.analysis.totalLines now.analysis.totalLines
  case hasChanges => exact Changes.anyChange_eq_of_perm hnew hdeleted hmodified hdrifted

/-- A scan of a file with as many lines as a word can count, and of another file. -/
def hugeScan : Snapshot :=
  scanOf [recordOf "huge.js" "h" "f" (2 ^ 64 - 1), recordOf "gone.js" "g" "f" 1]

/-- A scan of the same file with a single line. -/
def tinyScan : Snapshot :=
  scanOf [recordOf "huge.js" "t" "f" 1]

/-- The larger count is cut down in both directions. -/
theorem changesSince_reverses_huge :
    (tinyScan.files.map (·.filePath)).Nodup ∧ (hugeScan.files.map (·.filePath)).Nodup ∧
      (hugeScan.changesSince (some tinyScan)).newFiles = ["gone.js"] ∧
      (tinyScan.changesSince (some hugeScan)).modifiedFiles.map (·.lineDiff) =
        [-9223372036854775806] ∧
      (hugeScan.changesSince (some tinyScan)).Reverses
        (tinyScan.changesSince (some hugeScan)) := by
  have htiny : (tinyScan.files.map (·.filePath)).Nodup := by decide
  have hhuge : (hugeScan.files.map (·.filePath)).Nodup := by decide
  have hreverses := changesSince_reverses tinyScan hugeScan htiny hhuge
  exact ⟨htiny, hhuge, hreverses.newFiles.trans (by decide +kernel), by decide +kernel, hreverses⟩

end Driftwatch
