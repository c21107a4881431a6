import Driftwatch.Scan.Snapshot

/-!
# Changes between scans

Files of two scans are matched by path. The fingerprint decides first: a file with another
fingerprint is modified. Only a file with the same fingerprint is compared by its declarations.
Without an earlier scan every file is new.

When a path occurs more than once in a scan, the last record stands for it.

## Main definitions

* `ModifiedFile`, `DriftedFile`, `Changes`.
* `Snapshot.changesSince`: the report for two scans.
-/

namespace Driftwatch

/-- A file with another fingerprint. -/
structure ModifiedFile where
  filePath : String
  previousLines : Nat
  currentLines : Nat
  lineDiff : Int
  changes : EntityChanges
  deriving DecidableEq

/-- A file with the same fingerprint and other declarations. -/
structure DriftedFile where
  filePath : String
  changes : EntityChanges
  deriving DecidableEq

/-- The differences between a scan and the one before it. -/
structure Changes where
  hasChanges : Bool := false
  newFiles : List String := []
  deletedFiles : List String := []
  modifiedFiles : List ModifiedFile := []
  driftedFiles : List DriftedFile := []
  unchangedFiles : List String := []
  deriving DecidableEq

/-- What became of a file that is in the current scan. -/
inductive FileChange where
  | added
  | modified (file : ModifiedFile)
  | drifted (file : DriftedFile)
  | unchanged
  deriving DecidableEq

/-- The largest line count that enters a difference as it is. -/
def lineCountBound : Nat :=
  signLimit - 1

/-- The difference of two line counts. Counts that no signed word holds are cut down first. -/
def lineDifference (previous current : Nat) : Int :=
  (min current lineCountBound : Nat) - (min previous lineCountBound : Nat)

/-- The last record with a path. -/
def lastRecord? (files : List ScannedFile) (path : String) : Option ScannedFile :=
  files.reverse.find? (·.filePath == path)

/-- What became of a file, given its earlier record. -/
def ScannedFile.changeSince (file : ScannedFile) (old : Option ScannedFile) : FileChange :=
  match old with
  | none => .added
  | some old =>
    let changes := file.analysis.changesSince old.analysis
    let before := old.analysis.totalLines
    let now := file.analysis.totalLines
    if file.fileHash ≠ old.fileHash then
      .modified ⟨file.filePath, before, now, lineDifference before now, changes⟩
    else if changes.isStructural then .drifted ⟨file.filePath, changes⟩
    else .unchanged

namespace Changes

/-- The report with one more file. -/
def add (report : Changes) (path : String) : FileChange → Changes
  | .added => { report with newFiles := path :: report.newFiles }
  | .modified file => { report with modifiedFiles := file :: report.modifiedFiles }
  | .drifted file => { report with driftedFiles := file :: report.driftedFiles }
  | .unchanged => { report with unchangedFiles := path :: report.unchangedFiles }

/-- Whether some file is new, deleted, modified or drifted. -/
def anyChange (report : Changes) : Bool :=
  !report.newFiles.isEmpty || !report.deletedFiles.isEmpty || !report.modifiedFiles.isEmpty ||
    !report.driftedFiles.isEmpty

end Changes

/-- The report for two lists of files, before it is known whether anything changed. -/
def compareFiles (current previous : List ScannedFile) : Changes :=
  let report : Changes := current.foldr
    (fun file (report : Changes) =>
      report.add file.filePath (file.changeSince (lastRecord? previous file.filePath)))
    {}
  let deleted := previous.filter fun file => !current.any (·.filePath == file.filePath)
  { report with deletedFiles := deleted.map (·.filePath) }

/-- What changed since an earlier scan. -/
def Snapshot.changesSince (current : Snapshot) (previous : Option Snapshot) : Changes :=
  match previous with
  | none => { hasChanges := true, newFiles := current.files.map (·.filePath) }
  | some previous =>
    let report := compareFiles current.files previous.files
    { report with hasChanges := report.anyChange }

/-! ### Stored forms -/

namespace ModifiedFile

/-- The file with a given stored form. -/
def ofJson? (value : Json) : Option ModifiedFile := do
  let [filePath, previousLines, currentLines, lineDiff, changes] ←
    value.fields?
      ["file_path", "previous_lines", "current_lines", "line_diff", "function_changes"] | none
  return ⟨← Json.required? filePath, ← Json.required? previousLines, ← Json.required? currentLines,
    ← Json.required? lineDiff, ← Json.required? changes⟩

end ModifiedFile

instance : Stored ModifiedFile where
  toJson file := .obj
    [("file_path", toJson file.filePath),
     ("previous_lines", toJson file.previousLines),
     ("current_lines", toJson file.currentLines),
     ("line_diff", toJson file.lineDiff),
     ("function_changes", toJson file.changes)]
  ofJson? := ModifiedFile.ofJson?

namespace DriftedFile

/-- The file with a given stored form. -/
def ofJson? (value : Json) : Option DriftedFile := do
  let [filePath, changes] ← value.fields? ["file_path", "function_changes"] | none
  return ⟨← Json.required? filePath, ← Json.required? changes⟩

end DriftedFile

instance : Stored DriftedFile where
  toJson file := .obj
    [("file_path", toJson file.filePath), ("function_changes", toJson file.changes)]
  ofJson? := DriftedFile.ofJson?

namespace Changes

/-- The names of the fields in their order. -/
def fieldNames : List String :=
  ["has_changes", "new_files", "deleted_files", "modified_files", "function_changed_files",
    "unchanged_files"]

/-- The report with a given stored form. -/
def ofJson? (value : Json) : Option Changes := do
  let [hasChanges, newFiles, deletedFiles, modifiedFiles, driftedFiles, unchangedFiles] ←
    value.fields? fieldNames | none
  return ⟨← Json.required? hasChanges, ← Json.required? newFiles, ← Json.required? deletedFiles,
    ← Json.required? modifiedFiles, ← Json.required? driftedFiles, ← Json.required? unchangedFiles⟩

end Changes

instance : Stored Changes where
  toJson report := .obj
    [("has_changes", toJson report.hasChanges),
     ("new_files", toJson report.newFiles),
     ("deleted_files", toJson report.deletedFiles),
     ("modified_files", toJson report.modifiedFiles),
     ("function_changed_files", toJson report.driftedFiles),
     ("unchanged_files", toJson report.unchangedFiles)]
  ofJson? := Changes.ofJson?

end Driftwatch
