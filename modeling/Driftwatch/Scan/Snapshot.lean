import Driftwatch.Path
import Driftwatch.Source.Stored
import Driftwatch.Time.Timestamp

/-!
# Snapshots

A snapshot is everything that one scan of a folder records: its files with their fingerprints and
declarations, its folders, and totals.

## Main definitions

* `Language`: how a file is analysed, with `Language.ofPath`.
* `ScannedFile`, `ScannedFolder`, `Summary`, `Snapshot`.
-/

namespace Driftwatch

/-- How the contents of a file are analysed. -/
inductive Language where
  /-- Declarations are extracted. -/
  | braceFamily
  /-- Lines are counted. -/
  | python
  /-- Lines are counted. -/
  | other
  deriving Repr, DecidableEq

namespace Language

/-- The tag of a language. -/
def tag : Language → String
  | braceFamily => "brace_family"
  | python => "python"
  | other => "other"

/-- The language with a given tag. -/
def ofTag? (tag : String) : Option Language :=
  [braceFamily, python, other].find? (·.tag == tag)

/-- The extensions of files whose declarations are extracted. -/
def braceExtensions : List String :=
  ["js", "jsx", "ts", "tsx", "mjs", "cjs"]

/-- The language that an extension stands for, in either case. An extension that is no text stands
for none. -/
def ofExtension (extension : Option RawText) : Language :=
  let text := ((extension.bind RawText.text?).getD "").map Char.toLower
  if braceExtensions.contains text then braceFamily
  else if text == "py" then python
  else other

/-- The language of a file, by its extension. -/
def ofPath (path : Path) : Language :=
  ofExtension path.extension?

end Language

/-- A folder seen in a scan. -/
structure ScannedFolder where
  folderPath : String
  folderName : String
  deriving Repr, DecidableEq

/-- A file seen in a scan. The fingerprint of a file that could not be read is empty. -/
structure ScannedFile where
  filePath : String
  fileName : String
  fileSize : Nat
  modifiedTime : Option Timestamp
  fileHash : String
  language : Language
  analysis : Extraction
  deriving Repr, DecidableEq

/-- Totals of a scan. -/
structure Summary where
  totalFiles : Nat := 0
  totalFolders : Nat := 0
  totalLines : Nat := 0
  braceFamilyFiles : Nat := 0
  pythonFiles : Nat := 0
  otherFiles : Nat := 0
  deriving Repr, DecidableEq

/-- Everything that one scan records. Files and folders are in the order in which they were
listed. -/
structure Snapshot where
  scanId : String
  timestamp : Timestamp
  targetFolder : String
  files : List ScannedFile
  folders : List ScannedFolder
  summary : Summary
  deriving Repr, DecidableEq

/-! ### Stored forms -/

instance : Stored Language where
  toJson language := .str language.tag
  ofJson? value := value.tag?.bind Language.ofTag?

namespace ScannedFolder

/-- The folder with a given stored form. -/
def ofJson? (value : Json) : Option ScannedFolder := do
  let [folderPath, folderName] ← value.fields? ["folder_path", "folder_name"] | none
  return ⟨← Json.required? folderPath, ← Json.required? folderName⟩

end ScannedFolder

instance : Stored ScannedFolder where
  toJson folder := .obj
    [("folder_path", toJson folder.folderPath), ("folder_name", toJson folder.folderName)]
  ofJson? := ScannedFolder.ofJson?

namespace ScannedFile

/-- The names of the fields in their order. -/
def fieldNames : List String :=
  ["file_path", "file_name", "file_size", "modified_time", "file_hash", "language", "analysis"]

/-- The file with a given stored form. An object may leave the time out. -/
def ofJson? (value : Json) : Option ScannedFile := do
  let [filePath, fileName, fileSize, modifiedTime, fileHash, language, analysis] ←
    value.fields? fieldNames | none
  let modifiedTime : Option Timestamp ←
    match modifiedTime with
    | none => some none
    | modifiedTime => Json.required? modifiedTime
  return ⟨← Json.required? filePath, ← Json.required? fileName, ← Json.required? fileSize,
    modifiedTime, ← Json.required? fileHash, ← Json.required? language, ← Json.required? analysis⟩

end ScannedFile

instance : Stored ScannedFile where
  toJson file := .obj
    [("file_path", toJson file.filePath),
     ("file_name", toJson file.fileName),
     ("file_size", toJson file.fileSize),
     ("modified_time", toJson file.modifiedTime),
     ("file_hash", toJson file.fileHash),
     ("language", toJson file.language),
     ("analysis", toJson file.analysis)]
  ofJson? := ScannedFile.ofJson?

namespace Summary

/-- The names of the fields in their order. -/
def fieldNames : List String :=
  ["total_files", "total_folders", "total_lines", "brace_family_files", "python_files",
    "other_files"]

/-- The totals with a given stored form. -/
def ofJson? (value : Json) : Option Summary := do
  let [totalFiles, totalFolders, totalLines, braceFamilyFiles, pythonFiles, otherFiles] ←
    value.fields? fieldNames | none
  return ⟨← Json.required? totalFiles, ← Json.required? totalFolders, ← Json.required? totalLines,
    ← Json.required? braceFamilyFiles, ← Json.required? pythonFiles, ← Json.required? otherFiles⟩

end Summary

instance : Stored Summary where
  toJson summary := .obj
    [("total_files", toJson summary.totalFiles),
     ("total_folders", toJson summary.totalFolders),
     ("total_lines", toJson summary.totalLines),
     ("brace_family_files", toJson summary.braceFamilyFiles),
     ("python_files", toJson summary.pythonFiles),
     ("other_files", toJson summary.otherFiles)]
  ofJson? := Summary.ofJson?

namespace Snapshot

/-- The names of the fields in their order. -/
def fieldNames : List String :=
  ["scan_id", "timestamp", "target_folder", "files", "folders", "summary"]

/-- The snapshot with a given stored form. -/
def ofJson? (value : Json) : Option Snapshot := do
  let [scanId, timestamp, targetFolder, files, folders, summary] ←
    value.fields? fieldNames | none
  return ⟨← Json.required? scanId, ← Json.required? timestamp, ← Json.required? targetFolder,
    ← Json.required? files, ← Json.required? folders, ← Json.required? summary⟩

end Snapshot

instance : Stored Snapshot where
  toJson snapshot := .obj
    [("scan_id", toJson snapshot.scanId),
     ("timestamp", toJson snapshot.timestamp),
     ("target_folder", toJson snapshot.targetFolder),
     ("files", toJson snapshot.files),
     ("folders", toJson snapshot.folders),
     ("summary", toJson snapshot.summary)]
  ofJson? := Snapshot.ofJson?

end Driftwatch
