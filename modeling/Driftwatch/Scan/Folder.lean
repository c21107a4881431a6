import Driftwatch.Config.Basic
import Driftwatch.Digest.Sha256
import Driftwatch.Scan.Snapshot
import Driftwatch.Scan.Workspace
import Driftwatch.Source.Extract

/-!
# Scans of a folder

A scan lists what is below a folder and records every file with its fingerprint and its
declarations. A file that cannot be read is recorded without either. Bytes that are no text are
repaired before they are analysed, but the fingerprint is of the bytes themselves.

## Main definitions

* `Language.analyse`: the analysis of a text.
* `ScannedFile.ofListed`: the record of a listed file.
* `Summary.ofFiles`: the totals.
* `takeSnapshot`, `scanTarget`: the scan.
-/

namespace Driftwatch

/-- The analysis of a text: its declarations, or only its number of lines. -/
def Language.analyse (language : Language) (filePath text : String) : Extraction :=
  match language with
  | braceFamily => extractNamed filePath text
  | python | other => .ofLineCount filePath (lines text.toList).length

/-- The last name of a listed file or folder, to be shown. -/
def ListedItem.shownName (entry : ListedItem) : String :=
  (entry.path.fileName?.map RawText.shown).getD ""

/-- The record of a listed folder. -/
def ScannedFolder.ofListed (entry : ListedItem) : ScannedFolder :=
  ⟨entry.path.slashed, entry.shownName⟩

/-- The record of a listed file, given its bytes if it could be read. -/
def ScannedFile.ofListed (entry : ListedItem) (bytes : Option ByteArray) : ScannedFile :=
  let filePath := entry.path.slashed
  let language := Language.ofPath entry.path
  { filePath := filePath
    fileName := entry.shownName
    fileSize := entry.size
    modifiedTime := entry.modified
    fileHash := (bytes.map fingerprint).getD ""
    language := language
    analysis :=
      match bytes with
      | some bytes => language.analyse filePath (repairUtf8 bytes)
      | none => .ofLineCount filePath 0 }

namespace Summary

/-- The totals of a scan. -/
def ofFiles (files : List ScannedFile) (folders : Nat) : Summary where
  totalFiles := files.length
  totalFolders := folders
  totalLines := files.foldr (fun file total => file.analysis.totalLines + total) 0
  braceFamilyFiles := files.countP (·.language == .braceFamily)
  pythonFiles := files.countP (·.language == .python)
  otherFiles := files.countP (·.language == .other)

end Summary

section

variable {σ : Type} [FileStore σ]

/-- The record of a listed file in a store. -/
def recordFile (store : σ) (target : Path) (entry : ListedItem) : ScannedFile :=
  .ofListed entry (FileStore.readBytes store (target.join entry.path)).toOption

/-- The snapshot of a folder with the given entries. -/
def takeSnapshot (workspace : Workspace σ) (target : Path) (entries : List ListedItem) : Snapshot :=
  let files := (entries.filter (!·.isDir)).map (recordFile workspace.store target)
  let folders := (entries.filter (·.isDir)).map ScannedFolder.ofListed
  { scanId := workspace.nextLabel
    timestamp := workspace.now
    targetFolder := target.text
    files := files
    folders := folders
    summary := .ofFiles files folders.length }

/-- Scans the folder of a configuration. A workspace whose folder was scanned has one identifier
less to give. -/
def scanTarget (workspace : Workspace σ) (config : Config) : Except Error Snapshot :=
  if FileStore.contains workspace.store config.target then
    match FileStore.listing workspace.store config.target config.ignore with
    | .error fault => .error (.unlisted config.target fault)
    | .ok entries => .ok (takeSnapshot workspace config.target entries)
  else .error (.targetMissing config.target)

end

end Driftwatch
