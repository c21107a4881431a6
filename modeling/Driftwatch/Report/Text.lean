import Driftwatch.Scan.Changes

/-!
# The text report

A few lines about the scan, an empty line, and the list of changes.

## Main definitions

* `Changes.textLines`: the list of changes.
* `textReport`: the whole report.
-/

namespace Driftwatch

/-- Lines for the declarations that were added and removed. -/
def EntityChanges.textLines (changes : EntityChanges) : List String :=
  changes.added.items.map ("      + " ++ ·) ++ changes.removed.items.map ("      - " ++ ·)

/-- Lines for a modified file. -/
def ModifiedFile.textLines (file : ModifiedFile) : List String :=
  ("  ~ " ++ file.filePath ++ " (" ++ String.ofList (signed file.lineDiff) ++ " lines)") ::
    file.changes.textLines

/-- Lines for a drifted file. -/
def DriftedFile.textLines (file : DriftedFile) : List String :=
  ("  * " ++ file.filePath) :: file.changes.textLines

/-- A heading and what is below it, or nothing if there is nothing. -/
def textSection (heading : String) (entries : List String) : List String :=
  if entries.isEmpty then [] else heading :: entries

namespace Changes

/-- Lines for a report that has changes. -/
def changeLines (report : Changes) : List String :=
  textSection "New files:" (report.newFiles.map ("  + " ++ ·)) ++
    textSection "Deleted files:" (report.deletedFiles.map ("  - " ++ ·)) ++
    textSection "Modified files:" (report.modifiedFiles.flatMap ModifiedFile.textLines) ++
    textSection "Function changes:" (report.driftedFiles.flatMap DriftedFile.textLines)

/-- The list of changes. -/
def text (report : Changes) : String :=
  if report.hasChanges then "\n".intercalate report.changeLines
  else "No changes since last scan."

end Changes

/-- The text report for a scan and its changes. -/
def textReport (snapshot : Snapshot) (changes : Changes) : String :=
  let summary := snapshot.summary
  "\n".intercalate
    ["Scan " ++ snapshot.scanId ++ " of " ++ snapshot.targetFolder,
     "Time:    " ++ snapshot.timestamp.civil ++ " UTC",
     "Files:   " ++ toString summary.totalFiles ++ " (" ++ toString summary.braceFamilyFiles ++
       " brace-family, " ++ toString summary.pythonFiles ++ " python, " ++
       toString summary.otherFiles ++ " other)",
     "Folders: " ++ toString summary.totalFolders,
     "Lines:   " ++ toString summary.totalLines,
     "",
     changes.text]

end Driftwatch
