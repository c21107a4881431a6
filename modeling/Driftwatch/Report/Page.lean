import Driftwatch.Report.Format
import Driftwatch.Scan.Changes
import Driftwatch.Text.Markup

/-!
# The page report

One self-contained page: totals, the list of changes and a table of files. All that comes from the
scan enters the page as a value, so it is escaped, and the markup depends only on how many things
there are to list.

## Main definitions

* `pageReport`: the page for a scan and its changes.
* `FunctionEntity.description`, `ClassEntity.description`: a declaration in the table.
-/

namespace Driftwatch

open PagePiece

/-- The style sheet of the page, line by line. -/
def styleSheet : List String :=
  ["body \x7b font-family: 'Segoe UI', Tahoma, sans-serif; margin: 0; padding: 15px; background: #f5f5f5; \x7d",
   ".container \x7b max-width: 1200px; margin: 0 auto; padding: 20px; background: white; border-radius: 10px; \x7d",
   "h1 \x7b border-bottom: 2px solid #3498db; padding-bottom: 10px; \x7d",
   ".summary \x7b display: grid; grid-template-columns: repeat(auto-fit, minmax(150px, 1fr)); gap: 15px; \x7d",
   ".card \x7b background: #667eea; color: white; padding: 15px; border-radius: 8px; text-align: center; \x7d",
   ".card h3 \x7b margin: 0 0 5px 0; font-size: 1.8em; \x7d",
   ".card p \x7b margin: 0; \x7d",
   ".added \x7b color: #1e7e34; \x7d",
   ".removed \x7b color: #c0392b; \x7d",
   ".modified \x7b color: #b8860b; \x7d",
   "table \x7b width: 100%; border-collapse: collapse; margin-top: 15px; font-size: 0.9em; \x7d",
   "th, td \x7b padding: 8px 12px; text-align: left; border-bottom: 1px solid #ddd; vertical-align: top; \x7d",
   "th \x7b background: #3498db; color: white; \x7d",
   ".details \x7b font-size: 0.85em; color: #555; \x7d"]

/-- A function in the table. -/
def FunctionEntity.description (entity : FunctionEntity) : String :=
  entity.name ++ "(" ++ ", ".intercalate entity.args ++ ") " ++ toString entity.lineStart ++ "-" ++
    toString entity.lineEnd

/-- A class in the table, with its methods. -/
def ClassEntity.description (entity : ClassEntity) : String :=
  let methods := entity.methods.map FunctionEntity.description
  entity.kind.tag ++ " " ++ entity.name ++ " (" ++ toString entity.lineStart ++ "-" ++
    toString entity.lineEnd ++ ")" ++
    (if methods.isEmpty then "" else ": " ++ ", ".intercalate methods)

/-- The beginning of the page, through the line about the scan. -/
def pageHead (snapshot : Snapshot) : Page :=
  [markup "<!DOCTYPE html>\n<html lang=\"en\">\n<head>\n<meta charset=\"UTF-8\">\n",
   markup "<title>Code monitor report: ",
   value snapshot.targetFolder,
   markup "</title>\n<style>\n",
   markup (String.join (styleSheet.map (· ++ "\n"))),
   markup "</style>\n</head>\n<body>\n<div class=\"container\">\n",
   markup "<h1>Code monitor report</h1>\n<p>Target <code>",
   value snapshot.targetFolder,
   markup "</code>, scan <code>",
   value snapshot.scanId,
   markup "</code> at ",
   value (snapshot.timestamp.civil ++ " UTC"),
   markup "</p>\n\n"]

/-- A total with its label. -/
def pageCard (total : Nat) (label : String) : Page :=
  [markup "\n<div class=\"card\"><h3>",
   value (toString total),
   markup "</h3><p>",
   value label,
   markup "</p></div>"]

/-- The totals. -/
def pageCards (summary : Summary) : Page :=
  markup "<div class=\"summary\">" ::
    (pageCard summary.totalFiles "files" ++
      pageCard summary.totalFolders "folders" ++
      pageCard summary.totalLines "lines" ++
      pageCard summary.braceFamilyFiles "JS/TS files" ++
      pageCard summary.pythonFiles "Python files" ++
      pageCard summary.otherFiles "other files") ++
    [markup "\n</div>\n\n"]

/-- An item of a list of files. -/
def pageFileItem (style label path : String) : Page :=
  [markup ("\n<li class=\"" ++ style ++ "\">" ++ label ++ ": "), value path, markup "</li>"]

/-- The declarations that were added and removed. -/
def pageEntityChanges (changes : EntityChanges) : Page :=
  markup "\n<ul class=\"details\">" ::
    changes.added.items.flatMap (fun signature =>
      [markup "<li class=\"added\">+ ", value signature, markup "</li>"]) ++
    changes.removed.items.flatMap (fun signature =>
      [markup "<li class=\"removed\">- ", value signature, markup "</li>"]) ++
    [markup "</ul>"]

/-- A modified file. -/
def pageModified (file : ModifiedFile) : Page :=
  [markup "\n<li class=\"modified\">modified: ",
   value file.filePath,
   markup " (",
   value (String.ofList (signed file.lineDiff)),
   markup " lines)"] ++
    (if file.changes.isStructural then pageEntityChanges file.changes else []) ++
    [markup "</li>"]

/-- A drifted file. -/
def pageDrifted (file : DriftedFile) : Page :=
  [markup "\n<li class=\"modified\">functions changed: ", value file.filePath] ++
    pageEntityChanges file.changes ++ [markup "</li>"]

/-- The list of changes. -/
def pageChanges (changes : Changes) : Page :=
  markup "<h2>Changes</h2>" ::
    (if changes.hasChanges then
      markup "\n<ul>" ::
        changes.newFiles.flatMap (pageFileItem "added" "new") ++
        changes.deletedFiles.flatMap (pageFileItem "removed" "deleted") ++
        changes.modifiedFiles.flatMap pageModified ++
        changes.driftedFiles.flatMap pageDrifted ++
        [markup "\n</ul>"]
    else [markup "\n<p>No changes since last scan.</p>"]) ++
    [markup "\n\n"]

/-- Values below each other. -/
def pageStack : List String → Page
  | [] => []
  | [text] => [value text]
  | text :: texts => value text :: markup "<br>" :: pageStack texts

/-- A file in the table. -/
def pageFileRow (file : ScannedFile) : Page :=
  [markup "\n<tr><td>",
   value file.filePath,
   markup "</td><td>",
   value (sizeText file.fileSize),
   markup "</td><td>",
   value (toString file.analysis.totalLines),
   markup "</td>\n<td class=\"details\">"] ++
    pageStack (file.analysis.functions.map FunctionEntity.description) ++
    [markup "</td>\n<td class=\"details\">"] ++
    pageStack (file.analysis.classes.map ClassEntity.description) ++
    [markup "</td></tr>"]

/-- The table of files and the end of the page. -/
def pageFiles (files : List ScannedFile) : Page :=
  [markup "<h2>Files</h2>\n<table>\n",
   markup "<tr><th>File</th><th>Size</th><th>Lines</th><th>Functions</th><th>Classes</th></tr>"] ++
    files.flatMap pageFileRow ++ [markup "\n</table>\n</div>\n</body>\n</html>\n"]

/-- The page for a scan and its changes. -/
def pageReport (snapshot : Snapshot) (changes : Changes) : Page :=
  pageHead snapshot ++ pageCards snapshot.summary ++ pageChanges changes ++ pageFiles snapshot.files

end Driftwatch
