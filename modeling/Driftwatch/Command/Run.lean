import Driftwatch.Command.Basic
import Driftwatch.Config.Load
import Driftwatch.Scan.Cycle

/-!
# Running commands

A command works on a workspace and either prints a text or asks for a folder to be monitored. A
command that fails prints nothing, but a scan may have written files before it failed.

## Main definitions

* `Reply`: what a command gives.
* `outline`: the declarations of a file for people.
* `historyTable`: the scans of a history for people.
* `Command.run`: a command on a workspace.
-/

namespace Driftwatch

/-- What a command gives. -/
inductive Reply where
  | printed (text : String)
  /-- A folder is to be monitored from now on. -/
  | monitor (config : Config)
  deriving Repr, DecidableEq

/-! ### Declarations of a file -/

/-- First and last line. -/
def lineRange (first last : Nat) : String :=
  toString first ++ "-" ++ toString last

/-- A function on one line. -/
def FunctionEntity.outline (entity : FunctionEntity) : String :=
  entity.kind.tag ++ " " ++ entity.name ++ "(" ++ ", ".intercalate entity.args ++ ") " ++
    lineRange entity.lineStart entity.lineEnd

/-- The lines for a declaration. The methods of a class follow it. -/
def Entity.outline : Entity → List String
  | function f => ["  " ++ f.outline]
  | .classLike c =>
    ("  " ++ c.kind.tag ++ " " ++ c.name ++ " " ++ lineRange c.lineStart c.lineEnd) ::
      c.methods.map fun method => "    " ++ method.outline

/-- The declarations of a file for people. -/
def Extraction.outline (extraction : Extraction) : List String :=
  (extraction.filePath ++ " (" ++ toString extraction.totalLines ++ " lines)") ::
    if extraction.entities.isEmpty then ["  no functions or classes found"]
    else extraction.entities.flatMap Entity.outline

/-! ### Scans of a history -/

/-- The text with blanks after it up to a width. -/
def padEnd (width : Nat) (text : String) : String :=
  text ++ String.ofList (List.replicate (width - text.length) ' ')

/-- The text with blanks before it up to a width. -/
def padStart (width : Nat) (text : String) : String :=
  String.ofList (List.replicate (width - text.length) ' ') ++ text

/-- A line of the table of scans. -/
def historyRow (scanId timestamp files lines : String) : String :=
  padEnd 38 scanId ++ " " ++ padEnd 20 timestamp ++ " " ++ padStart 7 files ++ " " ++
    padStart 9 lines

/-- The line for a scan. -/
def Snapshot.historyRow (snapshot : Snapshot) : String :=
  Driftwatch.historyRow snapshot.scanId snapshot.timestamp.civil
    (toString snapshot.summary.totalFiles) (toString snapshot.summary.totalLines)

/-- The table of scans, the oldest first. -/
def historyTable (scans : List Snapshot) : List String :=
  historyRow "SCAN ID" "TIMESTAMP (UTC)" "FILES" "LINES" :: scans.map Snapshot.historyRow

/-- Lines, each with its end. -/
def printedLines (lines : List String) : String :=
  String.join (lines.map (· ++ "\n"))

/-! ### Commands -/

/-- What a command gives for the configuration of the folder that it is about. -/
def Command.givenSettings? : Command → Option GivenSettings
  | scan target output formats =>
    some { target := target, outputDir := output, formats := formats }
  | watch target output interval =>
    some { target := target, outputDir := output, intervalMinutes := interval }
  | history (some target) output => some { target := target, outputDir := output }
  | history none _ | extract .. => none

section

variable {σ : Type} [FileStore σ]

/-- Prints the declarations of a file. -/
def runExtract (store : σ) (file : Path) (json : Bool) : Except Error String :=
  match FileStore.readBytes store file with
  | .error fault => .error (.unreadable file fault)
  | .ok bytes =>
    let extraction := extractNamed file.text (repairUtf8 bytes)
    .ok (printedLines (if json then [(toJson extraction).pretty] else extraction.outline))

/-- The history that a listing is about. Without a folder to scan, its settings are not known. -/
def historyOf (store : σ) (env : Environment) (target output : Option Path) :
    Except Error History :=
  match target with
  | some target =>
    (Config.load store env { target := target, outputDir := output }).map History.ofConfig
  | none => .ok { outputDir := outputDirOf output env }

/-- Lists the scans of a history. -/
def runHistory (store : σ) (env : Environment) (target output : Option Path) :
    Except Error String :=
  match historyOf store env target output with
  | .error error => .error error
  | .ok history =>
    (history.load store).map fun scans =>
      printedLines
        (if scans.isEmpty then ["No scans recorded in " ++ history.outputDir.text ++ "."]
         else historyTable scans)

/-- The text that a scan prints. -/
def Outcome.printed (outcome : Outcome) : String :=
  printedLines
    (textReport outcome.snapshot outcome.changes ::
      outcome.reportPaths.map fun path => "Report written to " ++ path.text)

/-- Scans a folder once. -/
def runScan (workspace : Workspace σ) (env : Environment) (given : GivenSettings) :
    Except Error String × Workspace σ :=
  match Config.load workspace.store env given with
  | .error error => (.error error, workspace)
  | .ok config =>
    let (outcome, workspace) := runCycle workspace config
    (outcome.map Outcome.printed, workspace)

/-- Runs a command. -/
def Command.run (command : Command) (workspace : Workspace σ) (env : Environment) :
    Except Error Reply × Workspace σ :=
  match command with
  | scan target output formats =>
    let (printed, workspace) :=
      runScan workspace env { target := target, outputDir := output, formats := formats }
    (printed.map .printed, workspace)
  | watch target output interval =>
    let given := { target := target, outputDir := output, intervalMinutes := interval }
    ((Config.load workspace.store env given).map .monitor, workspace)
  | extract file json => ((runExtract workspace.store file json).map .printed, workspace)
  | history target output =>
    ((runHistory workspace.store env target output).map .printed, workspace)

end

end Driftwatch
