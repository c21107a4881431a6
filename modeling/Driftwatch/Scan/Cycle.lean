import Driftwatch.Report.Render
import Driftwatch.Scan.Folder
import Driftwatch.Scan.History

/-!
# Scan cycles

A cycle scans a folder, compares the result with the last scan of the history, adds it to the
history and writes the reports. A cycle that fails keeps what was written before the failure, so it
returns the workspace in either case.

## Main definitions

* `Outcome`: what a cycle found and wrote.
* `runCycle`: one cycle.
* `watchCycles`: the cycles of a period of monitoring.
-/

namespace Driftwatch

/-- What a cycle found and wrote. -/
structure Outcome where
  snapshot : Snapshot
  changes : Changes
  /-- The file of each report, in the order of the formats. -/
  reportPaths : List Path
  deriving DecidableEq

/-- The file of a report. -/
def Config.reportPath (config : Config) (format : ReportFormat) : Path :=
  config.outputDir.join ⟨"latest_report." ++ format.extension⟩

section

variable {σ : Type} [FileStore σ]

/-- Writes the report in each format until one cannot be written. -/
def writeReports (config : Config) (snapshot : Snapshot) (changes : Changes) :
    List ReportFormat → σ → Except Error (List Path) × σ
  | [], store => (.ok [], store)
  | format :: formats, store =>
    let path := config.reportPath format
    match FileStore.write store path (format.render snapshot changes) with
    | (.error fault, store) => (.error (.unwritable path fault), store)
    | (.ok (), store) =>
      let (written, store) := writeReports config snapshot changes formats store
      (written.map (path :: ·), store)

/-- Compares a snapshot with the history, adds it there and writes the reports. -/
def recordSnapshot (config : Config) (snapshot : Snapshot) (store : σ) :
    Except Error Outcome × σ :=
  let history := History.ofConfig config
  match history.latest store with
  | .error error => (.error error, store)
  | .ok previous =>
    let changes := snapshot.changesSince previous
    match history.append store snapshot with
    | (.error error, store) => (.error error, store)
    | (.ok (), store) =>
      let (written, store) := writeReports config snapshot changes config.formats store
      (written.map fun paths => ⟨snapshot, changes, paths⟩, store)

/-- Runs one cycle. -/
def runCycle (workspace : Workspace σ) (config : Config) : Except Error Outcome × Workspace σ :=
  match scanTarget workspace config with
  | .error error => (.error error, workspace)
  | .ok snapshot =>
    let (outcome, store) := recordSnapshot config snapshot workspace.store
    (outcome, workspace.issue.withStore store)

/-- Runs a number of cycles, whether they fail or not. -/
def runCycles (config : Config) : Nat → Workspace σ → Workspace σ
  | 0, workspace => workspace
  | count + 1, workspace => runCycles config count (runCycle workspace config).2

end

/-- The number of cycles that start before an end when one starts at once and another after each
period. -/
def cyclesBefore (finish period : Nat) : Nat :=
  (finish + period - 1) / period

section

variable {σ : Type} [FileStore σ]

/-- Monitors a folder from now until an end that lies `finish` ahead, and returns the number of
cycles. -/
def watchCycles (workspace : Workspace σ) (config : Config) (period finish : Nat) :
    Nat × Workspace σ :=
  let count := cyclesBefore finish period
  (count, runCycles config count workspace)

end

end Driftwatch
