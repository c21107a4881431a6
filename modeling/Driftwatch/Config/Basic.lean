import Driftwatch.Error
import Driftwatch.Report.Format

/-!
# Configurations

A configuration says what to scan, where to keep the results and how. The last component of the
output folder is among the ignored names if it is a text, so that a scan passes over a folder of
results that lies inside the scanned one. Ignored names are texts, so another name cannot be one.

## Main definitions

* `Config`, with `Config.ofTarget` for the defaults.
* `Config.ignoreOutput`: adds the output folder to the ignored names.
* `Config.check`: refuses a configuration that makes no sense.
-/

namespace Driftwatch

/-- What to scan, where to keep the results and how. -/
structure Config where
  target : Path
  outputDir : Path
  intervalMinutes : Nat
  /-- The number of scans that the history keeps. -/
  historyLimit : Nat
  /-- Names of files and folders that are not scanned. -/
  ignore : List String
  formats : List ReportFormat
  deriving Repr, DecidableEq

/-- The output folder if none is given. -/
def defaultOutputDir : Path :=
  ⟨"monitoring_output"⟩

/-- The number of scans that a history keeps if nothing else is said. -/
def defaultHistoryLimit : Nat :=
  20

/-- Names with one more at the end, unless it is among them. -/
def addName (names : List String) (name : String) : List String :=
  if names.contains name then names else names ++ [name]

namespace Config

/-- Adds the last component of the output folder to the ignored names, if it is a text. -/
def ignoreOutput (config : Config) : Config :=
  match config.outputDir.fileName?.bind RawText.text? with
  | some name => { config with ignore := addName config.ignore name }
  | none => config

/-- The configuration of a folder if nothing is said about it. -/
def ofTarget (target : Path) : Config :=
  ignoreOutput
    { target := target
      outputDir := defaultOutputDir
      intervalMinutes := 10
      historyLimit := defaultHistoryLimit
      ignore := [".git", "node_modules", "target"]
      formats := [.html] }

/-- Refuses a configuration without time between scans, without history or without reports. -/
def check (config : Config) : Except ConfigFault Config :=
  if config.intervalMinutes = 0 then .error .zeroInterval
  else if config.historyLimit = 0 then .error .zeroHistory
  else if config.formats.isEmpty then .error .noFormats
  else .ok config

/-- The time between scans in seconds, at most the largest count. -/
def intervalSeconds (config : Config) : Nat :=
  min (config.intervalMinutes * 60) (wordLimit - 1)

end Config

end Driftwatch
