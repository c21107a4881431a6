import Driftwatch.Config.Basic
import Driftwatch.Store.Basic
import Driftwatch.Text.Blank
import Driftwatch.Yaml.Decode

/-!
# Settings of a monitored folder

A folder may hold a file with settings of its own. Every setting may be left out, and names that
are not settings are refused. A blank file sets nothing.

## Main definitions

* `Settings`, with `Settings.ofText?` for the meaning of a file.
* `Settings.load`: the settings of a folder in a store.
* `Config.applySettings`: a configuration with settings applied.
-/

namespace Driftwatch

/-- What a folder's own file sets. -/
structure Settings where
  outputDir : Option Path := none
  intervalMinutes : Option Nat := none
  historyLimit : Option Nat := none
  /-- Further names to ignore. -/
  ignore : List String := []
  formats : Option (List ReportFormat) := none
  deriving Repr, DecidableEq

namespace Settings

/-- The name of the file with settings. -/
def fileName : String :=
  ".code-monitor.yaml"

/-- The names of the settings. -/
def names : List String :=
  ["output_dir", "interval_minutes", "history_limit", "ignore", "formats"]

/-- The settings that a node gives. -/
def ofNode? (node : Yaml.Node) : Option Settings := do
  let fields ← node.record? names
  let optional {α : Type} (name : String) (read : Yaml.Node → Option α) : Option (Option α) :=
    match fields.lookup name with
    | some value => value.optional? read
    | none => some none
  let outputDir ← optional "output_dir" fun value => value.text?.map Path.mk
  let intervalMinutes ← optional "interval_minutes" Yaml.Node.count?
  let historyLimit ← optional "history_limit" Yaml.Node.count?
  let ignore ←
    match fields.lookup "ignore" with
    | some value => value.list? Yaml.Node.text?
    | none => some []
  let formats ← optional "formats" (Yaml.Node.list? (Yaml.Node.choice? ReportFormat.ofName?))
  return ⟨outputDir, intervalMinutes, historyLimit, ignore, formats⟩

/-- The levels of nodes below a record of lists of texts. -/
def levels : Nat :=
  2

/-- The settings that a text gives, if it has a meaning. -/
def ofText? (text : String) : Option Settings :=
  if allBlank text.toList then some {}
  else
    (Yaml.document? text).bind fun
      | some document => ofNode? (document.unfold levels document.root)
      | none => ofNode? Yaml.Node.empty

variable {σ : Type} [FileStore σ]

/-- The settings of a folder. A folder without a file for them sets nothing. -/
def load (store : σ) (target : Path) : Except Error Settings :=
  let path := target.join ⟨fileName⟩
  if FileStore.contains store path then
    match FileStore.readText store path with
    | .error fault => .error (.unreadable path fault)
    | .ok text =>
      match ofText? text with
      | some settings => .ok settings
      | none => .error .configFile
  else .ok {}

end Settings

namespace Config

/-- The configuration with settings applied. Names to ignore are added, all else is replaced. -/
def applySettings (config : Config) (settings : Settings) : Config :=
  { config with
    outputDir := settings.outputDir.getD config.outputDir
    intervalMinutes := settings.intervalMinutes.getD config.intervalMinutes
    historyLimit := settings.historyLimit.getD config.historyLimit
    ignore := settings.ignore.foldl addName config.ignore
    formats := settings.formats.getD config.formats }

end Config

end Driftwatch
