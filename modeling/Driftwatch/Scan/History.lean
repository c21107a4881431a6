import Driftwatch.Config.Basic
import Driftwatch.Scan.Snapshot
import Driftwatch.Store.Basic

/-!
# The history of scans

Past scans are kept in one file of the output folder, the oldest first. When one is added, the
oldest ones beyond the limit are dropped, and at least one is always kept. A file that is missing or
does not hold a history stands for an empty one. A file that cannot be read is a failure.

## Main definitions

* `History`: where a history is kept and how long it may become.
* `History.load`, `History.latest`, `History.append`.
-/

namespace Driftwatch

/-- Where a history is kept and how long it may become. -/
structure History where
  outputDir : Path
  limit : Nat := defaultHistoryLimit
  deriving Repr, DecidableEq

namespace History

/-- The history that a configuration names. -/
def ofConfig (config : Config) : History :=
  ⟨config.outputDir, config.historyLimit⟩

/-- The file that holds the history. -/
def path (history : History) : Path :=
  history.outputDir.join ⟨"history.json"⟩

/-- The scans that are kept of a list. -/
def keep (history : History) (scans : List Snapshot) : List Snapshot :=
  scans.drop (scans.length - max history.limit 1)

/-- The text of a history. -/
def encode (scans : List Snapshot) : String :=
  (toJson scans).pretty

/-- The history with a given text. -/
def decode? (text : String) : Option (List Snapshot) :=
  (Json.parse? text).bind ofJson?

variable {σ : Type} [FileStore σ]

/-- The scans of a history, the oldest first. -/
def load (history : History) (store : σ) : Except Error (List Snapshot) :=
  if FileStore.contains store history.path then
    match FileStore.readText store history.path with
    | .ok text => .ok ((decode? text).getD [])
    | .error fault => .error (.unreadable history.path fault)
  else .ok []

/-- The last scan of a history. -/
def latest (history : History) (store : σ) : Except Error (Option Snapshot) :=
  (history.load store).map List.getLast?

/-- Adds a scan to a history, and gives the files after that or after the failure. -/
def append (history : History) (store : σ) (snapshot : Snapshot) : Except Error Unit × σ :=
  match history.load store with
  | .error error => (.error error, store)
  | .ok scans =>
    let text := encode (history.keep (scans ++ [snapshot]))
    let (written, store) := FileStore.write store history.path text
    (written.mapError (.unwritable history.path), store)

end History

end Driftwatch
