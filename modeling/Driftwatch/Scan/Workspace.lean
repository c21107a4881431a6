import Driftwatch.Store.Basic

/-!
# Workspaces

A scan needs files, the current time and an identifier of its own. A workspace holds all three, so
that a scan is a function of it.

## Main definitions

* `Workspace`: files, time and identifiers.
* `Workspace.issue`: the workspace after an identifier was used.
-/

namespace Driftwatch

/-- Files, the current time and the identifiers of scans. -/
structure Workspace (σ : Type) where
  store : σ
  now : Timestamp
  /-- The identifier of the scan after a number of others. -/
  label : Nat → String
  /-- The number of identifiers that were used. -/
  issued : Nat := 0

namespace Workspace

variable {σ : Type}

/-- The identifier of the next scan. -/
def nextLabel (workspace : Workspace σ) : String :=
  workspace.label workspace.issued

/-- The workspace after an identifier was used. -/
def issue (workspace : Workspace σ) : Workspace σ :=
  { workspace with issued := workspace.issued + 1 }

/-- The workspace with other files. -/
def withStore (workspace : Workspace σ) (store : σ) : Workspace σ :=
  { workspace with store := store }

end Workspace

/-- Identifiers that count up from one after a common beginning. -/
def countingLabel (start : String) (count : Nat) : String :=
  start ++ "-" ++ toString (count + 1)

end Driftwatch
