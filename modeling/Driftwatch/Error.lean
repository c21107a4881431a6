import Driftwatch.Store.Fault
import Driftwatch.Text.Quoted

/-!
# Failures of commands

## Main definitions

* `Error`: why a command failed.
* `Error.message`: its wording.
-/

namespace Driftwatch

/-- Why a configuration is refused. -/
inductive ConfigFault where
  | zeroInterval
  | zeroHistory
  | noFormats
  /-- A variable of the environment does not hold a count. -/
  | badNumber (name value : String)
  deriving Repr, DecidableEq

/-- The wording of a configuration's fault. -/
def ConfigFault.message : ConfigFault → String
  | zeroInterval => "interval must be at least one minute"
  | zeroHistory => "history limit must be at least 1"
  | noFormats => "at least one report format is required"
  | badNumber name value => name ++ " must be a positive integer, got " ++ quote value

/-- Why a command failed. -/
inductive Error where
  | config (fault : ConfigFault)
  /-- The folder to scan is not there. -/
  | targetMissing (path : Path)
  | unreadable (path : Path) (fault : StoreFault)
  | unwritable (path : Path) (fault : StoreFault)
  /-- A folder could not be listed. -/
  | unlisted (path : Path) (fault : StoreFault)
  /-- The configuration file has no meaning. -/
  | configFile
  deriving Repr, DecidableEq

namespace Error

/-- The wording of a failure. -/
def message : Error → String
  | config fault => "invalid configuration: " ++ fault.message
  | targetMissing path => "target folder does not exist: " ++ path.text
  | unreadable path fault => "Failed to read " ++ path.text ++ ": " ++ fault.message
  | unwritable path fault => "Failed to write " ++ path.text ++ ": " ++ fault.message
  | unlisted path fault => "Failed to walk " ++ path.text ++ ": " ++ fault.message
  | configFile => "YAML error"

end Error

end Driftwatch
