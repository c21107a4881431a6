import Driftwatch.Config.Settings

/-!
# Layers of configuration

The configuration of a folder comes from four layers, and a later one wins: the defaults, the
folder's own settings, variables of the environment and what a command gives. A number in the
environment must be readable even if a later layer replaces it. The result is checked at the end.

## Main definitions

* `Environment`: variables by name.
* `GivenSettings`: what a command gives.
* `Config.load`: the configuration of a folder.
* `outputDirOf`: the output folder if no folder to scan is known.
-/

namespace Driftwatch

/-- Variables by name. -/
abbrev Environment := String → Option String

/-- The variable for the output folder. -/
def outputVariable : String :=
  "CODE_MONITOR_OUTPUT"

/-- The variable for the minutes between scans. -/
def intervalVariable : String :=
  "CODE_MONITOR_INTERVAL"

/-- The variable for the number of scans that a history keeps. -/
def historyVariable : String :=
  "CODE_MONITOR_HISTORY_LIMIT"

/-- What a command gives. -/
structure GivenSettings where
  target : Path
  outputDir : Option Path := none
  intervalMinutes : Option Nat := none
  /-- No formats leave the others as they are. -/
  formats : List ReportFormat := []
  deriving Repr, DecidableEq

namespace Environment

/-- The output folder. A blank variable does not give one. -/
def outputDir? (env : Environment) : Option Path :=
  ((env outputVariable).filter fun value => !allBlank value.toList).map Path.mk

/-- The count in a variable, if it is set. White space around it does not matter. -/
def count? (env : Environment) (name : String) : Except ConfigFault (Option Nat) :=
  match env name with
  | none => .ok none
  | some value =>
    match readCount? (trim value.toList) with
    | some n => .ok (some n)
    | none => .error (.badNumber name value)

end Environment

namespace Config

/-- The configuration with the variables of an environment applied. -/
def applyEnvironment (config : Config) (env : Environment) : Except ConfigFault Config :=
  match env.count? intervalVariable with
  | .error fault => .error fault
  | .ok interval =>
    match env.count? historyVariable with
    | .error fault => .error fault
    | .ok limit =>
      .ok
        { config with
          outputDir := env.outputDir?.getD config.outputDir
          intervalMinutes := interval.getD config.intervalMinutes
          historyLimit := limit.getD config.historyLimit }

/-- The configuration with what a command gives applied. -/
def applyGiven (config : Config) (given : GivenSettings) : Config :=
  { config with
    outputDir := given.outputDir.getD config.outputDir
    intervalMinutes := given.intervalMinutes.getD config.intervalMinutes
    formats := if given.formats.isEmpty then config.formats else given.formats }

/-- The layers that follow the settings of a folder, and the final check. -/
def resolve (config : Config) (env : Environment) (given : GivenSettings) :
    Except ConfigFault Config :=
  match config.applyEnvironment env with
  | .error fault => .error fault
  | .ok config => (config.applyGiven given).ignoreOutput.check

variable {σ : Type} [FileStore σ]

/-- The configuration of a folder. -/
def load (store : σ) (env : Environment) (given : GivenSettings) : Except Error Config :=
  if FileStore.contains store given.target then
    match Settings.load store given.target with
    | .error error => .error error
    | .ok settings =>
      (((ofTarget given.target).applySettings settings).resolve env given).mapError .config
  else .error (.targetMissing given.target)

end Config

/-- The output folder if no folder to scan is known: the one given, else the one that the
environment gives, else the default. -/
def outputDirOf (given : Option Path) (env : Environment) : Path :=
  (given.or env.outputDir?).getD defaultOutputDir

end Driftwatch
