import Driftwatch.Path
import Driftwatch.Report.Format

/-!
# Commands

## Main definitions

* `Command`: what the program is asked to do.
* `Invocation`: a command and how much is logged about it.
* `Refusal`: why arguments do not give a command.
-/

namespace Driftwatch

/-- What the program is asked to do. -/
inductive Command where
  /-- Scan a folder once. -/
  | scan (target : Path) (output : Option Path) (formats : List ReportFormat)
  /-- Scan a folder now and after every interval. -/
  | watch (target : Path) (output : Option Path) (interval : Option Nat)
  /-- Print the declarations of a file. -/
  | extract (file : Path) (json : Bool)
  /-- List the scans of an output folder. -/
  | history (target : Option Path) (output : Option Path)
  deriving Repr, DecidableEq

/-- A command and how much is logged about it. -/
structure Invocation where
  verbose : Bool
  command : Command
  deriving Repr, DecidableEq

/-- What is logged if the environment does not say. -/
def Invocation.logLevel (invocation : Invocation) : String :=
  if invocation.verbose then "debug" else "info"

/-- Why arguments do not give a command. -/
inductive Refusal where
  | unknownArgument
  | unknownCommand
  /-- A value is missing, empty or not among the possible ones. -/
  | badValue
  /-- A value is not a count. -/
  | badCount
  /-- An option that can be given once is given again. -/
  | repeated
  | missingArgument
  /-- Options were given, but no command. -/
  | missingCommand
  /-- A value is attached to an option that takes none. -/
  | unneededValue
  /-- Nothing was given at all. -/
  | nothingGiven
  deriving Repr, DecidableEq

/-- The wording of a refusal. -/
def Refusal.message : Refusal → String
  | unknownArgument => "unexpected argument"
  | unknownCommand => "unrecognized command"
  | badValue => "a value is missing or not allowed"
  | badCount => "a value is not a count"
  | repeated => "an option cannot be used multiple times"
  | missingArgument => "a required argument was not provided"
  | missingCommand | nothingGiven => "a command is required"
  | unneededValue => "a value was given to an option that takes none"

/-- Why there is no command to run. -/
inductive Stop where
  /-- The program's help is wanted. -/
  | help
  /-- The program's version is wanted. -/
  | version
  | refused (refusal : Refusal)
  deriving Repr, DecidableEq

/-- The text that explains the program. -/
def helpText : String :=
  "Watch a codebase and report file and function-level changes between scans\n\n" ++
  "Usage: code-monitor [-v] <COMMAND>\n\n" ++
  "Commands:\n" ++
  "  scan <TARGET> [-o <OUTPUT>] [--format <FORMAT>]...  Scan a folder once\n" ++
  "  watch <TARGET> [-o <OUTPUT>] [-i <MINUTES>]         Scan a folder periodically\n" ++
  "  extract <FILE> [--json]                             Print the declarations of a file\n" ++
  "  history [TARGET] [-o <OUTPUT>]                      List the stored scans\n"

/-- The text that tells the version. -/
def versionText : String :=
  "code-monitor 0.1.0\n"

end Driftwatch
