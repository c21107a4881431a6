import Driftwatch.Command.Args
import Driftwatch.Command.Run
import Driftwatch.Config.EnvFile
import Driftwatch.Store.Disk

/-!
# The program

One run of the program: variables from a file are added to the environment, the arguments are read,
and the command that they give is run.

## Main definitions

* `Ending`: how a run ends.
* `runProgram`: one run.
* `randomLabel`: the text of a random identifier.
-/

namespace Driftwatch

/-- How a run of the program ends. -/
inductive Ending where
  | printed (text : String)
  /-- The program's help is wanted. -/
  | help
  /-- The arguments give no command. -/
  | refused (refusal : Refusal)
  | failed (error : Error)
  /-- A folder is to be monitored from now on. -/
  | monitor (config : Config)
  deriving Repr, DecidableEq

namespace Ending

/-- The number with which the program exits. -/
def exitCode : Ending → Nat
  | printed _ | help | monitor _ => 0
  | refused _ | failed _ => 1

/-- What is printed. -/
def output : Ending → String
  | printed text => text
  | help => helpText
  | _ => ""

/-- What is written about a failure. -/
def complaint : Ending → String
  | failed error => "error: " ++ error.message ++ "\n"
  | refused refusal => "error: " ++ refusal.message ++ "\n"
  | _ => ""

end Ending

/-- The name of the file with variables. -/
def envFileName : String :=
  ".env"

/-- The environment of a run. -/
def programEnvironment (disk : Disk) (env : Environment) : Environment :=
  match disk.nearest? envFileName with
  | some file => env.extend file
  | none => env

/-- Runs the program. -/
def runProgram (workspace : Workspace Disk) (env : Environment) (args : List String) :
    Ending × Workspace Disk :=
  match Invocation.ofArgs args with
  | .error .help => (.help, workspace)
  | .error .version => (.printed versionText, workspace)
  | .error (.refused refusal) => (.refused refusal, workspace)
  | .ok invocation =>
    match invocation.command.run workspace (programEnvironment workspace.store env) with
    | (.ok (.printed text), workspace) => (.printed text, workspace)
    | (.ok (.monitor config), workspace) => (.monitor config, workspace)
    | (.error error, workspace) => (.failed error, workspace)

/-- The digits of bytes in hexadecimal. -/
def hexText (bytes : List UInt8) : String :=
  String.ofList (bytes.flatMap fun b => [hexDigit (b.toNat / 16), hexDigit (b.toNat % 16)])

/-- The text of a random identifier with given bytes: five groups of digits, with the version four
and the variant in their places. -/
def randomLabel (bytes : List UInt8) : String :=
  let bytes := (bytes.modify 6 fun b => (b &&& 0x0F) ||| 0x40).modify 8 fun b =>
    (b &&& 0x3F) ||| 0x80
  "-".intercalate
    [hexText (bytes.take 4), hexText ((bytes.drop 4).take 2), hexText ((bytes.drop 6).take 2),
      hexText ((bytes.drop 8).take 2), hexText (bytes.drop 10)]

end Driftwatch
