import Driftwatch.Command.Program
import Std.Time.DateTime.Timestamp

/-!
# The command line

The part of the disk that a command is about is read, the program runs on it, and what it wrote goes
back to the disk. Monitoring repeats this for every cycle.
-/

namespace Driftwatch

/-- The current time. -/
def currentTime : IO Timestamp := do
  let nanos := (← Std.Time.Timestamp.now).toNanosecondsSinceUnixEpoch.val
  return .ofUnix (nanos.fdiv 1000000000) (nanos.fmod 1000000000).toNat

/-- The path of a location. -/
def locationText (location : Location) : String :=
  "/" ++ "/".intercalate (location.map RawText.shown)

/-- Reads what is at a location, without what is below it. -/
def loadItem (disk : Disk) (location : Location) : IO Disk := do
  let path := (← IO.currentDir) / locationText location
  match ← path.metadata.toBaseIO with
  | .error _ => return disk
  | .ok info =>
    match info.type with
    | .dir => return disk.set location .folder
    | .file =>
      match ← (IO.FS.readBinFile path).toBaseIO with
      | .ok data =>
        let modified := Timestamp.ofUnix info.modified.sec info.modified.nsec.toNat
        return disk.set location (.file data modified)
      | .error _ => return disk
    | _ => return disk

/-- Reads what a path passes and names, without what is below that. -/
def loadPath (disk : Disk) (path : Path) : IO Disk :=
  (disk.passed path).foldlM loadItem disk

/-- Reads what is at a location and below it. -/
partial def loadTree (ignore : List String) (disk : Disk) (location : Location) : IO Disk := do
  let disk ← loadItem disk location
  match disk.item? location with
  | some .folder =>
    let path := (← IO.currentDir) / locationText location
    let names := (← path.readDir).toList.map (·.fileName)
    (names.filter (!ignore.contains ·)).foldlM
      (fun disk (name : String) => loadTree ignore disk (location ++ [.ofString name])) disk
  | _ => return disk

/-- Reads what a scan with a configuration needs. -/
def loadScan (disk : Disk) (config : Config) : IO Disk := do
  let disk ←
    match disk.locate config.target with
    | .ok (location, _) => loadTree config.ignore disk location
    | .error _ => pure disk
  let written := (History.ofConfig config).path :: config.formats.map config.reportPath
  written.foldlM loadPath disk

/-- Reads what a command needs. -/
def loadCommand (disk : Disk) (env : Environment) (command : Command) : IO Disk := do
  let disk ←
    match command.givenSettings? with
    | some given =>
      loadPath (← loadPath disk given.target) (given.target.join ⟨Settings.fileName⟩)
    | none => pure disk
  match command with
  | .extract file _ => loadPath disk file
  | .history target output =>
    match historyOf disk env target output with
    | .ok history => loadPath disk history.path
    | .error _ => return disk
  | .scan .. | .watch .. =>
    match command.givenSettings?.map (Config.load disk env) with
    | some (.ok config) => loadScan disk config
    | _ => return disk

/-- Writes what a run changed. -/
def saveChanges (earlier disk : Disk) : IO Unit := do
  for (location, item) in disk.changesSince earlier do
    match item with
    | .folder => IO.FS.createDirAll (locationText location)
    | .file data _ => IO.FS.writeBinFile (locationText location) data

/-- The disk before anything below the current folder is read. -/
def emptyDisk : IO Disk := do
  let names := ((← IO.currentDir).toString.splitOn "/").filter (· != "")
  let here := names.map RawText.ofString
  let disk : Disk := { here := here, now := ← currentTime }
  let above := (List.range (here.length + 1)).map here.take
  let disk ← (above.filter (· != [])).foldlM loadItem disk
  (above.map (· ++ [RawText.ofString envFileName])).foldlM loadItem disk

/-- A workspace with a new identifier. -/
def newWorkspace (disk : Disk) : IO (Workspace Disk) := do
  let bytes ← IO.getRandomBytes 16
  return { store := disk, now := ← currentTime, label := fun _ => randomLabel bytes.toList }

/-- The variables that a run can ask for. -/
def loadEnvironment (disk : Disk) : IO Environment := do
  let mentioned := ((disk.nearest? envFileName).map EnvFile.names).getD []
  let names := [outputVariable, intervalVariable, historyVariable] ++ mentioned
  let values ← names.mapM fun name => return (name, ← IO.getEnv name)
  return fun name => (values.lookup name).join

/-- Waits for a number of seconds. -/
def waitSeconds : Nat → IO Unit
  | 0 => return
  | count + 1 => do
    IO.sleep 1000
    waitSeconds count

/-- Runs cycle after cycle. -/
partial def monitor (config : Config) : IO Unit := do
  let disk ← loadScan (← loadPath (← emptyDisk) config.target) config
  let (outcome, workspace) := runCycle (← newWorkspace disk) config
  saveChanges disk workspace.store
  match outcome with
  | .ok _ => pure ()
  | .error error => (← IO.getStderr).putStrLn ("Scan failed: " ++ error.message)
  waitSeconds config.intervalSeconds
  monitor config

/-- Runs the program on the disk. -/
def runOnDisk (args : List String) : IO UInt32 := do
  let start ← emptyDisk
  let env ← loadEnvironment start
  let disk ←
    match Invocation.ofArgs args with
    | .ok invocation => loadCommand start (programEnvironment start env) invocation.command
    | .error _ => pure start
  let (ending, workspace) := runProgram (← newWorkspace disk) env args
  saveChanges disk workspace.store
  (← IO.getStdout).putStr ending.output
  (← IO.getStderr).putStr ending.complaint
  match ending with
  | .monitor config => monitor config
  | _ => pure ()
  return ending.exitCode.toUInt32

end Driftwatch

/-- The program. -/
def main (args : List String) : IO UInt32 :=
  Driftwatch.runOnDisk args
