import ApiForge.CommandLine.Clock
import ApiForge.CommandLine.Reach
import Std.Time.DateTime
/-
# ApiForge.Main -- the program

It reads the places that a command may look at, lets the command run on the disk that
they make, and puts what has changed where it belongs.
-/

namespace ApiForge.Main

set_option autoImplicit false

/-- The number by which the system says that something is a folder. -/
def folderCode : UInt32 := 21

/-- What stands at a path. -/
def nodeAt (path : String) : IO (Option Node) := do
  try
    let bytes ← IO.FS.readBinFile path
    return some (.file (Contents.ofBytes bytes.toList))
  catch
    | .inappropriateType _ code _ => return if code = folderCode then some .folder else none
    | _ => return none

/-- Take what stands at a path, and on the way to it, over into the disk. -/
def readPath (disk : Disk) (path : Path) : IO Disk :=
  path.stages.foldlM (fun disk stage => do
    match ← nodeAt stage.text with
    | some node => return disk.withNode stage node
    | none => return disk) disk

def readPaths (disk : Disk) (paths : List Path) : IO Disk := paths.foldlM readPath disk

/-- The variables that a command may ask for. -/
def readVariables : IO (Dict String) :=
  Config.variableNames.foldlM (fun values name => do
    match ← IO.getEnv name with
    | some value => return values.insert name value
    | none => return values) Dict.empty

/-- Put one thing where it belongs. -/
def writeNode (change : String × Node) : IO Unit :=
  match change.2 with
  | .folder => IO.FS.createDirAll change.1
  | .file contents => IO.FS.writeBinFile change.1 ⟨contents.bytes.toArray⟩

/-- The names on the way to the folder that the program runs in. -/
def workFolder : IO (List String) := do
  let path : Path := ⟨toString (← IO.currentDir)⟩
  return path.components.2

def clock : IO Moment := do
  let now ← Std.Time.Timestamp.now
  return Clock.moment now.toNanosecondsSinceUnixEpoch.val.toNat

/-- Do what a command asks for, and give the exit code. -/
def perform (command : Command) : IO UInt32 := do
  let now ← clock
  let lookup := (← readVariables).get?
  let start ← readPaths (.emptyAt (← workFolder)) command.arguments.reach
  let disk ← match command.arguments.job start lookup now with
    | .ok job => readPaths start job.reach
    | .error _ => pure start
  let (result, after) := command.execute disk lookup now
  (disk.changes after).forM writeNode
  match result with
  | .ok out =>
    IO.print out
    return 0
  | .error e =>
    IO.eprintln ("error: " ++ e.message)
    return 1

/-- Say why there is no command, and give the exit code. -/
def stop (reason : UsageStop) : IO UInt32 := do
  match reason with
  | .displayHelp => IO.print Command.helpText
  | .displayVersion => IO.println (Product.name ++ " " ++ Product.version)
  | .displayHelpOnMissing => IO.eprint Command.helpText
  | other => IO.eprintln ("error: " ++ other.message)
  return reason.exitCode.toUInt32

end ApiForge.Main

def main (words : List String) : IO UInt32 :=
  match ApiForge.Command.parse words with
  | .ok command => ApiForge.Main.perform command
  | .error reason => ApiForge.Main.stop reason
