import HitLog.CommandLine
import HitLog.Journal.Console

/-!
# The program

The process reads the files that its flags and its configuration name, executes the command on them,
and then appends to the log what the command appended. Output goes to standard output and the
journal to standard error. There is no transport here, so an export finds its network unreachable.
-/

namespace HitLog

namespace Program

/-- The name of a path, which is empty if the path is not made of characters. -/
def pathName (path : Text) : String := (String.fromUTF8? ⟨path.toArray⟩).getD ""

/-- Take what is at a path into a file system: what can be opened but not read is a directory.
Devices are left alone. -/
def look (files : FileSystem) (path : Text) : IO FileSystem := do
  let name := pathName path
  if name.isEmpty || name.startsWith "/dev/" then return files
  let opened ← try some <$> IO.FS.Handle.mk name .read catch _ => pure none
  match opened with
  | none => return files
  | some handle =>
    try return files.put path (← handle.readBinToEnd).toList
    catch _ => return files.makeDirectories path

/-- The path of the directory that holds a path. -/
def parent (path : Text) : Text :=
  match Text.splitAtLast FileSystem.slash path with
  | some (above, _) => above
  | none => []

/-- Append what a file has gained. -/
def store (before after : FileSystem) (path : Text) : IO Unit := do
  match after.content? path with
  | none => return
  | some content =>
    let gained := content.drop ((before.content? path).getD []).length
    unless gained.isEmpty do
      let handle ← IO.FS.Handle.mk (pathName path) .append
      handle.write ⟨gained.toArray⟩

/-- A network without a route to anywhere. -/
def noNetwork : Network where
  endpoint := .ofList [.fail (Text.ofString "network is unreachable")]
  nameServers := []
  system := .finds []
  clock := 0
  traffic := .none

/-- What the process finds given. -/
def environment : IO Environment := do
  let hostName ← try IO.FS.readFile "/etc/hostname" catch _ => pure ""
  return {
    hostName := Text.trimLineEnds (Text.ofString hostName)
    now := 0
    usage := ⟨0, 0, 0, 0, 0, 1, 0⟩ }

/-- The files that the arguments name. -/
def gather (arguments : List Text) : IO (FileSystem × Text) := do
  let flags := (Flags.parse? arguments).getD .default
  let files ← look (.initial (Text.ofString "work")) flags.config
  let logPath := ((CommandLine.configure flags files).toOption.map Config.logPath).getD []
  return (← look (← look files (parent logPath)) logPath, logPath)

/-- Write octets to a stream. -/
def print (stream : IO.FS.Stream) (t : Text) : IO Unit := stream.write ⟨t.toArray⟩

end Program

end HitLog

open HitLog in
def main (args : List String) : IO UInt32 := do
  let arguments := args.map Text.ofString
  let (files, logPath) ← Program.gather arguments
  let exit := CommandLine.execute (← Program.environment) arguments ⟨files, Program.noNetwork, []⟩
  Program.store files exit.world.files logPath
  exit.console.forM fun entry => do Program.print (← IO.getStderr) entry.line
  Program.print (← IO.getStdout) exit.output
  return exit.code.toUInt32
