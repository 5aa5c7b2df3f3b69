import LastGood.Log.Line
import LastGood.Program
import Std.Async.Signal
import Std.Internal.UV.System

/-!
# The command line

What surrounds a request: the arguments, the part of the disk that the request is about,
the environment, the output, and the exit code. The disk is looked at before a request
and what the request made of the configuration file is carried out behind it. A service
looks at the disk again and again until it is interrupted.
-/

namespace LastGood.Console

/-- What stands at a location of the disk. -/
def itemAt? (location : Location) : IO (Option Item) := do
  let path := "/" ++ String.intercalate "/" location
  try
    return some (.file (← IO.FS.readBinFile path))
  catch _ =>
    try
      let _ ← IO.FS.realPath (path ++ "/.")
      return some .directory
    catch _ =>
      return none

/-- What stands at some locations of the disk. -/
def observe (locations : List Location) : IO Disk :=
  locations.foldlM (fun disk location => do
    match ← itemAt? location with
    | some item => return disk.put location item
    | none => return disk) Disk.empty

/-- The machine as far as it matters for the file at a path. -/
def machineFor (path : Path) : IO Machine := do
  let current ← IO.currentDir
  let directory := Disk.names ⟨current.toString⟩
  let environment ← Std.Internal.UV.System.osEnviron
  let start := if path.isAbsolute then [] else directory
  let aside := ({ path, machine := { disk := Disk.empty } } : FileStore).temporaryPath
  let disk ← observe (Disk.waypoints [] directory ++ Disk.waypoints start (Disk.names path) ++
    Disk.waypoints start (Disk.names aside))
  return { disk, directory, environment := environment.toList }

/-- The bytes of a file that has changed between two machines. -/
def changed? (before after : Machine) (path : Path) : Option ByteArray :=
  match after.disk.read after.directory path, before.disk.read before.directory path with
  | .ok content, .ok old => if content == old then none else some content
  | .ok content, .error _ => some content
  | .error _, _ => none

/-- Carries out what happened to the file at a path. Its new text is written beside it
    first. -/
def commit (before after : Machine) (path : Path) : IO Unit := do
  let aside := ({ path, machine := after } : FileStore).temporaryPath
  match changed? before after path with
  | some content =>
      IO.FS.writeBinFile aside.text content
      IO.FS.rename aside.text path.text
  | none =>
      if let some content := changed? before after aside then
        IO.FS.writeBinFile aside.text content

/-- Writes lines of output. -/
def write (json : Bool) (lines : List OutputLine) : IO Unit := do
  for line in lines do
    match line with
    | .text text => IO.println text
    | .record record => IO.println (if json then record.jsonLine else record.wordLine)
  (← IO.getStdout).flush

/-- Writes a report and gives its exit code. -/
def finish (json : Bool) (report : Report) : IO UInt32 := do
  write json report.lines
  if let some text := report.errorText then IO.eprint text
  return report.code.toUInt32

/-- The notices about the file at a path between two views of the disk. -/
def noticesOf (before after : Machine) (path : Path) : List Notice :=
  match changed? before after path with
  | some _ =>
      [⟨if Change.isThere before path then .modified else .created, [after.absolute path]⟩]
  | none => []

/-- How long a service rests between two looks at the disk, in milliseconds. -/
def restMillis : UInt32 := 20

/-- Attends to a service until it is interrupted. -/
partial def attend (json : Bool) (path : Path) (interrupted : Std.Async.AsyncTask Int)
    (since : Nat) (service : Program.Service) : IO UInt32 := do
  if ← IO.hasFinished interrupted then
    finish json service.interrupt
  else
    IO.sleep restMillis
    let now ← IO.monoNanosNow
    let machine ← machineFor path
    let notices := noticesOf service.scheduler.store.machine machine path
    let (next, lines) := service.pass machine notices (now - since)
    write json lines
    attend json path interrupted now next

/-- Does what is asked for on the real disk. -/
def run (invocation : Invocation) : IO UInt32 := do
  let path := invocation.request.config
  let machine ← machineFor path
  match invocation.request with
  | .serve _ interval watch =>
      let interrupt ← Std.Async.Signal.Waiter.mk .sigint false
      let interrupted ← interrupt.wait
      match Program.Service.start .ordinary machine path interval watch with
      | .error report => finish invocation.json report
      | .ok (service, lines) =>
          let since ← IO.monoNanosNow
          write invocation.json lines
          attend invocation.json path interrupted since service
  | request =>
      let report := Program.run .ordinary machine request
      commit machine report.machine path
      finish invocation.json report

/-- How the program is called. -/
def usage : String :=
  "Usage: confcache [--json] COMMAND --config FILE\n\n" ++
  "Commands:\n" ++
  "  serve [--interval SECONDS] [--watch]  keep the configuration fresh until interrupted\n" ++
  "  check                                 say whether the configuration is valid\n" ++
  "  show [--editable]                     print the configuration as JSON\n" ++
  "  set-port PORT                         change the server port\n"

end LastGood.Console

/-- Does what the arguments ask for, or says how they are written. -/
def main (arguments : List String) : IO UInt32 := do
  match LastGood.CommandLine.read arguments with
  | some invocation => LastGood.Console.run invocation
  | none =>
      IO.eprint LastGood.Console.usage
      return 2
