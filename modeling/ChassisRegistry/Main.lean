import ChassisRegistry.Daemon

/-! # The program

    Brings the daemon and the machine together: reads the files that a run
    looks at, runs, and writes what the run has to say. A run that serves goes
    on until its standard input ends. -/

namespace ChassisRegistry.Program

/-! ## Files -/

/-- The content of a file, if there is a readable one. -/
def fileAt? (path : String) : IO (Option ByteArray) := do
  try
    return some (← IO.FS.readBinFile path)
  catch _ => return none

/-- The changes that bring what is at a path of the machine. -/
def bringing (path : String) : IO (List FileSystem.Action) := do
  let target := Path.ofText path
  match ← fileAt? path with
  | some content =>
      return (target.ancestors.head?.map .makeDirectory).toList ++ [.write target content]
  | none =>
      try
        let entries ← (← IO.FS.realPath path).readDir
        let each ← entries.toList.mapM fun entry => do
          let name := target.child (.ofText entry.fileName)
          match ← fileAt? entry.path.toString with
          | some content => return .write name content
          | none => return .makeDirectory name
        return .makeDirectory target :: each
      catch _ => return []

/-- The files with what is at a path of the machine. -/
def withPath (fs : FileSystem) (path : String) : IO FileSystem := do
  return (fs.performEach (← bringing path)).2

/-- No files but the working directory. -/
def bare : FileSystem where
  root    := .directory [(.ofText "workdir", .directory [])]
  workDir := [.ofText "workdir"]

/-- The files that a run looks at: its configuration, and the directory of its sink. -/
def filesOf (o : Options) : IO FileSystem := do
  let fs ← withPath bare (o.config.getD Config.defaultPath)
  match Daemon.configure o fs with
  | .ok c => withPath fs c.backupDir
  | .error _ => return fs

/-! ## What the program says -/

/-- How the program is called. -/
def usage : String :=
  "Usage: aoltd [-c|--config FILE] [-b|--backup-dir DIR] [--sink directory|memory]\n" ++
  "             [-i|--flush-interval SECONDS] [--no-restore] [-l|--log-level LEVEL]\n" ++
  "             [-h|--help] [-V|--version]"

/-- The lines about how far a run came. -/
def progressLines (p : Daemon.Progress) : List String :=
  s!"snapshot sink ready: {p.sink.name} {p.backupDir}" ::
    (p.restored.map fun r => s!"snapshots restored: {r.restored}, skipped: {r.skipped}").toList ++
    (p.interval.map fun n => s!"flusher started: {n}s").toList

/-- Waits until the standard input ends. -/
partial def untilEnd (input : IO.FS.Stream) : IO Unit := do
  unless (← input.getLine).isEmpty do untilEnd input

/-- Writes what a run has to say. -/
def say : Daemon.Course → IO Unit
  | .help => IO.println usage
  | .version => IO.println Daemon.version
  | .badArguments => IO.eprintln usage
  | .badConfig e => IO.eprintln (Daemon.complaint e)
  | .ran progress failure => do
      for line in progressLines progress do IO.println line
      match failure with
      | some f => IO.eprintln ("aoltd exiting with error: " ++ f.message)
      | none => untilEnd (← IO.getStdin)

end ChassisRegistry.Program

open ChassisRegistry in
/-- Runs the daemon. A run that serves leaves no file changed: what it restores has no changes. -/
def main (args : List String) : IO UInt32 := do
  let fs ← match CommandLine.read args with
    | .serve o => Program.filesOf o
    | _ => pure .empty
  let (course, _) := Daemon.run args fs
  Program.say course
  return course.status.toUInt32
