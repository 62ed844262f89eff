import ChassisRegistry.CommandLine
import ChassisRegistry.Config.File
import ChassisRegistry.Registry.Flush
import ChassisRegistry.Sink.Directory
import ChassisRegistry.Sink.Memory

/-! # The daemon

    One run of the daemon, from its arguments to its end: it reads its
    configuration, opens the sink, takes in the stored snapshots, starts the
    flusher, and, told to stop, flushes one last time. Whatever is wrong on
    the way ends the run. -/

namespace ChassisRegistry

namespace Daemon

/-- Name and version of the program. -/
def version : String := "aoltd 0.1.0"

/-! ## How a run goes -/

/-- How far a run came that opened its sink. -/
structure Progress where
  sink      : SinkKind
  backupDir : String
  restored  : Option RestoreReport := none
  /-- The interval of the flusher, once it runs. -/
  interval  : Option Nat := none
  deriving DecidableEq

/-- Why a run that opened its sink fails. -/
inductive Failure where
  | restoring (e : RegistryError)
  | unflushed (sites : Nat)
  deriving DecidableEq

/-- The wording: what the daemon was about to do, and the cause. -/
def Failure.message : Failure → String
  | .restoring e     => "restoring stored snapshots: " ++ e.message
  | .unflushed sites => s!"{sites} site(s) could not be flushed on shutdown"

/-- How a run goes. -/
inductive Course where
  | help
  | version
  | badArguments
  | badConfig (e : RegistryError)
  | ran (progress : Progress) (failure : Option Failure)
  deriving DecidableEq

/-- What the run leaves to its caller. -/
def Course.status : Course → Nat
  | .help | .version | .ran _ none => 0
  | .badConfig _ | .ran _ (some _) => 1
  | .badArguments                  => 2

/-- What a run has to say whose configuration is refused. -/
def complaint (e : RegistryError) : String := "aoltd: " ++ e.message

/-! ## Running -/

variable {σ : Type}

/-- Runs over a sink: from an empty registry to the last flush. -/
def runOver (sink : Sink σ) (c : Config) (s : σ) : Course × σ :=
  let opened : Progress := { sink := c.sink, backupDir := c.backupDir }
  let (restored, registry) : Except RegistryError (Option RestoreReport) × Registry :=
    if c.restoreOnStart then
      let (report, registry) := Registry.empty.restore sink s
      (report.map some, registry)
    else (.ok none, .empty)
  match restored with
  | .error e => (.ran opened (some (.restoring e)), s)
  | .ok restored =>
      -- Told to stop, the flusher makes its last pass.
      let (last, _, s) := registry.flush sink s
      let progress := { opened with restored, interval := some c.flushInterval }
      (.ran progress (if last.failed = 0 then none else some (.unflushed last.failed)), s)

/-- The configuration of a run. -/
def configure (o : Options) (fs : FileSystem) : Except RegistryError Config := do
  let path := o.config.getD Config.defaultPath
  let c := o.apply (← Config.load fs (.ofText path) path)
  c.check
  return c

/-- Runs with a configuration. -/
def runWith (c : Config) (fs : FileSystem) : Course × FileSystem :=
  match c.sink with
  | .memory => ((runOver MemorySink.sink c .empty).1, fs)
  | .directory => runOver (DirectorySink.sink ⟨.ofText c.backupDir, c.backupDir⟩) c fs

/-- One run of the daemon among some files. -/
def run (args : List String) (fs : FileSystem) : Course × FileSystem :=
  match CommandLine.read args with
  | .help => (.help, fs)
  | .version => (.version, fs)
  | .refused => (.badArguments, fs)
  | .serve o =>
      match configure o fs with
      | .error e => (.badConfig e, fs)
      | .ok c => runWith c fs

end Daemon

end ChassisRegistry
