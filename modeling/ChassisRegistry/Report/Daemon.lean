import ChassisRegistry.Daemon
import ChassisRegistry.Report.Refusal

/-! # The daemon as JSON -/

namespace ChassisRegistry

open Json (Value natural optional)

/-- A configuration. -/
def Config.toJson (c : Config) : Value :=
  .object [("backup_dir", .text c.backupDir), ("sink", .text c.sink.name),
    ("flush_interval_secs", natural c.flushInterval),
    ("restore_on_start", .boolean c.restoreOnStart), ("log_level", .text c.logLevel)]

/-- A configuration with what is wrong with it. -/
def Config.appraisal (c : Config) : Value :=
  let verdict : Value := match c.check with
    | .ok () => .text "ok"
    | .error e => (Refusal.registry e).toJson
  .object [("config", c.toJson), ("interval_secs", natural c.flushInterval), ("validate", verdict)]

namespace Daemon

/-- A number as a text. -/
def counted (n : Nat) : Value := .text (toString n)

/-- How far a run came. -/
def Progress.toJson (p : Progress) : Value :=
  .object [("sink", .text p.sink.name), ("backup_dir", .text p.backupDir),
    ("restored", optional (fun r => counted r.restored) p.restored),
    ("skipped", optional (fun r => counted r.skipped) p.restored),
    ("interval", optional (fun n => .text s!"{n}s") p.interval)]

/-- The first line of a text. -/
def firstLine (s : String) : String := String.ofList (s.toList.takeWhile (· != '\n'))

/-- How a run went. -/
def Course.members (c : Course) : List (String × Value) :=
  let ended := [("exit", natural c.status)]
  match c with
  | .help | .badArguments => ended
  | .version => ended ++ [("stdout", .text (Daemon.version ++ "\n"))]
  | .badConfig e => ended ++ [("message", .text (firstLine (complaint e)))]
  | .ran progress failure =>
      ended ++ ("started", progress.toJson) ::
        (failure.map fun f => ("fatal", .text f.message)).toList

end Daemon

end ChassisRegistry
