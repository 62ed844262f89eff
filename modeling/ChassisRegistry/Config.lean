import ChassisRegistry.SinkKind

/-! # Configuration

    What the daemon has to be told, and what holds when it is told nothing. -/

namespace ChassisRegistry

/-- The configuration of the daemon. -/
structure Config where
  /-- Where the directory sink keeps its files. -/
  backupDir      : String := "backup"
  sink           : SinkKind := .directory
  /-- Seconds from one periodic flush to the next. -/
  flushInterval  : Nat := 60
  /-- Are the stored snapshots taken in at the start? -/
  restoreOnStart : Bool := true
  logLevel       : String := "info"
  deriving DecidableEq, Repr

namespace Config

/-- Where the configuration is looked for. -/
def defaultPath : String := "/etc/aoltd/aoltd.toml"

/-- The levels of logging, the most talkative first. -/
def logLevels : List String := ["trace", "debug", "info", "warn", "error"]

/-- Refuses a configuration with which the daemon cannot run. -/
def check (c : Config) : Except RegistryError Unit :=
  if c.flushInterval = 0 then .error (.config "flush_interval_secs" "must be > 0")
  else if c.sink = .directory ∧ c.backupDir = "" then
    .error (.config "backup_dir" "must not be empty for the directory sink")
  else if Text.lowercase c.logLevel ∉ logLevels then
    .error (.config "log_level" ("must be one of " ++ ", ".intercalate logLevels))
  else .ok ()

/-- A configuration passes exactly when nothing is wrong with its interval, its directory and its
    level. -/
theorem check_eq_ok_iff {c : Config} :
    c.check = .ok () ↔ 0 < c.flushInterval ∧ (c.sink = .directory → c.backupDir ≠ "") ∧
      Text.lowercase c.logLevel ∈ logLevels := by
  unfold check
  split
  · next h => simp [h]
  · split
    · next h => simp [h]
    · split
      · next h => simp [h]
      · next hi hd hl =>
        simp only [not_and, Decidable.not_not] at hd hl
        simpa [hl] using ⟨Nat.pos_of_ne_zero hi, hd⟩

end Config

end ChassisRegistry
