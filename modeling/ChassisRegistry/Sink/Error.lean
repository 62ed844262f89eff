import ChassisRegistry.FileError

/-! # Failures of a sink -/

namespace ChassisRegistry

/-- Why a sink does not store or load. -/
inductive SinkError where
  /-- A file operation for a key failed. -/
  | io (key : String) (cause : FileError)
  /-- The site cannot be the name of a file. -/
  | badKey (key : String)
  | unavailable (why : String)
  deriving DecidableEq, Repr

namespace SinkError

/-- The wording. -/
def message : SinkError → String
  | io key cause    => s!"Snapshot I/O for '{key}' failed: {cause.message}"
  | badKey key      => s!"Site identifier '{key}' cannot be used as a snapshot key"
  | unavailable why => s!"Snapshot sink unavailable: {why}"

end SinkError

end ChassisRegistry
