import ChassisRegistry.Config.Settings
import ChassisRegistry.FileSystem

/-! # The configuration file -/

namespace ChassisRegistry

/-- Reads a configuration file; messages show its path as `shown`. Without the file the defaults
    hold. -/
def Config.load (fs : FileSystem) (path : Path) (shown : String) :
    Except RegistryError Config :=
  match fs.readFile path with
  | .error .missing => .ok {}
  | .error e => .error (.io e)
  | .ok content =>
      match String.fromUTF8? content with
      | none => .error (.io .notText)
      | some s =>
          (Config.ofText s).mapError fun _ => .config shown "failed to parse config file"

end ChassisRegistry
