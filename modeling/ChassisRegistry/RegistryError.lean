import ChassisRegistry.ChassisError
import ChassisRegistry.FileError

/-! # Errors of the registry -/

namespace ChassisRegistry

/-- Why an operation of the registry or of the daemon fails. -/
inductive RegistryError where
  | unknownSite (site : Site)
  /-- The operation on the chassis is refused. -/
  | chassis (e : ChassisError)
  | persistence (key why : String)
  | config (field why : String)
  | io (cause : FileError)
  deriving DecidableEq

namespace RegistryError

/-- The wording. -/
def message : RegistryError → String
  | unknownSite site    => s!"No chassis found for site {site}"
  | chassis e           => e.message
  | persistence key why => s!"Persistence failed for {key}: {why}"
  | config field why    => s!"Invalid configuration for {field}: {why}"
  | io cause            => s!"I/O error: {cause.message}"

/-- The error of the chassis behind this one, if there is one. -/
def chassis? : RegistryError → Option ChassisError
  | chassis e => some e
  | _ => none

end RegistryError

end ChassisRegistry
