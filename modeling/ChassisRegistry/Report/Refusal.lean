import ChassisRegistry.Config.Settings
import ChassisRegistry.Json.Value
import ChassisRegistry.Provisioner
import ChassisRegistry.RegistryError
import ChassisRegistry.Sink.Error

/-! # Refusals as JSON

    Every way in which an operation of this library can fail, under one roof,
    and how a refusal is reported: the kind of the error and its wording. A
    snapshot that is no JSON text is reported without a wording. -/

namespace ChassisRegistry

/-! ## Kinds -/

/-- The kind of refused input. -/
def InputError.kind : InputError → String
  | .blankSite _      => "InvalidSiteId"
  | .outOfRange _ _ _ => "CoordinateOutOfRange"
  | .noVlan _         => "InvalidVlanId"
  | .unknownDriver _  => "UnknownDriver"

/-- The kind of an error of a chassis. -/
def ChassisError.kind : ChassisError → String
  | .unprovisionedPort _ _ _ => "UnprovisionedPort"
  | .unprovisionedSlot _ _   => "UnprovisionedSlot"
  | .alreadyActive _ _       => "AlreadyActive"
  | .alreadyInactive _ _     => "AlreadyDeactivated"
  | .exhausted _ _ _         => "Exhausted"
  | .invalid _ _             => "Validation"
  | .external _ _            => "ExternalCall"
  | .snapshot _              => "Snapshot"
  | .internal _              => "Internal"

/-- The kind of an error of the registry. -/
def RegistryError.kind : RegistryError → String
  | .unknownSite _   => "UnknownSite"
  | .chassis e       => e.kind
  | .persistence _ _ => "Persistence"
  | .config _ _      => "Config"
  | .io _            => "Io"

/-- The kind of a refused call. -/
def ProvisionerError.kind : ProvisionerError → String
  | .loginRejected _ _ => "LoginRejected"
  | .rejected _        => "Rejected"

/-- The kind of a failure of a sink. -/
def SinkError.kind : SinkError → String
  | .io _ _        => "SinkIo"
  | .badKey _      => "InvalidKey"
  | .unavailable _ => "Unavailable"

/-- The kind of a text that makes no configuration. -/
def ConfigError.kind : ConfigError → String
  | .notToml   => "TomlSyntax"
  | .setting _ => "TomlData"

/-! ## Refusals -/

/-- Why an operation is refused. -/
inductive Refusal where
  | input (e : InputError)
  /-- A text that is no socket address. -/
  | address
  | data (e : DataError)
  | chassis (e : ChassisError)
  | registry (e : RegistryError)
  | provisioner (e : ProvisionerError)
  | sink (e : SinkError)
  | config (e : ConfigError)
  /-- A name under which nothing is stored. -/
  | unknownName (what : String)
  /-- A request that lacks an argument or has an unusable one. -/
  | malformed (argument : String)
  deriving DecidableEq

namespace Refusal

/-- The kind. -/
def kind : Refusal → String
  | input e       => e.kind
  | address       => "AddrParse"
  | data _        => "Data"
  | chassis e     => e.kind
  | registry e    => e.kind
  | provisioner e => e.kind
  | sink e        => e.kind
  | config e      => e.kind
  | unknownName _ => "NoSuch"
  | malformed _   => "BadRequest"

/-- The wording, where there is one. -/
def message? : Refusal → Option String
  | input e       => some e.message
  | address       => some DataError.noAddress.message
  | data e        => some e.message
  | chassis e     => if e = .snapshot .notJson then none else some e.message
  | registry e    =>
      if e = .chassis (.snapshot .notJson) then none else some e.message
  | provisioner e => some e.message
  | sink e        => some e.message
  | config .notToml     => none
  | config (.setting e) => some e.message
  | unknownName s => some s
  | malformed s   => some s

/-- The report. -/
def toJson (r : Refusal) : Json.Value :=
  .object (("error", .text r.kind) :: (r.message?.map fun m => ("message", .text m)).toList)

end Refusal

end ChassisRegistry
