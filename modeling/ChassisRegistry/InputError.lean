import ChassisRegistry.Text.Quoted

/-! # Refused input

    Why a value from outside is none of the domain's: no site identifier, no
    coordinate, no VLAN number, no line card driver. -/

namespace ChassisRegistry

/-- What a coordinate counts. -/
inductive Axis where
  | slot
  | port
  | terminal
  deriving DecidableEq, Repr

namespace Axis

/-- The axis as messages name it. -/
def name : Axis → String
  | slot     => "slot"
  | port     => "port"
  | terminal => "terminal"

end Axis

/-- Why a value is refused. -/
inductive InputError where
  /-- An identifier of a site with nothing but blanks in it. -/
  | blankSite (given : String)
  /-- A number that its axis does not have; numbers run from 1 to `limit`. -/
  | outOfRange (axis : Axis) (value limit : Nat)
  /-- A number that is none of a VLAN. -/
  | noVlan (value : Nat)
  /-- A name that no driver has. -/
  | unknownDriver (given : String)
  deriving DecidableEq, Repr

namespace InputError

/-- The wording of a refusal. -/
def message : InputError → String
  | blankSite given => "invalid site identifier: " ++ Text.quoted given
  | outOfRange axis value limit =>
      s!"{axis.name} {value} out of range (must be 1-{limit})"
  | noVlan value => s!"invalid VLAN ID: {value} (must be 1-4094)"
  | unknownDriver given => "unknown line card driver: " ++ given

/-- The name of the argument that was refused. -/
def field : InputError → String
  | blankSite _         => "site"
  | outOfRange axis _ _ => axis.name
  | noVlan _            => "vlan"
  | unknownDriver _     => "driver"

end InputError

end ChassisRegistry
