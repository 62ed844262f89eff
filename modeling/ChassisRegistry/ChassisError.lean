import ChassisRegistry.CardDriver
import ChassisRegistry.DataError
import ChassisRegistry.Site
import ChassisRegistry.Vlan

/-! # Errors of a chassis

    Why an operation on a chassis is refused. A refused operation names its
    cause: the state of a port or terminal, a bad argument, the provisioning
    system, a stored snapshot, or a record whose halves do not fit. -/

namespace ChassisRegistry

/-- A physical port: the number of a line card and of a port on it. -/
structure DevicePort where
  card : Nat
  port : Nat
  deriving DecidableEq, Repr

namespace DevicePort

/-- `card 1 port 2`. -/
def text (p : DevicePort) : String := s!"card {p.card} port {p.port}"

end DevicePort

/-! ## Causes -/

/-- Why a snapshot holds no record. Positions count from 1. -/
inductive SnapshotFault where
  | notJson
  | shape (e : DataError)
  /-- A version other than the known one, as compact JSON. -/
  | version (written : String)
  | sites (logical physical : Site)
  | slotCount (count : Nat)
  | slot (position number ports : Nat)
  | port (slot position number terminals : Nat)
  | terminal (slot port position number : Nat)
  | tags (slot port terminal : Nat) (stored planned : TagPair)
  | card (position number : Nat)
  | cardPorts (card ports : Nat) (driver : CardDriver)
  | cardPort (card position number : Nat)
  | cardTerminals (card port terminals : Nat)
  | cardTerminal (card port position number : Nat)
  | other (text : String)
  deriving DecidableEq

namespace SnapshotFault

/-- The wording. -/
def message : SnapshotFault → String
  | notJson => "not a JSON text"
  | shape e => e.message
  | version written => s!"unsupported snapshot version {written}"
  | sites a b => s!"logical site {a} does not match physical site {b}"
  | slotCount n => s!"logical chassis has {n} slots, expected {slotsPerChassis}"
  | slot i n ports => s!"logical slot at position {i} is numbered {n} with {ports} ports"
  | port s i n terminals =>
      s!"logical port at {s}/{i} is numbered {n} with {terminals} terminal slots"
  | terminal s p i n => s!"logical terminal at {s}/{p}/{i} is numbered {n}"
  | tags s p t stored planned =>
      s!"logical terminal {s}/{p}/{t} carries VLANs {stored.service}/{stored.customer}"
        ++ s!", planned {planned.service}/{planned.customer}"
  | card i n => s!"line card at position {i} is numbered {n}"
  | cardPorts c n driver =>
      s!"line card {c} has {n} ports, {driver} driver expects {driver.portCount}"
  | cardPort c i n => s!"line card {c} port at position {i} is numbered {n}"
  | cardTerminals c p n => s!"line card {c} port {p} has {n} terminal slots"
  | cardTerminal c p i n => s!"line card {c} port {p} terminal at position {i} is numbered {n}"
  | other text => text

end SnapshotFault

/-- How a record can fail to fit itself. Indices count from 0. -/
inductive InternalFault where
  | cursorOutside (slotIndex portIndex : Nat)
  | boundTwice (port : Nat) (slot : Option Nat) (existing refused : DevicePort)
  | ordinalOverflow
  | cardElsewhere (prepared committed : Site)
  | ordinalChanged (prepared appended : Nat)
  | dangling (coordinate : TerminalCoordinate) (target : DevicePort)
  | noTerminal (coordinate : TerminalCoordinate)
  | noCard (target : DevicePort)
  | transitionElsewhere (prepared committed : Site)
  | other (text : String)
  deriving DecidableEq

namespace InternalFault

/-- A slot number that may be unknown. -/
def slotText : Option Nat → String
  | some n => s!"Some({n})"
  | none   => "None"

/-- The wording. -/
def message : InternalFault → String
  | cursorOutside slotIndex portIndex => s!"cursor {slotIndex}/{portIndex} outside topology"
  | boundTwice port slot existing refused =>
      s!"logical port {port} on slot {slotText slot} already bound to {existing.text}"
        ++ s!", refusing {refused.text}"
  | ordinalOverflow => "line card ordinal overflow"
  | cardElsewhere prepared committed => s!"line card for {prepared} committed to {committed}"
  | ordinalChanged prepared appended =>
      s!"line card prepared as {prepared} appended as {appended}"
  | dangling coordinate target => s!"logical {coordinate.text} bound to missing {target.text}"
  | noTerminal coordinate => s!"no logical terminal at {coordinate.text}"
  | noCard target => s!"no line card for {target.text}"
  | transitionElsewhere prepared committed =>
      s!"transition for {prepared} committed to {committed}"
  | other text => text

end InternalFault

/-! ## Errors -/

/-- Why an operation is refused. -/
inductive ChassisError where
  /-- No physical port is bound to the logical port. -/
  | unprovisionedPort (site : Site) (slot port : Nat)
  /-- No line card has this number. -/
  | unprovisionedSlot (site : Site) (number : Nat)
  | alreadyActive (site : Site) (coordinate : TerminalCoordinate)
  | alreadyInactive (site : Site) (coordinate : TerminalCoordinate)
  /-- There are fewer unbound logical ports than asked for. -/
  | exhausted (site : Site) (requested remaining : Nat)
  | invalid (field reason : String)
  /-- The provisioning system refused or failed a call. -/
  | external (operation reason : String)
  | snapshot (fault : SnapshotFault)
  | internal (fault : InternalFault)
  deriving DecidableEq

namespace ChassisError

/-- The wording. -/
def message : ChassisError → String
  | unprovisionedPort site slot port =>
      s!"Port {port} on slot {slot} of chassis {site} is not provisioned"
  | unprovisionedSlot site number =>
      s!"Slot {number} in chassis {site} is currently unprovisioned"
  | alreadyActive site c =>
      s!"Attempt to activate terminal {c.terminal} on port {c.port} slot {c.slot} of {site}"
        ++ " but already active"
  | alreadyInactive site c =>
      s!"Attempt to deactivate terminal {c.terminal} on port {c.port} slot {c.slot} of {site}"
        ++ " but not active"
  | exhausted site requested remaining =>
      s!"Chassis {site} is out of logical ports ({requested} requested, {remaining} left)"
  | invalid field reason => s!"Invalid {field}: {reason}"
  | external operation reason => s!"External call {operation} failed: {reason}"
  | snapshot fault => "Snapshot error: " ++ fault.message
  | internal fault => "Internal error: " ++ fault.message

/-- Refused input is an invalid argument. -/
def ofInput (e : InputError) : ChassisError :=
  invalid e.field e.message

/-- Is the error about the present state of a port or terminal, rather than about the input or the
    provisioning system? -/
def isStateConflict : ChassisError → Bool
  | unprovisionedPort .. | unprovisionedSlot .. | alreadyActive .. | alreadyInactive ..
  | exhausted .. => true
  | _ => false

/-- An argument that is blank. -/
def blank (field : String) : ChassisError :=
  invalid field "must not be empty"

end ChassisError

end ChassisRegistry
