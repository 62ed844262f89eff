import ChassisRegistry.Logical.Binder
import ChassisRegistry.Logical.Check
import ChassisRegistry.Physical.Check

/-! # Chassis records

    All that is known of one site: the logical half that operators see and the
    physical half that is installed. A logical port is bound to a physical
    port when its card is attached; a coordinate then reaches the terminal on
    that physical port.

    Halves read from a snapshot are joined by linking and checking both and
    handing out the logical ports again, in the order of the cards. -/

namespace ChassisRegistry

/-! ## The record -/

/-- The two halves of a chassis. -/
structure Record where
  logical  : Logical.Chassis
  physical : Physical.Chassis
  deriving DecidableEq

/-- The ports of a card. -/
def Physical.Card.devicePorts (c : Physical.Card) : List DevicePort :=
  c.ports.map fun p => ⟨c.number, p.number⟩

/-- The ports of all cards, in the order of attaching. -/
def Physical.Chassis.devicePorts (c : Physical.Chassis) : List DevicePort :=
  c.cards.flatMap Physical.Card.devicePorts

namespace Record

/-- A chassis without cards. -/
def create (site : Site) (endpoint : Endpoint) (rack shelf : UInt32) : Record where
  logical  := .planned site rack shelf
  physical := .bare site endpoint rack shelf

/-- Hands out the logical ports to the physical ones, from the first. -/
def rebound (r : Record) : Except ChassisError Record :=
  match r.logical.unbound.bindEach r.physical.devicePorts with
  | (.error e, _) => .error e
  | (.ok (), logical) => .ok { r with logical }

/-- Joins two halves that were read from outside. -/
def join (logical : Logical.Chassis) (physical : Physical.Chassis) : Except ChassisError Record :=
  if logical.site ≠ physical.site then
    .error (.snapshot (.sites logical.site physical.site))
  else do
    logical.linked.check
    physical.linked.check
    rebound ⟨logical.linked, physical.linked⟩

/-! ## Looking up -/

/-- The site. -/
def site (r : Record) : Site := r.physical.site

/-- The provisioning endpoint. -/
def endpoint (r : Record) : Endpoint := r.physical.endpoint

/-- The physical port behind a logical one. -/
def binding? (r : Record) (c : PortCoordinate) : Option DevicePort :=
  (r.logical.port? c).bind Logical.Port.bound

/-- The physical port behind a logical one, which has to be bound. -/
def binding (r : Record) (c : TerminalCoordinate) : Except ChassisError DevicePort :=
  match r.binding? c.onPort with
  | some here => .ok here
  | none => .error (.unprovisionedPort r.site c.slot c.port)

/-- The terminal behind a coordinate. -/
def terminal (r : Record) (c : TerminalCoordinate) : Except ChassisError Physical.Terminal :=
  match r.binding c with
  | .error e => .error e
  | .ok here =>
      match r.physical.terminal? here c.terminalIndex.val with
      | some t => .ok t
      | none => .error (.internal (.dangling c here))

/-- The card of a number. -/
def card (r : Record) (number : Nat) : Except ChassisError Physical.Card :=
  match if number ≤ Physical.greatestCard then r.physical.card? number else none with
  | some c => .ok c
  | none => .error (.unprovisionedSlot r.site number)

/-! ## Credentials -/

/-- The record with another login. -/
def withCredentials (r : Record) (user password : String) : Record :=
  { r with physical := { r.physical with
      endpoint := { r.physical.endpoint with user, password } } }

end Record

end ChassisRegistry
