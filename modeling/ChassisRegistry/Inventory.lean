import ChassisRegistry.Record

/-! # Inventories

    What a record offers to a reader: the slots with bound ports, in them the
    line cards behind those ports, and of each port the terminals that carry a
    circuit identifier. Neighbouring ports of one card are listed under it
    together. -/

namespace ChassisRegistry

namespace Inventory

/-- A terminal that carries a circuit identifier. -/
structure Terminal where
  number      : Nat
  active      : Bool
  serviceTag  : Option Vlan
  customerTag : Option Vlan
  serial      : String
  nasPortId   : String
  circuitId   : String
  deriving DecidableEq

/-- A bound port: its numbers on both sides. -/
structure Port where
  logical   : Nat
  physical  : Nat
  terminals : List Terminal
  deriving DecidableEq

/-- A line card, as far as one slot sees it. -/
structure Device where
  card     : Nat
  address  : SocketAddress
  hostname : String
  ports    : List Port
  deriving DecidableEq

/-- A slot with bound ports. -/
structure Slot where
  number  : Nat
  devices : List Device
  deriving DecidableEq

end Inventory

/-- The inventory of a chassis. -/
structure Inventory where
  site    : Site
  rack    : UInt32
  shelf   : UInt32
  address : SocketAddress
  slots   : List Inventory.Slot
  deriving DecidableEq

namespace Inventory

/-! ## Gathering -/

/-- A terminal as the inventory lists it. -/
def Terminal.ofPhysical (t : Physical.Terminal) : Terminal where
  number      := t.number
  active      := t.active
  serviceTag  := t.service.serviceTag
  customerTag := t.service.customerTag
  serial      := t.service.serial
  nasPortId   := t.service.nasPortId
  circuitId   := t.service.circuitId

/-- The terminals of a port that carry a circuit identifier. -/
def listed (p : Physical.Port) : List Terminal :=
  (p.terminals.filter fun t => t.service.circuitId ≠ "").map Terminal.ofPhysical

/-- A bound port with the card behind it. -/
def portOf? (physical : Physical.Chassis) (p : Logical.Port) : Option (Physical.Card × Port) :=
  match p.bound with
  | none => none
  | some here =>
      match physical.card? here.card with
      | none => none
      | some card =>
          match card.port? here.port with
          | none => none
          | some behind => some (card, ⟨p.number, behind.number, listed behind⟩)

/-- Puts a port in front of a list of devices: with the first one if it is on that card. -/
def consPort (entry : Physical.Card × Port) : List Device → List Device
  | [] => [⟨entry.1.number, entry.1.address, entry.1.hostname, [entry.2]⟩]
  | d :: rest =>
      if d.card = entry.1.number then
        ⟨entry.1.number, entry.1.address, entry.1.hostname, entry.2 :: d.ports⟩ :: rest
      else ⟨entry.1.number, entry.1.address, entry.1.hostname, [entry.2]⟩ :: d :: rest

/-- The devices behind the ports of a slot. -/
def devicesOf (physical : Physical.Chassis) (s : Logical.Slot) : List Device :=
  (s.ports.filterMap (portOf? physical)).foldr consPort []

/-- The slots with bound ports. -/
def slotsOf (r : Record) : List Slot :=
  (r.logical.slots.map fun s => ⟨s.number, devicesOf r.physical s⟩).filter fun s => s.devices ≠ []

end Inventory

/-- The inventory of a record. -/
def Record.inventory (r : Record) : Inventory where
  site    := r.site
  rack    := r.logical.rack
  shelf   := r.logical.shelf
  address := r.endpoint.address
  slots   := Inventory.slotsOf r

end ChassisRegistry
