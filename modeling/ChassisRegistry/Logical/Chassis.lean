import ChassisRegistry.ChassisError
import ChassisRegistry.Positional

/-! # The logical half of a chassis

    What operators see: 16 slots of 16 ports of 64 terminals, each terminal
    with its planned VLAN tags. The tree is laid out once and keeps its
    shape; what changes is which physical port stands behind a logical one.
    Logical ports are handed out slot by slot, and within a slot port by port.

    The fields of the tree are plain data, so that a tree read from outside,
    of whatever shape, is a value too; `Logical.check` tells whether it is the
    laid out one. -/

namespace ChassisRegistry.Logical

/-! ## The tree -/

/-- A terminal position. -/
structure Terminal where
  number : Nat
  tags   : TagPair
  /-- The port that the position is on. -/
  port   : Option PortCoordinate
  deriving DecidableEq

/-- A port. -/
structure Port where
  number    : Nat
  terminals : List Terminal
  /-- The number of the slot that the port is in. -/
  slot      : Option Nat
  /-- The physical port behind it. -/
  bound     : Option DevicePort
  deriving DecidableEq

/-- A slot. -/
structure Slot where
  number  : Nat
  ports   : List Port
  /-- The site that the slot belongs to. -/
  chassis : Option Site
  deriving DecidableEq

/-- Where the next port to hand out is; indices from 0. -/
structure Cursor where
  slot      : Nat
  port      : Nat
  exhausted : Bool
  deriving DecidableEq, Repr

/-- The logical half. -/
structure Chassis where
  site   : Site
  rack   : UInt32
  shelf  : UInt32
  slots  : List Slot
  cursor : Cursor
  deriving DecidableEq

/-! ## Back-references -/

/-- The port with its slot's number, which its terminals refer to as far as it makes a
    coordinate. -/
def Port.linked (slot : Nat) (p : Port) : Port :=
  let here := (PortCoordinate.ofNumbers slot p.number).toOption
  { p with slot := some slot, terminals := p.terminals.map fun t => { t with port := here } }

/-- The slot with its site. -/
def Slot.linked (site : Site) (s : Slot) : Slot :=
  { s with chassis := some site, ports := s.ports.map (Port.linked s.number) }

/-- The tree with every back-reference naming its parent. -/
def Chassis.linked (c : Chassis) : Chassis :=
  { c with slots := c.slots.map (Slot.linked c.site) }

/-! ## Layout -/

/-- A terminal with its planned tags. -/
def Terminal.planned (c : TerminalCoordinate) : Terminal where
  number := c.terminal
  tags   := TagPair.planned c
  port   := none

/-- A port with its terminals. -/
def Port.planned (c : PortCoordinate) : Port where
  number    := c.port
  terminals := c.terminals.map Terminal.planned
  slot      := none
  bound     := none

/-- A slot with its ports. -/
def Slot.planned (slotIndex : Fin slotsPerChassis) : Slot where
  number  := slotIndex.val + 1
  ports   := (List.finRange portsPerSlot).map fun portIndex => .planned { slotIndex, portIndex }
  chassis := none

/-- The first port. -/
def Cursor.start : Cursor := ⟨0, 0, false⟩

/-- The tree of a site. -/
def Chassis.planned (site : Site) (rack shelf : UInt32) : Chassis :=
  Chassis.linked
    { site, rack, shelf
      slots  := (List.finRange slotsPerChassis).map Slot.planned
      cursor := .start }

/-! ## Looking up -/

namespace Chassis

/-- The port at a position of the tree. -/
def portAt? (c : Chassis) (slotIndex portIndex : Nat) : Option Port :=
  c.slots[slotIndex]?.bind (·.ports[portIndex]?)

/-- The port of a coordinate. -/
def port? (c : Chassis) (here : PortCoordinate) : Option Port :=
  c.portAt? here.slotIndex.val here.portIndex.val

/-- The terminal of a coordinate. -/
def terminal? (c : Chassis) (here : TerminalCoordinate) : Option Terminal :=
  (c.port? here.onPort).bind (·.terminals[here.terminalIndex.val]?)

/-- The ports in the order in which they are handed out. -/
def ports (c : Chassis) : List Port :=
  c.slots.flatMap Slot.ports

end Chassis

end ChassisRegistry.Logical
