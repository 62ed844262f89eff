import ChassisRegistry.InputError

/-! # Coordinates of a chassis

    A logical chassis has 16 slots of 16 ports of 64 terminals. People count
    them from 1, so a coordinate is read from and shown by its numbers; inside
    it keeps the indices, which start at 0. Coordinates are ordered by slot,
    then port, then terminal. -/

namespace ChassisRegistry

/-- Slots of a chassis. -/
def slotsPerChassis : Nat := 16

/-- Ports of a slot, and of a line card. -/
def portsPerSlot : Nat := 16

/-- Terminals of a port. -/
def terminalsPerPort : Nat := 64

/-- Ports of a chassis. -/
def portCapacity : Nat := slotsPerChassis * portsPerSlot

/-- The greatest number that a coordinate can be asked for. -/
def greatestNumber : Nat := 4294967295

/-- A number counted from 1, as the index counted from 0. -/
def indexOf (axis : Axis) (limit value : Nat) : Except InputError (Fin limit) :=
  if h : 1 ≤ value ∧ value ≤ limit then .ok ⟨value - 1, by omega⟩
  else .error (.outOfRange axis value limit)

/-- The number of an index, as far as numbers go. -/
def numberOf (index : Nat) : Nat :=
  min (index + 1) greatestNumber

/-! ## Ports -/

/-- A port of a chassis. -/
structure PortCoordinate where
  slotIndex : Fin slotsPerChassis
  portIndex : Fin portsPerSlot
  deriving DecidableEq, Repr

namespace PortCoordinate

/-- The number of the slot, from 1. -/
def slot (c : PortCoordinate) : Nat := c.slotIndex.val + 1

/-- The number of the port in its slot, from 1. -/
def port (c : PortCoordinate) : Nat := c.portIndex.val + 1

/-- Reads the numbers; the slot is looked at first. -/
def ofNumbers (slot port : Nat) : Except InputError PortCoordinate := do
  let slotIndex ← indexOf .slot slotsPerChassis slot
  let portIndex ← indexOf .port portsPerSlot port
  return { slotIndex, portIndex }

/-- Reads the indices. -/
def ofIndices (slotIndex portIndex : Nat) : Except InputError PortCoordinate :=
  ofNumbers (numberOf slotIndex) (numberOf portIndex)

/-- `slot/port`. -/
def text (c : PortCoordinate) : String :=
  s!"{c.slot}/{c.port}"

instance : Ord PortCoordinate :=
  ⟨fun a b => (compare a.slotIndex b.slotIndex).then (compare a.portIndex b.portIndex)⟩

end PortCoordinate

/-! ## Terminals -/

/-- A terminal position of a chassis. -/
structure TerminalCoordinate where
  onPort        : PortCoordinate
  terminalIndex : Fin terminalsPerPort
  deriving DecidableEq, Repr

namespace TerminalCoordinate

/-- The number of the slot, from 1. -/
def slot (c : TerminalCoordinate) : Nat := c.onPort.slot

/-- The number of the port in its slot, from 1. -/
def port (c : TerminalCoordinate) : Nat := c.onPort.port

/-- The number of the terminal on its port, from 1. -/
def terminal (c : TerminalCoordinate) : Nat := c.terminalIndex.val + 1

/-- Reads the numbers; the slot is looked at first, then the port. -/
def ofNumbers (slot port terminal : Nat) : Except InputError TerminalCoordinate := do
  let onPort ← PortCoordinate.ofNumbers slot port
  let terminalIndex ← indexOf .terminal terminalsPerPort terminal
  return { onPort, terminalIndex }

/-- Reads the indices. -/
def ofIndices (slotIndex portIndex terminalIndex : Nat) : Except InputError TerminalCoordinate :=
  ofNumbers (numberOf slotIndex) (numberOf portIndex) (numberOf terminalIndex)

/-- `slot/port/terminal`. -/
def text (c : TerminalCoordinate) : String :=
  s!"{c.onPort.text}/{c.terminal}"

instance : Ord TerminalCoordinate :=
  ⟨fun a b => (compare a.onPort b.onPort).then (compare a.terminalIndex b.terminalIndex)⟩

end TerminalCoordinate

/-! ## Every coordinate -/

/-- The port coordinates of a chassis, slot by slot. -/
def PortCoordinate.all : List PortCoordinate :=
  (List.finRange slotsPerChassis).flatMap fun slotIndex =>
    (List.finRange portsPerSlot).map fun portIndex => { slotIndex, portIndex }

/-- The terminals of a port. -/
def PortCoordinate.terminals (c : PortCoordinate) : List TerminalCoordinate :=
  (List.finRange terminalsPerPort).map fun terminalIndex => { onPort := c, terminalIndex }

end ChassisRegistry
