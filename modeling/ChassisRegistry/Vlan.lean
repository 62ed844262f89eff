import ChassisRegistry.Coordinate

/-! # VLAN tags and their plan

    A VLAN is a number from 1 to 4094, of which 1 is reserved. Every terminal
    position has a planned pair of tags: the service tag tells the slot, the
    port and the half of the port's terminals apart, the customer tag the
    terminal within that half, the slot and the port. The plan never uses the
    reserved VLAN. -/

namespace ChassisRegistry

/-- A VLAN number. -/
structure Vlan where
  number   : Nat
  positive : 1 ≤ number
  bounded  : number ≤ 4094
  deriving DecidableEq

namespace Vlan

/-- Reads a number. -/
def ofNumber (n : Nat) : Except InputError Vlan :=
  if h : 1 ≤ n ∧ n ≤ 4094 then .ok ⟨n, h.1, h.2⟩ else .error (.noVlan n)

theorem ofNumber_number (v : Vlan) : ofNumber v.number = .ok v := by
  simp [ofNumber, v.positive, v.bounded]

@[ext] theorem ext {a b : Vlan} (h : a.number = b.number) : a = b := by
  cases a; cases b; simp_all

/-- The VLAN that no terminal is planned to use. -/
def reserved : Vlan := ⟨1, by decide, by decide⟩

/-- Is it the reserved VLAN? -/
def isReserved (v : Vlan) : Bool := v == reserved

instance : ToString Vlan := ⟨fun v => toString v.number⟩

instance : Repr Vlan := ⟨fun v _ => repr v.number⟩

end Vlan

/-! ## The plan -/

/-- The two tags of a terminal: the provider's and the customer's. -/
structure TagPair where
  service  : Vlan
  customer : Vlan
  deriving DecidableEq, Repr

namespace TagPair

/-- Terminals of a port that share a service tag. -/
def bandWidth : Nat := 32

/-- Between the service tags of two slots. -/
def slotStride : Nat := 16

/-- Between the service tags of the two bands of a port. -/
def bandStride : Nat := 288

/-- Between the customer tags of two terminals of a band. -/
def terminalStride : Nat := 120

/-- Between the customer tags of two slots. -/
def customerSlotStride : Nat := 12

/-- The planned service tag. -/
def serviceNumber (c : TerminalCoordinate) : Nat :=
  c.onPort.slotIndex.val * slotStride + c.port +
    c.terminalIndex.val / bandWidth * bandStride + 1

/-- The planned customer tag. -/
def customerNumber (c : TerminalCoordinate) : Nat :=
  c.terminalIndex.val % bandWidth * terminalStride +
    c.onPort.slotIndex.val * customerSlotStride + c.port + 1

theorem serviceNumber_bounds (c : TerminalCoordinate) :
    2 ≤ serviceNumber c ∧ serviceNumber c ≤ 4094 := by
  have hs := c.onPort.slotIndex.isLt
  have hp := c.onPort.portIndex.isLt
  have ht := c.terminalIndex.isLt
  simp only [serviceNumber, TerminalCoordinate.port, PortCoordinate.port, slotStride, bandWidth,
    bandStride, slotsPerChassis, portsPerSlot, terminalsPerPort] at *
  omega

theorem customerNumber_bounds (c : TerminalCoordinate) :
    2 ≤ customerNumber c ∧ customerNumber c ≤ 4094 := by
  have hs := c.onPort.slotIndex.isLt
  have hp := c.onPort.portIndex.isLt
  simp only [customerNumber, TerminalCoordinate.port, PortCoordinate.port, customerSlotStride,
    bandWidth, terminalStride, slotsPerChassis, portsPerSlot] at *
  omega

/-- The pair that a position is planned to use. -/
def planned (c : TerminalCoordinate) : TagPair where
  service := ⟨serviceNumber c, by have := serviceNumber_bounds c; omega,
    (serviceNumber_bounds c).2⟩
  customer := ⟨customerNumber c, by have := customerNumber_bounds c; omega,
    (customerNumber_bounds c).2⟩

end TagPair

end ChassisRegistry
