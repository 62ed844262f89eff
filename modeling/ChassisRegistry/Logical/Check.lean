import ChassisRegistry.Logical.Chassis

/-! # Checking a logical tree

    A tree read from outside has to be the laid out one: as many slots, ports
    and terminals, numbered by their positions, with the planned tags. The
    first difference in reading order is reported. -/

namespace ChassisRegistry.Logical

/-- A snapshot fault as an error. -/
def reject (fault : SnapshotFault) : Except ChassisError Unit :=
  .error (.snapshot fault)

/-- Checks the terminal at index `k` of port `j` of slot `i`. -/
def checkTerminal (slot : Slot) (port : Port) (i j k : Nat) (t : Terminal) :
    Except ChassisError Unit :=
  if t.number ≠ k + 1 then reject (.terminal slot.number port.number (k + 1) t.number)
  else
    match TerminalCoordinate.ofIndices i j k with
    | .error e => .error (.ofInput e)
    | .ok c =>
        if t.tags ≠ TagPair.planned c then
          reject (.tags slot.number port.number t.number t.tags (TagPair.planned c))
        else .ok ()

/-- Checks the port at index `j` of slot `i`. -/
def checkPort (slot : Slot) (i j : Nat) (p : Port) : Except ChassisError Unit :=
  if p.number ≠ j + 1 ∨ p.terminals.length ≠ terminalsPerPort then
    reject (.port slot.number (j + 1) p.number p.terminals.length)
  else checkFrom (checkTerminal slot p i j) 0 p.terminals

/-- Checks the slot at index `i`. -/
def checkSlot (i : Nat) (s : Slot) : Except ChassisError Unit :=
  if s.number ≠ i + 1 ∨ s.ports.length ≠ portsPerSlot then
    reject (.slot (i + 1) s.number s.ports.length)
  else checkFrom (checkPort s i) 0 s.ports

/-- Is it the laid out tree? -/
def Chassis.check (c : Chassis) : Except ChassisError Unit :=
  if c.slots.length ≠ slotsPerChassis then reject (.slotCount c.slots.length)
  else checkFrom checkSlot 0 c.slots

end ChassisRegistry.Logical
