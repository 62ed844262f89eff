import ChassisRegistry.Physical.Chassis

/-! # Checking a physical tree

    The cards, the ports of a card and the terminals of a port have to be
    numbered by their positions, a card has to have the ports of its driver,
    and a port 64 terminals. The first difference in reading order is
    reported. -/

namespace ChassisRegistry.Physical

/-- A snapshot fault as an error. -/
def reject (fault : SnapshotFault) : Except ChassisError Unit :=
  .error (.snapshot fault)

/-- Checks the terminal at index `k`. -/
def checkTerminal (card : Card) (port : Port) (k : Nat) (t : Terminal) : Except ChassisError Unit :=
  if t.number ≠ k + 1 then reject (.cardTerminal card.number port.number (k + 1) t.number)
  else .ok ()

/-- Checks the port at index `j`. -/
def checkPort (card : Card) (j : Nat) (p : Port) : Except ChassisError Unit :=
  if p.number ≠ j + 1 then reject (.cardPort card.number (j + 1) p.number)
  else if p.terminals.length ≠ terminalsPerPort then
    reject (.cardTerminals card.number p.number p.terminals.length)
  else checkFrom (checkTerminal card p) 0 p.terminals

/-- Checks the card at index `i`. -/
def checkCard (i : Nat) (c : Card) : Except ChassisError Unit :=
  if c.number ≠ i + 1 then reject (.card (i + 1) c.number)
  else if c.ports.length ≠ c.driver.portCount then
    reject (.cardPorts c.number c.ports.length c.driver)
  else checkFrom (checkPort c) 0 c.ports

/-- Are the numbers and sizes those of attached cards? -/
def Chassis.check (c : Chassis) : Except ChassisError Unit :=
  checkFrom checkCard 0 c.cards

end ChassisRegistry.Physical
