import ChassisRegistry.Logical.Edit
import ChassisRegistry.Physical.Chassis

/-! # Editing a physical tree

    Changes to the tree by position, without regard for what makes sense. -/

namespace ChassisRegistry.Physical

/-- A change to a physical tree; positions count from 0. -/
inductive Edit where
  | site (s : Site)
  | cards (e : ListEdit)
  | ports (card : Nat) (e : ListEdit)
  | terminals (card port : Nat) (e : ListEdit)
  | cardNumber (card number : Nat)
  | portNumber (card port number : Nat)
  | terminalNumber (card port terminal number : Nat)
  | driver (card : Nat) (d : CardDriver)

namespace Chassis

/-- Changes the card at a position. -/
def changeCard (c : Chassis) (i : Nat) (f : Card → Card) : Chassis :=
  { c with cards := c.cards.modify i f }

/-- Changes the port at a position. -/
def changePort (c : Chassis) (i j : Nat) (f : Port → Port) : Chassis :=
  c.changeCard i fun card => { card with ports := card.ports.modify j f }

/-- Changes the terminal at a position. -/
def changeTerminal (c : Chassis) (i j k : Nat) (f : Terminal → Terminal) : Chassis :=
  c.changePort i j fun p => { p with terminals := p.terminals.modify k f }

/-- The tree with a change made to it. -/
def edit (c : Chassis) : Edit → Chassis
  | .site s => { c with site := s }
  | .cards e => { c with cards := e.apply c.cards }
  | .ports i e => c.changeCard i fun card => { card with ports := e.apply card.ports }
  | .terminals i j e => c.changePort i j fun p => { p with terminals := e.apply p.terminals }
  | .cardNumber i n => c.changeCard i fun card => { card with number := n }
  | .portNumber i j n => c.changePort i j fun p => { p with number := n }
  | .terminalNumber i j k n => c.changeTerminal i j k fun t => { t with number := n }
  | .driver i d => c.changeCard i fun card => { card with driver := d }

end Chassis

end ChassisRegistry.Physical
