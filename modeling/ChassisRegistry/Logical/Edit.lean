import ChassisRegistry.Logical.Chassis

/-! # Editing a logical tree

    Changes to the tree by position, without regard for what makes sense.
    They take a tree out of its laid out shape, as a careless hand may do to
    a stored one. -/

namespace ChassisRegistry

/-- A change to a list. -/
inductive ListEdit where
  | truncate (length : Nat)
  | clear
  | reverse
  /-- More copies of the last item. -/
  | repeatLast (times : Nat)
  deriving DecidableEq, Repr

/-- The list with the change made to it. -/
def ListEdit.apply {α : Type} (xs : List α) : ListEdit → List α
  | truncate length => xs.take length
  | clear => []
  | reverse => xs.reverse
  | repeatLast times => xs ++ (List.replicate times xs.getLast?.toList).flatten

namespace Logical

/-- A change to a logical tree; positions count from 0. -/
inductive Edit where
  | site (s : Site)
  | slots (e : ListEdit)
  | ports (slot : Nat) (e : ListEdit)
  | terminals (slot port : Nat) (e : ListEdit)
  | slotNumber (slot number : Nat)
  | portNumber (slot port number : Nat)
  | terminalNumber (slot port terminal number : Nat)
  | serviceTag (slot port terminal : Nat) (tag : Vlan)
  | customerTag (slot port terminal : Nat) (tag : Vlan)

namespace Chassis

/-- Changes the slot at a position. -/
def changeSlot (c : Chassis) (i : Nat) (f : Slot → Slot) : Chassis :=
  { c with slots := c.slots.modify i f }

/-- Changes the port at a position. -/
def changePort (c : Chassis) (i j : Nat) (f : Port → Port) : Chassis :=
  c.changeSlot i fun s => { s with ports := s.ports.modify j f }

/-- Changes the terminal at a position. -/
def changeTerminal (c : Chassis) (i j k : Nat) (f : Terminal → Terminal) : Chassis :=
  c.changePort i j fun p => { p with terminals := p.terminals.modify k f }

/-- The tree with a change made to it. -/
def edit (c : Chassis) : Edit → Chassis
  | .site s => { c with site := s }
  | .slots e => { c with slots := e.apply c.slots }
  | .ports i e => c.changeSlot i fun s => { s with ports := e.apply s.ports }
  | .terminals i j e => c.changePort i j fun p => { p with terminals := e.apply p.terminals }
  | .slotNumber i n => c.changeSlot i fun s => { s with number := n }
  | .portNumber i j n => c.changePort i j fun p => { p with number := n }
  | .terminalNumber i j k n => c.changeTerminal i j k fun t => { t with number := n }
  | .serviceTag i j k v =>
      c.changeTerminal i j k fun t => { t with tags := { t.tags with service := v } }
  | .customerTag i j k v =>
      c.changeTerminal i j k fun t => { t with tags := { t.tags with customer := v } }

end Chassis

end Logical

end ChassisRegistry
