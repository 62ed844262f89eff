import ChassisRegistry.ChassisError
import ChassisRegistry.Endpoint
import ChassisRegistry.Positional

/-! # The physical half of a chassis

    The installed line cards in the order in which they were attached, their
    ports, and the state of the terminals on them. Cards and ports are
    addressed by number and found by position: number `n` is the `n`-th.

    The fields of the tree are plain data, so that a tree read from outside,
    of whatever shape, is a value too; `Physical.check` tells whether its
    numbers and sizes are those of attached cards. -/

namespace ChassisRegistry.Physical

/-! ## The tree -/

/-- What a terminal is provisioned with. -/
structure Service where
  serial       : String
  serviceTag   : Option Vlan
  customerTag  : Option Vlan
  nasPortId    : String
  circuitId    : String
  techProfile  : Option String
  speedProfile : Option String
  deriving DecidableEq

/-- Nothing provisioned. -/
def Service.empty : Service := ⟨"", none, none, "", "", none, none⟩

/-- A terminal on a port. -/
structure Terminal where
  number  : Nat
  active  : Bool
  service : Service
  /-- The port that the terminal is on. -/
  port    : Option DevicePort
  deriving DecidableEq

/-- A port of a line card. -/
structure Port where
  number    : Nat
  terminals : List Terminal
  /-- The number of the card that the port is on. -/
  card      : Option Nat
  deriving DecidableEq

/-- A line card. -/
structure Card where
  number   : Nat
  driver   : CardDriver
  address  : SocketAddress
  hostname : String
  ports    : List Port
  /-- The site that the card belongs to. -/
  chassis  : Option Site
  deriving DecidableEq

/-- The physical half. -/
structure Chassis where
  site     : Site
  endpoint : Endpoint
  rack     : UInt32
  shelf    : UInt32
  cards    : List Card
  deriving DecidableEq

/-! ## Back-references -/

/-- The port with its card's number, which its terminals refer to. -/
def Port.linked (card : Nat) (p : Port) : Port :=
  { p with
    card := some card
    terminals := p.terminals.map fun t => { t with port := some ⟨card, p.number⟩ } }

/-- The card with its site. -/
def Card.linked (site : Site) (c : Card) : Card :=
  { c with chassis := some site, ports := c.ports.map (Port.linked c.number) }

/-- The tree with every back-reference naming its parent. -/
def Chassis.linked (c : Chassis) : Chassis :=
  { c with cards := c.cards.map (Card.linked c.site) }

/-! ## Attaching cards -/

/-- A terminal that was never provisioned. -/
def Terminal.vacant (number : Nat) : Terminal := ⟨number, false, .empty, none⟩

/-- A port of terminals that were never provisioned. -/
def Port.vacant (number : Nat) : Port where
  number    := number
  terminals := (List.range terminalsPerPort).map fun i => .vacant (i + 1)
  card      := none

/-- A card as it comes, not yet in a chassis. -/
def Card.vacant (number : Nat) (driver : CardDriver) (address : SocketAddress)
    (hostname : String) : Card where
  number   := number
  driver   := driver
  address  := address
  hostname := hostname
  ports    := (List.range driver.portCount).map fun i => .vacant (i + 1)
  chassis  := none

/-- The greatest number of a card. -/
def greatestCard : Nat := 255

namespace Chassis

/-- A chassis without cards. -/
def bare (site : Site) (endpoint : Endpoint) (rack shelf : UInt32) : Chassis :=
  { site, endpoint, rack, shelf, cards := [] }

/-- The number of the next card. -/
def nextNumber (c : Chassis) : Except ChassisError Nat :=
  if c.cards.length + 1 ≤ greatestCard then .ok (c.cards.length + 1)
  else .error (.internal .ordinalOverflow)

/-- The card that would be attached next. -/
def nextCard (c : Chassis) (driver : CardDriver) (address : SocketAddress) (hostname : String) :
    Except ChassisError Card := do
  let number ← c.nextNumber
  return (Card.vacant number driver address hostname).linked c.site

/-- The chassis with a card behind the others. -/
def withCard (c : Chassis) (card : Card) : Chassis :=
  { c with cards := c.cards ++ [card] }

/-! ## Looking up -/

/-- The card of a number. -/
def card? (c : Chassis) (number : Nat) : Option Card :=
  numbered? c.cards number

end Chassis

/-- The port of a number. -/
def Card.port? (c : Card) (number : Nat) : Option Port :=
  numbered? c.ports number

namespace Chassis

/-- The terminal at an index of a port. -/
def terminal? (c : Chassis) (here : DevicePort) (index : Nat) : Option Terminal :=
  ((c.card? here.card).bind (·.port? here.port)).bind (·.terminals[index]?)

/-- Changes the terminal at an index of a port, if there is one. The way down is walked by index,
    and every list on it is put back with one item changed. -/
def modifyTerminal (c : Chassis) (here : DevicePort) (index : Nat) (f : Terminal → Terminal) :
    Option Chassis :=
  match here.card, here.port with
  | i + 1, j + 1 => do
      let card ← c.cards[i]?
      let port ← card.ports[j]?
      let terminal ← port.terminals[index]?
      let port := { port with terminals := port.terminals.set index (f terminal) }
      let card := { card with ports := card.ports.set j port }
      return { c with cards := c.cards.set i card }
  | _, _ => none

end Chassis

end ChassisRegistry.Physical
