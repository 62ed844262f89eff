import ChassisRegistry.Report.Notices
import ChassisRegistry.Snapshot.PhysicalForm

/-! # Chassis as JSON

    Reports on a chassis and its parts. Unlike the stored forms they show the
    back-references and bindings, and of the terminals on a card only those
    that were ever provisioned. -/

namespace ChassisRegistry

open Json (Value natural optional)

/-! ## The logical half -/

namespace Logical

/-- A terminal position. -/
def Terminal.toJson (t : Terminal) : Value :=
  .object [("number", natural t.number), ("s_vlan", t.tags.service.stored),
    ("c_vlan", t.tags.customer.stored), ("port", optional PortCoordinate.toJson t.port)]

/-- A port. -/
def Port.toJson (p : Port) : Value :=
  .object [("number", natural p.number), ("slot", optional natural p.slot),
    ("bound", .boolean p.bound.isSome), ("physical", optional DevicePort.toJson p.bound),
    ("terminals", natural p.terminals.length)]

/-- A slot. -/
def Slot.toJson (s : Slot) : Value :=
  .object [("number", natural s.number), ("chassis", optional Site.stored s.chassis),
    ("ports", natural s.ports.length)]

/-- How many ports are bound. -/
def Chassis.boundPorts (c : Chassis) : Nat :=
  (c.ports.filter fun p => p.bound.isSome).length

end Logical

/-! ## The physical half -/

namespace Physical

/-- A terminal with the port that it is on. -/
def Terminal.toJson (t : Terminal) : Value :=
  t.stored.withMember "port_ref" (optional (fun p => .text p.text) t.port)

/-- Was the terminal never provisioned? -/
def Terminal.isVacant (t : Terminal) : Bool :=
  !t.active && t.service == .empty

/-- A port. -/
def Port.toJson (p : Port) : Value :=
  .object [("number", natural p.number), ("card", optional natural p.card),
    ("terminals", natural p.terminals.length)]

/-- A card. -/
def Card.toJson (c : Card) : Value :=
  .object [("number", natural c.number), ("driver", c.driver.stored),
    ("address", c.address.stored), ("hostname", .text c.hostname),
    ("chassis", optional Site.stored c.chassis), ("ports", natural c.ports.length),
    ("terminals", .sequence
      (((c.ports.flatMap Port.terminals).filter fun t => !t.isVacant).map Terminal.toJson))]

end Physical

/-! ## Both halves -/

/-- A record. -/
def Record.toJson (r : Record) : Value :=
  .object [("site", r.site.stored), ("endpoint", r.endpoint.stored),
    ("logical", .sequence [natural r.logical.rack.toNat, natural r.logical.shelf.toNat]),
    ("physical", .sequence [natural r.physical.rack.toNat, natural r.physical.shelf.toNat]),
    ("remaining", natural r.logical.remaining), ("bound", natural r.logical.boundPorts),
    ("cards", .sequence (r.physical.cards.map Physical.Card.toJson))]

/-- A prepared transition. -/
def Transition.toJson (t : Transition) : Value :=
  .object [("action", .text t.action.name), ("json", .text t.action.name),
    ("coord", .text t.coordinate.text),
    ("notice", optional TerminalNotice.toJsonWithLogin t.notice)]

end ChassisRegistry
