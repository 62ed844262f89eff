import ChassisRegistry.CardNotice
import ChassisRegistry.Snapshot.PhysicalForm
import ChassisRegistry.Transition

/-! # Notices as JSON

    What is told of a card or a terminal, in the form in which it may be
    passed on. The login of the provisioning system is no part of it; the
    provisioning system itself is given the form with the login. -/

namespace ChassisRegistry

open Json (Value natural optional)

/-- A terminal coordinate, by its numbers. -/
def TerminalCoordinate.toJson (c : TerminalCoordinate) : Value :=
  .object [("slot", natural c.slot), ("port", natural c.port), ("terminal", natural c.terminal)]

/-- A port coordinate, by its numbers. -/
def PortCoordinate.toJson (c : PortCoordinate) : Value :=
  .object [("slot", natural c.slot), ("port", natural c.port)]

/-- A physical port. -/
def DevicePort.toJson (p : DevicePort) : Value :=
  .object [("card", natural p.card), ("port", natural p.port)]

/-- A terminal notice. -/
def TerminalNotice.toJson (n : TerminalNotice) : Value :=
  .object [("site", n.site.stored), ("coord", n.coordinate.toJson),
    ("subscriber_name", .text n.subscriber), ("device", n.device.toJson),
    ("device_address", n.deviceAddress.stored), ("device_hostname", .text n.deviceHostname),
    ("driver", n.driver.stored), ("serial", .text n.serial), ("s_vlan", n.serviceTag.stored),
    ("c_vlan", n.customerTag.stored), ("nas_port_id", .text n.nasPortId),
    ("circuit_id", .text n.circuitId), ("tech_profile", optional .text n.techProfile),
    ("speed_profile", optional .text n.speedProfile)]

/-- A card notice. -/
def CardNotice.toJson (n : CardNotice) : Value :=
  .object [("site", n.site.stored), ("number", natural n.number), ("driver", n.driver.stored),
    ("address", n.address.stored), ("hostname", .text n.hostname),
    ("port_count", natural n.portCount)]

/-! ## With the login -/

/-- A terminal notice with the endpoint. -/
def TerminalNotice.toJsonWithLogin (n : TerminalNotice) : Value :=
  n.toJson.withMember "endpoint" n.endpoint.stored

/-- A card notice with the endpoint. -/
def CardNotice.toJsonWithLogin (n : CardNotice) : Value :=
  n.toJson.withMember "endpoint" n.endpoint.stored

end ChassisRegistry
