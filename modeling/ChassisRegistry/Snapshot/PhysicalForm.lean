import ChassisRegistry.Physical.Chassis
import ChassisRegistry.Snapshot.LogicalForm

/-! # The stored form of a physical half

    What a snapshot keeps of the physical tree: everything but the
    back-references. Of a terminal only the number has to be there, of the
    chassis everything but the line cards; what is absent is empty. -/

namespace ChassisRegistry

open Json (Shape Source Value natural optional)

/-! ## Shapes -/

/-- A provisioning endpoint. -/
def Endpoint.shape : Shape :=
  ⟨"ProvisioningEndpoint", ["address", "user", "password"]⟩

/-- A terminal. -/
def Physical.Terminal.shape : Shape :=
  ⟨"PhysicalTerminal", ["number", "active", "serial", "s_vlan", "c_vlan", "nas_port_id",
    "circuit_id", "tech_profile", "speed_profile"]⟩

/-- A port of a line card. -/
def Physical.Port.shape : Shape :=
  ⟨"PonPort", ["number", "terminals"]⟩

/-- A line card. -/
def Physical.Card.shape : Shape :=
  ⟨"LineCard", ["number", "driver", "address", "hostname", "ports"]⟩

/-- The physical half. -/
def Physical.Chassis.shape : Shape :=
  ⟨"PhysicalChassis", ["site", "endpoint", "rack", "shelf", "line_cards"]⟩

/-! ## Writing -/

/-- A socket address, by its text. -/
def SocketAddress.stored (a : SocketAddress) : Value := .text a.text

/-- A driver, by its name. -/
def CardDriver.stored (d : CardDriver) : Value := .text d.name

/-- A provisioning endpoint. -/
def Endpoint.stored (e : Endpoint) : Value :=
  .object [("address", e.address.stored), ("user", .text e.user), ("password", .text e.password)]

/-- A terminal. -/
def Physical.Terminal.stored (t : Physical.Terminal) : Value :=
  .object [("number", natural t.number), ("active", .boolean t.active),
    ("serial", .text t.service.serial),
    ("s_vlan", optional Vlan.stored t.service.serviceTag),
    ("c_vlan", optional Vlan.stored t.service.customerTag),
    ("nas_port_id", .text t.service.nasPortId), ("circuit_id", .text t.service.circuitId),
    ("tech_profile", optional .text t.service.techProfile),
    ("speed_profile", optional .text t.service.speedProfile)]

/-- A port of a line card. -/
def Physical.Port.stored (p : Physical.Port) : Value :=
  .object [("number", natural p.number),
    ("terminals", .sequence (p.terminals.map Physical.Terminal.stored))]

/-- A line card. -/
def Physical.Card.stored (c : Physical.Card) : Value :=
  .object [("number", natural c.number), ("driver", c.driver.stored),
    ("address", c.address.stored), ("hostname", .text c.hostname),
    ("ports", .sequence (c.ports.map Physical.Port.stored))]

/-- The physical half. -/
def Physical.Chassis.stored (c : Physical.Chassis) : Value :=
  .object [("site", c.site.stored), ("endpoint", c.endpoint.stored),
    ("rack", natural c.rack.toNat), ("shelf", natural c.shelf.toNat),
    ("line_cards", .sequence (c.cards.map Physical.Card.stored))]

/-! ## Reading -/

/-- A provisioning endpoint. -/
def Endpoint.ofStored (v : Value) : Except DataError Endpoint := do
  let shape := Endpoint.shape
  let source ← shape.source v
  let address := shape.read source "address" Json.readAddress
  let user := shape.read source "user" Json.readText
  let password := shape.read source "password" Json.readText
  source.settle [("address", Source.fault address), ("user", Source.fault user),
    ("password", Source.fault password)]
  let address ← shape.required source "address" address
  let user ← shape.required source "user" user
  let password ← shape.required source "password" password
  shape.complete source
  return { address, user, password }

/-- A terminal. -/
def Physical.Terminal.ofStored (v : Value) : Except DataError Physical.Terminal := do
  let shape := Physical.Terminal.shape
  let source ← shape.source v
  let number := shape.read source "number" Json.readNat8
  let active := shape.read source "active" Json.readBoolean
  let serial := shape.read source "serial" Json.readText
  let serviceTag := shape.read source "s_vlan" (Json.readOptional Json.readVlan)
  let customerTag := shape.read source "c_vlan" (Json.readOptional Json.readVlan)
  let nasPortId := shape.read source "nas_port_id" Json.readText
  let circuitId := shape.read source "circuit_id" Json.readText
  let techProfile := shape.read source "tech_profile" (Json.readOptional Json.readText)
  let speedProfile := shape.read source "speed_profile" (Json.readOptional Json.readText)
  source.settle [("number", Source.fault number), ("active", Source.fault active),
    ("serial", Source.fault serial), ("s_vlan", Source.fault serviceTag),
    ("c_vlan", Source.fault customerTag), ("nas_port_id", Source.fault nasPortId),
    ("circuit_id", Source.fault circuitId), ("tech_profile", Source.fault techProfile),
    ("speed_profile", Source.fault speedProfile)]
  let number ← shape.required source "number" number
  let active ← Shape.orElse active false
  let serial ← Shape.orElse serial ""
  let serviceTag ← Shape.orElse serviceTag none
  let customerTag ← Shape.orElse customerTag none
  let nasPortId ← Shape.orElse nasPortId ""
  let circuitId ← Shape.orElse circuitId ""
  let techProfile ← Shape.orElse techProfile none
  let speedProfile ← Shape.orElse speedProfile none
  shape.complete source
  let service :=
    { serial, serviceTag, customerTag, nasPortId, circuitId, techProfile, speedProfile }
  return { number, active, service, port := none }

/-- A port of a line card. -/
def Physical.Port.ofStored (v : Value) : Except DataError Physical.Port := do
  let shape := Physical.Port.shape
  let source ← shape.source v
  let number := shape.read source "number" Json.readNat8
  let terminals := shape.read source "terminals" (Json.readSequence Physical.Terminal.ofStored)
  source.settle [("number", Source.fault number), ("terminals", Source.fault terminals)]
  let number ← shape.required source "number" number
  let terminals ← shape.required source "terminals" terminals
  shape.complete source
  return { number, terminals, card := none }

/-- A line card. -/
def Physical.Card.ofStored (v : Value) : Except DataError Physical.Card := do
  let shape := Physical.Card.shape
  let source ← shape.source v
  let number := shape.read source "number" Json.readNat8
  let driver := shape.read source "driver" Json.readDriver
  let address := shape.read source "address" Json.readAddress
  let hostname := shape.read source "hostname" Json.readText
  let ports := shape.read source "ports" (Json.readSequence Physical.Port.ofStored)
  source.settle [("number", Source.fault number), ("driver", Source.fault driver),
    ("address", Source.fault address), ("hostname", Source.fault hostname),
    ("ports", Source.fault ports)]
  let number ← shape.required source "number" number
  let driver ← shape.required source "driver" driver
  let address ← shape.required source "address" address
  let hostname ← shape.required source "hostname" hostname
  let ports ← shape.required source "ports" ports
  shape.complete source
  return { number, driver, address, hostname, ports, chassis := none }

/-- The physical half. -/
def Physical.Chassis.ofStored (v : Value) : Except DataError Physical.Chassis := do
  let shape := Physical.Chassis.shape
  let source ← shape.source v
  let site := shape.read source "site" Json.readSite
  let endpoint := shape.read source "endpoint" Endpoint.ofStored
  let rack := shape.read source "rack" Json.readUInt32
  let shelf := shape.read source "shelf" Json.readUInt32
  let cards := shape.read source "line_cards" (Json.readSequence Physical.Card.ofStored)
  source.settle [("site", Source.fault site), ("endpoint", Source.fault endpoint),
    ("rack", Source.fault rack), ("shelf", Source.fault shelf),
    ("line_cards", Source.fault cards)]
  let site ← shape.required source "site" site
  let endpoint ← shape.required source "endpoint" endpoint
  let rack ← shape.required source "rack" rack
  let shelf ← shape.required source "shelf" shelf
  let cards ← Shape.orElse cards []
  shape.complete source
  return { site, endpoint, rack, shelf, cards }

end ChassisRegistry
