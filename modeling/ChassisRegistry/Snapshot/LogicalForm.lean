import ChassisRegistry.Json.Shape
import ChassisRegistry.Logical.Chassis

/-! # The stored form of a logical half

    What a snapshot keeps of the logical tree: numbers and tags. Bindings, the
    cursor and the back-references are not stored; a tree that was read has
    none of them. -/

namespace ChassisRegistry

open Json (Shape Source Value natural)

/-! ## Shapes -/

/-- A terminal position. -/
def Logical.Terminal.shape : Shape :=
  ⟨"LogicalTerminal", ["number", "s_vlan", "c_vlan"]⟩

/-- A port. -/
def Logical.Port.shape : Shape :=
  ⟨"LogicalPort", ["number", "terminals"]⟩

/-- A slot. -/
def Logical.Slot.shape : Shape :=
  ⟨"LogicalSlot", ["number", "ports"]⟩

/-- The logical half. -/
def Logical.Chassis.shape : Shape :=
  ⟨"LogicalChassis", ["site", "rack", "shelf", "slots"]⟩

/-! ## Writing -/

/-- A VLAN, by its number. -/
def Vlan.stored (v : Vlan) : Value := natural v.number

/-- A site, by its text. -/
def Site.stored (s : Site) : Value := .text s.text

/-- A terminal position. -/
def Logical.Terminal.stored (t : Logical.Terminal) : Value :=
  .object [("number", natural t.number), ("s_vlan", t.tags.service.stored),
    ("c_vlan", t.tags.customer.stored)]

/-- A port. -/
def Logical.Port.stored (p : Logical.Port) : Value :=
  .object [("number", natural p.number),
    ("terminals", .sequence (p.terminals.map Logical.Terminal.stored))]

/-- A slot. -/
def Logical.Slot.stored (s : Logical.Slot) : Value :=
  .object [("number", natural s.number), ("ports", .sequence (s.ports.map Logical.Port.stored))]

/-- The logical half. -/
def Logical.Chassis.stored (c : Logical.Chassis) : Value :=
  .object [("site", c.site.stored), ("rack", natural c.rack.toNat),
    ("shelf", natural c.shelf.toNat), ("slots", .sequence (c.slots.map Logical.Slot.stored))]

/-! ## Reading -/

/-- A terminal position. -/
def Logical.Terminal.ofStored (v : Value) : Except DataError Logical.Terminal := do
  let shape := Logical.Terminal.shape
  let source ← shape.source v
  let number := shape.read source "number" Json.readNat8
  let service := shape.read source "s_vlan" Json.readVlan
  let customer := shape.read source "c_vlan" Json.readVlan
  source.settle [("number", Source.fault number), ("s_vlan", Source.fault service),
    ("c_vlan", Source.fault customer)]
  let number ← shape.required source "number" number
  let service ← shape.required source "s_vlan" service
  let customer ← shape.required source "c_vlan" customer
  shape.complete source
  return { number, tags := { service, customer }, port := none }

/-- A port. -/
def Logical.Port.ofStored (v : Value) : Except DataError Logical.Port := do
  let shape := Logical.Port.shape
  let source ← shape.source v
  let number := shape.read source "number" Json.readNat8
  let terminals := shape.read source "terminals" (Json.readSequence Logical.Terminal.ofStored)
  source.settle [("number", Source.fault number), ("terminals", Source.fault terminals)]
  let number ← shape.required source "number" number
  let terminals ← shape.required source "terminals" terminals
  shape.complete source
  return { number, terminals, slot := none, bound := none }

/-- A slot. -/
def Logical.Slot.ofStored (v : Value) : Except DataError Logical.Slot := do
  let shape := Logical.Slot.shape
  let source ← shape.source v
  let number := shape.read source "number" Json.readNat8
  let ports := shape.read source "ports" (Json.readSequence Logical.Port.ofStored)
  source.settle [("number", Source.fault number), ("ports", Source.fault ports)]
  let number ← shape.required source "number" number
  let ports ← shape.required source "ports" ports
  shape.complete source
  return { number, ports, chassis := none }

/-- The logical half. -/
def Logical.Chassis.ofStored (v : Value) : Except DataError Logical.Chassis := do
  let shape := Logical.Chassis.shape
  let source ← shape.source v
  let site := shape.read source "site" Json.readSite
  let rack := shape.read source "rack" Json.readUInt32
  let shelf := shape.read source "shelf" Json.readUInt32
  let slots := shape.read source "slots" (Json.readSequence Logical.Slot.ofStored)
  source.settle [("site", Source.fault site), ("rack", Source.fault rack),
    ("shelf", Source.fault shelf), ("slots", Source.fault slots)]
  let site ← shape.required source "site" site
  let rack ← shape.required source "rack" rack
  let shelf ← shape.required source "shelf" shelf
  let slots ← shape.required source "slots" slots
  shape.complete source
  return { site, rack, shelf, slots, cursor := .start }

end ChassisRegistry
