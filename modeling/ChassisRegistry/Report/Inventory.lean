import ChassisRegistry.Inventory
import ChassisRegistry.Snapshot.PhysicalForm

/-! # Inventories as JSON -/

namespace ChassisRegistry.Inventory

open Json (Value natural optional)

/-- A terminal. -/
def Terminal.toJson (t : Terminal) : Value :=
  .object [("number", natural t.number), ("active", .boolean t.active),
    ("s_vlan", optional Vlan.stored t.serviceTag), ("c_vlan", optional Vlan.stored t.customerTag),
    ("serial", .text t.serial), ("nas_port_id", .text t.nasPortId),
    ("circuit_id", .text t.circuitId)]

/-- A port. -/
def Port.toJson (p : Port) : Value :=
  .object [("logical_number", natural p.logical), ("physical_number", natural p.physical),
    ("terminals", .sequence (p.terminals.map Terminal.toJson))]

/-- A device. -/
def Device.toJson (d : Device) : Value :=
  .object [("card", natural d.card), ("address", d.address.stored), ("hostname", .text d.hostname),
    ("ports", .sequence (d.ports.map Port.toJson))]

/-- A slot. -/
def Slot.toJson (s : Slot) : Value :=
  .object [("number", natural s.number), ("devices", .sequence (s.devices.map Device.toJson))]

/-- An inventory. -/
def toJson (i : Inventory) : Value :=
  .object [("site", i.site.stored), ("rack", natural i.rack.toNat),
    ("shelf", natural i.shelf.toNat), ("endpoint", i.address.stored),
    ("slots", .sequence (i.slots.map Slot.toJson))]

end ChassisRegistry.Inventory
