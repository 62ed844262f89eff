import ChassisRegistry.Logical.Chassis

/-! # Handing out logical ports

    The cursor walks the 256 positions once. Each call takes the position
    under the cursor, whether or not the tree has a port there, and moves on;
    after the last one every call is refused. A port is bound at most once. -/

namespace ChassisRegistry.Logical

/-! ## The cursor -/

namespace Cursor

/-- The position after this one. -/
def next (c : Cursor) : Cursor :=
  if c.port + 1 = portsPerSlot then
    ⟨c.slot + 1, 0, c.exhausted || c.slot + 1 == slotsPerChassis⟩
  else { c with port := c.port + 1 }

/-- How many positions have been handed out. -/
def taken (c : Cursor) : Nat :=
  if c.exhausted then portCapacity else c.slot * portsPerSlot + c.port

end Cursor

/-! ## Binding -/

/-- The port with a physical port behind it. -/
def Port.bind (p : Port) (target : DevicePort) : Except ChassisError Port :=
  match p.bound with
  | some existing => .error (.internal (.boundTwice p.number p.slot existing target))
  | none => .ok { p with bound := some target }

namespace Chassis

/-- How many positions have not been handed out. -/
def remaining (c : Chassis) : Nat :=
  portCapacity - c.cursor.taken

/-- Changes the port at a position. -/
def modifyPort (c : Chassis) (slotIndex portIndex : Nat) (f : Port → Port) : Chassis :=
  { c with
    slots := c.slots.modify slotIndex fun s => { s with ports := s.ports.modify portIndex f } }

/-- The next port. Only the cursor changes, and it changes also when the tree has no port there. -/
def takeNext (c : Chassis) : Except ChassisError Port × Chassis :=
  if c.cursor.exhausted then (.error (.exhausted c.site 1 0), c)
  else
    let moved := { c with cursor := c.cursor.next }
    match c.portAt? c.cursor.slot c.cursor.port with
    | some p => (.ok p, moved)
    | none => (.error (.internal (.cursorOutside c.cursor.slot c.cursor.port)), moved)

/-- Binds the port at a position; where there is no port, there is nothing to bind. -/
def bindAt (c : Chassis) (slotIndex portIndex : Nat) (target : DevicePort) :
    Except ChassisError Chassis :=
  match c.portAt? slotIndex portIndex with
  | none => .ok c
  | some p =>
      match p.bind target with
      | .error e => .error e
      | .ok bound => .ok (c.modifyPort slotIndex portIndex fun _ => bound)

/-- Takes the next port and binds it. -/
def bindNext (c : Chassis) (target : DevicePort) : Except ChassisError Port × Chassis :=
  match c.takeNext with
  | (.error e, moved) => (.error e, moved)
  | (.ok p, moved) =>
      match moved.bindAt c.cursor.slot c.cursor.port target with
      | .error e => (.error e, moved)
      | .ok bound => (.ok p, bound)

/-- Binds the next ports to these, one each, up to the first failure. -/
def bindEach (c : Chassis) : List DevicePort → Except ChassisError Unit × Chassis
  | [] => (.ok (), c)
  | target :: rest =>
      match c.bindNext target with
      | (.error e, moved) => (.error e, moved)
      | (.ok _, bound) => bound.bindEach rest

/-- No port bound, and none handed out. -/
def unbound (c : Chassis) : Chassis :=
  { c with
    cursor := .start
    slots  := c.slots.map fun s =>
      { s with ports := s.ports.map fun p => { p with bound := none } } }

end Chassis

end ChassisRegistry.Logical
