import ChassisRegistry.Proofs.Coordinates

/-! # Coordinates in machine words

    A machine keeps the numbers of a coordinate in a byte each. It is given
    indices in words of 64 bits, and counts from 1 in 32. So on its way an
    index goes up by 1, stops at the greatest number, loses all but its last
    byte, and is got back by taking 1 away; additions and subtractions wrap
    around and casts drop bits. None of that ever shows: up to the last index
    that has a number in its word, the machine makes the coordinates that the
    library makes, refuses what it refuses, and orders them alike.

    Main statement: `TerminalCoordinate.correspond`. -/

namespace ChassisRegistry

/-! ## Section 1: What a machine keeps -/

namespace Packed

/-- The greatest word of 64 bits. -/
def greatestWord : Nat := 18446744073709551615

/-- A port coordinate: its numbers in a byte each. -/
structure Port where
  slot : UInt8
  port : UInt8

/-- A terminal coordinate. -/
structure Terminal where
  onPort   : Port
  terminal : UInt8

instance : Ord Port :=
  ⟨fun a b => (compare a.slot b.slot).then (compare a.port b.port)⟩

instance : Ord Terminal :=
  ⟨fun a b => (compare a.onPort b.onPort).then (compare a.terminal b.terminal)⟩

/-- The number of an index. The index goes up by 1, wrapping around at the end of the word; if 32
    bits do not hold the outcome, the greatest number stands for it. -/
def numberOf (index : UInt64) : UInt32 :=
  if index + 1 ≤ 4294967295 then (index + 1).toUInt32 else 4294967295

/-- A number that its axis has is cut down to its last byte. -/
def narrow (axis : Axis) (limit : Nat) (value : UInt32) : Except InputError UInt8 :=
  if 1 ≤ value ∧ value.toNat ≤ limit then .ok value.toUInt8
  else .error (.outOfRange axis value.toNat limit)

/-- The index of a number, wrapping around at 0. -/
def indexOf (number : UInt8) : UInt64 := number.toUInt64 - 1

/-- Reads the numbers of a port. -/
def Port.ofNumbers (slot port : UInt32) : Except InputError Port := do
  let slot ← narrow .slot slotsPerChassis slot
  let port ← narrow .port portsPerSlot port
  return { slot, port }

/-- Reads the indices of a port. -/
def Port.ofIndices (s p : UInt64) : Except InputError Port :=
  ofNumbers (numberOf s) (numberOf p)

/-- Reads the numbers of a terminal. -/
def Terminal.ofNumbers (slot port terminal : UInt32) : Except InputError Terminal := do
  let onPort ← Port.ofNumbers slot port
  let terminal ← narrow .terminal terminalsPerPort terminal
  return { onPort, terminal }

/-- Reads the indices of a terminal. -/
def Terminal.ofIndices (s p t : UInt64) : Except InputError Terminal :=
  ofNumbers (numberOf s) (numberOf p) (numberOf t)

/-- The byte that is kept for an index. -/
def byteOf {limit : Nat} (i : Fin limit) : UInt8 := UInt8.ofNat (i.val + 1)

end Packed

/-- What a machine keeps of a port coordinate. -/
def PortCoordinate.packed (c : PortCoordinate) : Packed.Port :=
  ⟨Packed.byteOf c.slotIndex, Packed.byteOf c.portIndex⟩

/-- What a machine keeps of a terminal coordinate. -/
def TerminalCoordinate.packed (c : TerminalCoordinate) : Packed.Terminal :=
  ⟨c.onPort.packed, Packed.byteOf c.terminalIndex⟩

namespace Packed

/-! ## Section 2: There and back -/

variable {limit : Nat}

/-- Below the greatest word a machine comes to the number of the library. -/
theorem toNat_numberOf {index : Nat} (h : index < greatestWord) :
    (numberOf (.ofNat index)).toNat = ChassisRegistry.numberOf index := by
  unfold greatestWord at h
  have hindex : (UInt64.ofNat index).toNat = index :=
    UInt64.toNat_ofNat_of_lt' (show index < 18446744073709551616 by omega)
  -- The sum fits into the word, so it is the number of the index.
  have hsum : (UInt64.ofNat index + 1).toNat = index + 1 := by
    rw [UInt64.toNat_add, hindex]
    exact Nat.mod_eq_of_lt (show index + 1 < 18446744073709551616 by omega)
  have hfits : UInt64.ofNat index + 1 ≤ 4294967295 ↔ index + 1 ≤ 4294967295 := by
    rw [UInt64.le_iff_toNat_le, hsum]
    rfl
  unfold numberOf ChassisRegistry.numberOf greatestNumber
  by_cases hle : index + 1 ≤ 4294967295
  · rw [if_pos (hfits.mpr hle), UInt64.toNat_toUInt32, hsum, Nat.min_eq_left hle]
    exact Nat.mod_eq_of_lt (show index + 1 < 4294967296 by omega)
  · rw [if_neg (mt hfits.mp hle), Nat.min_eq_right (Nat.le_of_not_le hle)]
    rfl

theorem toNat_byteOf (hlimit : limit < 256) (i : Fin limit) : (byteOf i).toNat = i.val + 1 := by
  have hi := i.isLt
  exact UInt8.toNat_ofNat_of_lt' (show i.val + 1 < 256 by omega)

/-- Cutting down loses nothing of a number that its axis has. -/
theorem narrow_eq (axis : Axis) (hlimit : limit < 256) (value : UInt32) :
    narrow axis limit value = (ChassisRegistry.indexOf axis limit value.toNat).map byteOf := by
  have hone : 1 ≤ value ↔ 1 ≤ value.toNat := UInt32.le_iff_toNat_le
  unfold narrow ChassisRegistry.indexOf
  by_cases h : 1 ≤ value.toNat ∧ value.toNat ≤ limit
  · rw [if_pos ⟨hone.mpr h.1, h.2⟩, dif_pos h]
    apply congrArg Except.ok
    apply UInt8.toNat_inj.mp
    rw [UInt32.toNat_toUInt8, toNat_byteOf hlimit, Nat.mod_eq_of_lt (by omega)]
    dsimp only
    omega
  · rw [if_neg fun hvalue => h ⟨hone.mp hvalue.1, hvalue.2⟩, dif_neg h]
    rfl

/-- A byte is the number of an index, which is got back by taking 1 away. -/
structure Counts (number : UInt8) (index : Nat) : Prop where
  exact : number.toNat = index + 1
  /-- There is 1 to be taken away. -/
  least : 1 ≤ number
  back  : (indexOf number).toNat = index

theorem counts_byteOf (hlimit : limit < 256) (i : Fin limit) : Counts (byteOf i) i.val := by
  have hbyte := toNat_byteOf hlimit i
  have hword : (1 : UInt64) ≤ (byteOf i).toUInt64 := by
    rw [UInt64.le_iff_toNat_le, UInt8.toNat_toUInt64, hbyte]
    exact Nat.le_add_left 1 i.val
  refine ⟨hbyte, ?_, ?_⟩
  · rw [UInt8.le_iff_toNat_le, hbyte]
    exact Nat.le_add_left 1 i.val
  · rw [indexOf, UInt64.toNat_sub_of_le _ _ hword, UInt8.toNat_toUInt64, hbyte]
    rfl

/-! ## Section 3: The same coordinates -/

theorem Port.ofNumbers_eq (slot port : UInt32) :
    Port.ofNumbers slot port =
      (PortCoordinate.ofNumbers slot.toNat port.toNat).map PortCoordinate.packed := by
  rw [Port.ofNumbers, narrow_eq _ (by decide), narrow_eq _ (by decide), PortCoordinate.ofNumbers]
  cases ChassisRegistry.indexOf .slot slotsPerChassis slot.toNat with
  | error e => rfl
  | ok i => cases ChassisRegistry.indexOf .port portsPerSlot port.toNat <;> rfl

/-- Of any numbers a machine makes what the library makes of them. -/
theorem Terminal.ofNumbers_eq (slot port terminal : UInt32) :
    Terminal.ofNumbers slot port terminal =
      (TerminalCoordinate.ofNumbers slot.toNat port.toNat terminal.toNat).map
        TerminalCoordinate.packed := by
  rw [Terminal.ofNumbers, Port.ofNumbers_eq, narrow_eq _ (by decide), TerminalCoordinate.ofNumbers]
  cases PortCoordinate.ofNumbers slot.toNat port.toNat with
  | error e => rfl
  | ok onPort =>
    cases ChassisRegistry.indexOf .terminal terminalsPerPort terminal.toNat <;> rfl

variable {s p t : Nat}

theorem Port.ofIndices_eq (hs : s < greatestWord) (hp : p < greatestWord) :
    Port.ofIndices (.ofNat s) (.ofNat p) =
      (PortCoordinate.ofIndices s p).map PortCoordinate.packed := by
  rw [Port.ofIndices, Port.ofNumbers_eq, toNat_numberOf hs, toNat_numberOf hp,
    PortCoordinate.ofIndices]

theorem Terminal.ofIndices_eq (hs : s < greatestWord) (hp : p < greatestWord)
    (ht : t < greatestWord) :
    Terminal.ofIndices (.ofNat s) (.ofNat p) (.ofNat t) =
      (TerminalCoordinate.ofIndices s p t).map TerminalCoordinate.packed := by
  rw [Terminal.ofIndices, Terminal.ofNumbers_eq, toNat_numberOf hs, toNat_numberOf hp,
    toNat_numberOf ht, TerminalCoordinate.ofIndices]

/-! ## Section 4: The same order -/

theorem compare_toNat (a b : UInt8) : compare a b = compare a.toNat b.toNat := by
  show compareOfLessAndEq a b = compareOfLessAndEq a.toNat b.toNat
  simp only [compareOfLessAndEq, UInt8.lt_iff_toNat_lt, UInt8.toNat_inj]

/-- Bytes are ordered as the indices are that they are kept for. -/
theorem compare_byteOf (hlimit : limit < 256) (i j : Fin limit) :
    compare (byteOf i) (byteOf j) = compare i j := by
  have hindices : compare i j = compare i.val j.val := rfl
  rw [compare_toNat, toNat_byteOf hlimit, toNat_byteOf hlimit, hindices]
  exact compare_congr Nat.succ_lt_succ_iff Nat.succ_lt_succ_iff

theorem compare_port (a b : PortCoordinate) : compare a.packed b.packed = compare a b := by
  have hpacked : compare a.packed b.packed =
      (compare (byteOf a.slotIndex) (byteOf b.slotIndex)).then
        (compare (byteOf a.portIndex) (byteOf b.portIndex)) := rfl
  rw [hpacked, compare_byteOf (by decide), compare_byteOf (by decide)]
  rfl

theorem compare_terminal (a b : TerminalCoordinate) :
    compare a.packed b.packed = compare a b := by
  have hpacked : compare a.packed b.packed =
      (compare a.onPort.packed b.onPort.packed).then
        (compare (byteOf a.terminalIndex) (byteOf b.terminalIndex)) := rfl
  rw [hpacked, compare_port, compare_byteOf (by decide)]
  rfl

end Packed

/-! ## Section 5: One to one -/

/-- The order of two ports. -/
structure PortCoordinate.Ordered (a b : PortCoordinate) : Prop where
  /-- Slots count before ports. -/
  before : compare a b = .lt ↔
    a.slotIndex.val < b.slotIndex.val ∨
      a.slotIndex.val = b.slotIndex.val ∧ a.portIndex.val < b.portIndex.val
  same   : compare a b = .eq ↔ a = b
  packed : compare a.packed b.packed = compare a b

theorem PortCoordinate.ordered (a b : PortCoordinate) : a.Ordered b where
  before := by rw [compare_eq, Nat.compare_eq_lt, position_lt_iff]
  same   := by
    rw [compare_eq, Nat.compare_eq_eq]
    exact ⟨Logical.position_injective, congrArg Logical.position⟩
  packed := Packed.compare_port a b

/-- The numbers of a port are read as it, and a machine gets every index back from one. -/
structure PortCoordinate.Numbered (c : PortCoordinate) : Prop where
  renewed : ofNumbers c.slot c.port = .ok c
  slot    : c.slot = c.slotIndex.val + 1 ∧ Packed.Counts c.packed.slot c.slotIndex.val
  port    : c.port = c.portIndex.val + 1 ∧ Packed.Counts c.packed.port c.portIndex.val

theorem PortCoordinate.numbered (c : PortCoordinate) : c.Numbered where
  renewed := ofNumbers_eq_ok_iff.mpr ⟨rfl, rfl⟩
  slot    := ⟨rfl, Packed.counts_byteOf (by decide) c.slotIndex⟩
  port    := ⟨rfl, Packed.counts_byteOf (by decide) c.portIndex⟩

namespace TerminalCoordinate

/-- The order of two terminals. -/
structure Ordered (a b : TerminalCoordinate) : Prop where
  /-- Slots count before ports, and ports before terminals. -/
  before : compare a b = .lt ↔
    a.onPort.slotIndex.val < b.onPort.slotIndex.val ∨
      a.onPort.slotIndex.val = b.onPort.slotIndex.val ∧
        (a.onPort.portIndex.val < b.onPort.portIndex.val ∨
          a.onPort.portIndex.val = b.onPort.portIndex.val ∧
            a.terminalIndex.val < b.terminalIndex.val)
  same   : compare a b = .eq ↔ a = b
  packed : compare a.packed b.packed = compare a b

theorem ordered (a b : TerminalCoordinate) : a.Ordered b where
  before := by rw [compare_eq, Nat.compare_eq_lt, rank_lt_iff]
  same   := by rw [compare_eq, Nat.compare_eq_eq, rank_inj]
  packed := Packed.compare_terminal a b

/-- The numbers of a terminal are read as it, and a machine gets every index back from one. -/
structure Numbered (c : TerminalCoordinate) : Prop where
  renewed  : ofNumbers c.slot c.port c.terminal = .ok c
  slot     : c.slot = c.onPort.slotIndex.val + 1 ∧
    Packed.Counts c.packed.onPort.slot c.onPort.slotIndex.val
  port     : c.port = c.onPort.portIndex.val + 1 ∧
    Packed.Counts c.packed.onPort.port c.onPort.portIndex.val
  terminal : c.terminal = c.terminalIndex.val + 1 ∧
    Packed.Counts c.packed.terminal c.terminalIndex.val

theorem numbered (c : TerminalCoordinate) : c.Numbered where
  renewed  := ofNumbers_eq_ok_iff.mpr ⟨rfl, rfl, rfl⟩
  slot     := c.onPort.numbered.slot
  port     := c.onPort.numbered.port
  terminal := ⟨rfl, Packed.counts_byteOf (by decide) c.terminalIndex⟩

/-- What becomes of the indices `s`, `p` and `t`, and of any coordinate on the way back. -/
structure Correspond (s p t : Nat) : Prop where
  onPort        : PortCoordinate.Indexed s p
  terminal      : Indexed s p t
  /-- A machine that has the indices in words makes the same coordinate of them, or refuses the same
      number. -/
  portWords     : Packed.Port.ofIndices (.ofNat s) (.ofNat p) =
    (PortCoordinate.ofIndices s p).map PortCoordinate.packed
  terminalWords : Packed.Terminal.ofIndices (.ofNat s) (.ofNat p) (.ofNat t) =
    (ofIndices s p t).map packed
  /-- It does so with numbers as well, and there is no other way to make a coordinate. -/
  numberWords   : ∀ slot port terminal : UInt32, Packed.Terminal.ofNumbers slot port terminal =
    (ofNumbers slot.toNat port.toNat terminal.toNat).map packed
  portNumbers   : ∀ c : PortCoordinate, c.Numbered
  numbers       : ∀ c : TerminalCoordinate, c.Numbered
  portOrder     : ∀ a b : PortCoordinate, a.Ordered b
  order         : ∀ a b : TerminalCoordinate, a.Ordered b

/-- **One to one**: indices below the greatest word are those of a coordinate, or the first that is
    out of range is refused under its true number, as far as numbers go; a coordinate gives its
    indices back, and is ordered by them. -/
theorem correspond {s p t : Nat} (hs : s < Packed.greatestWord) (hp : p < Packed.greatestWord)
    (ht : t < Packed.greatestWord) : Correspond s p t where
  onPort        := PortCoordinate.indexed s p
  terminal      := indexed s p t
  portWords     := Packed.Port.ofIndices_eq hs hp
  terminalWords := Packed.Terminal.ofIndices_eq hs hp ht
  numberWords   := Packed.Terminal.ofNumbers_eq
  portNumbers   := PortCoordinate.numbered
  numbers       := numbered
  portOrder     := PortCoordinate.ordered
  order         := ordered

/-- Cut down to 32 bits and to a byte, the numbers of these two indices are 5 and 1. They are not
    taken for those of a terminal and of a port. -/
theorem correspond_farIndices :
    15 < Packed.greatestWord ∧ 256 < Packed.greatestWord ∧ 4294967300 < Packed.greatestWord ∧
      Correspond 15 256 4294967300 ∧
      ofIndices 15 256 4294967300 = .error (.outOfRange .port 257 16) ∧
      ofIndices 15 0 4294967300 = .error (.outOfRange .terminal 4294967295 64) :=
  ⟨by decide, by decide, by decide, correspond (by decide) (by decide) (by decide), rfl, rfl⟩

end TerminalCoordinate

end ChassisRegistry
