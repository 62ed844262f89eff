import ChassisRegistry.Proofs.Binder

/-! # Coordinates and their indices

    Indices make a coordinate when each of them is in range, and the first that
    is not is refused under its number, which counts from 1 and stops at the
    greatest that can be asked for. An axis is shorter than that, so that no
    index from afar is taken for a near one. A coordinate has the indices that
    it was made of, its numbers are read as it, and coordinates are compared by
    their position when all of a chassis are counted.

    Main statements: `TerminalCoordinate.indexed`,
    `TerminalCoordinate.compare_eq`. -/

namespace ChassisRegistry

/-! ## Section 1: One axis -/

/-- A number is read as the index that is one less. -/
theorem indexOf_eq_ok_iff {axis : Axis} {limit value : Nat} {i : Fin limit} :
    indexOf axis limit value = .ok i ↔ i.val + 1 = value := by
  constructor
  · intro h
    unfold indexOf at h
    split at h
    · cases h
      dsimp only
      omega
    · cases h
  · rintro rfl
    exact Logical.indexOf_succ axis i

theorem numberOf_of_lt {index : Nat} (h : index < greatestNumber) : numberOf index = index + 1 :=
  Nat.min_eq_left h

/-- An index is read by its number as itself, or refused under that number. -/
theorem indexOf_numberOf (axis : Axis) {limit : Nat} (hlimit : limit < greatestNumber)
    (index : Nat) :
    indexOf axis limit (numberOf index) =
      if h : index < limit then .ok ⟨index, h⟩
      else .error (.outOfRange axis (numberOf index) limit) := by
  by_cases h : index < limit
  · rw [dif_pos h, indexOf_eq_ok_iff, numberOf_of_lt (Nat.lt_trans h hlimit)]
  · -- The greatest number is beyond the axis as well, so that stopping there makes no index good.
    have hbeyond : ¬ (1 ≤ numberOf index ∧ numberOf index ≤ limit) := by
      simp only [numberOf]
      omega
    rw [dif_neg h, indexOf, dif_neg hbeyond]

theorem indexOf_numberOf_eq_ok_iff {axis : Axis} {limit index : Nat} {i : Fin limit}
    (hlimit : limit < greatestNumber) :
    indexOf axis limit (numberOf index) = .ok i ↔ i.val = index := by
  rw [indexOf_numberOf axis hlimit]
  constructor
  · intro h
    split at h
    · cases h
      rfl
    · cases h
  · rintro rfl
    rw [dif_pos i.isLt]

/-! ## Section 2: Reading a coordinate -/

namespace PortCoordinate

variable {slot port s p : Nat} {c : PortCoordinate}

/-- Numbers are read as the coordinate that has them. -/
theorem ofNumbers_eq_ok_iff : ofNumbers slot port = .ok c ↔ c.slot = slot ∧ c.port = port := by
  constructor
  · intro h
    obtain ⟨i, hi, h⟩ := exists_of_bind h
    obtain ⟨j, hj, h⟩ := exists_of_bind h
    cases h
    exact ⟨indexOf_eq_ok_iff.mp hi, indexOf_eq_ok_iff.mp hj⟩
  · rintro ⟨rfl, rfl⟩
    exact Logical.ofNumbers_self c

/-- Two ports of the same numbers are one. -/
theorem eq_of_numbers {a b : PortCoordinate} (hslot : a.slot = b.slot) (hport : a.port = b.port) :
    a = b := by
  have hread : ofNumbers b.slot b.port = .ok a := ofNumbers_eq_ok_iff.mpr ⟨hslot, hport⟩
  rw [Logical.ofNumbers_self] at hread
  exact (Except.ok.inj hread).symm

theorem ofIndices_of_lt (hs : s < slotsPerChassis) (hp : p < portsPerSlot) :
    ofIndices s p = .ok ⟨⟨s, hs⟩, ⟨p, hp⟩⟩ := by
  rw [ofIndices, ofNumbers, indexOf_numberOf _ (by decide), indexOf_numberOf _ (by decide),
    dif_pos hs, dif_pos hp]
  rfl

theorem ofIndices_of_slot (hs : slotsPerChassis ≤ s) :
    ofIndices s p = .error (.outOfRange .slot (numberOf s) slotsPerChassis) := by
  rw [ofIndices, ofNumbers, indexOf_numberOf _ (by decide), dif_neg (Nat.not_lt.mpr hs)]
  rfl

theorem ofIndices_of_port (hs : s < slotsPerChassis) (hp : portsPerSlot ≤ p) :
    ofIndices s p = .error (.outOfRange .port (numberOf p) portsPerSlot) := by
  rw [ofIndices, ofNumbers, indexOf_numberOf _ (by decide), indexOf_numberOf _ (by decide),
    dif_pos hs, dif_neg (Nat.not_lt.mpr hp)]
  rfl

/-- Indices are read as the coordinate that has them. -/
theorem ofIndices_eq_ok_iff :
    ofIndices s p = .ok c ↔ c.slotIndex.val = s ∧ c.portIndex.val = p := by
  constructor
  · intro h
    obtain ⟨i, hi, h⟩ := exists_of_bind h
    obtain ⟨j, hj, h⟩ := exists_of_bind h
    cases h
    exact ⟨(indexOf_numberOf_eq_ok_iff (by decide)).mp hi,
      (indexOf_numberOf_eq_ok_iff (by decide)).mp hj⟩
  · rintro ⟨rfl, rfl⟩
    exact ofIndices_of_lt c.slotIndex.isLt c.portIndex.isLt

/-- What becomes of the indices `s` and `p`. -/
structure Indexed (s p : Nat) : Prop where
  /-- A port comes of them exactly when both are in range, -/
  taken  : (∃ c, ofIndices s p = .ok c) ↔ s < 16 ∧ p < 16
  /-- and it is the one that has them. -/
  found  : ∀ c, ofIndices s p = .ok c ↔ c.slotIndex.val = s ∧ c.portIndex.val = p
  /-- Otherwise the first that is out of range is refused. -/
  noSlot : 16 ≤ s → ofIndices s p = .error (.outOfRange .slot (min (s + 1) 4294967295) 16)
  noPort : s < 16 → 16 ≤ p →
    ofIndices s p = .error (.outOfRange .port (min (p + 1) 4294967295) 16)

theorem indexed (s p : Nat) : Indexed s p where
  taken  := by
    constructor
    · rintro ⟨c, h⟩
      obtain ⟨rfl, rfl⟩ := ofIndices_eq_ok_iff.mp h
      exact ⟨c.slotIndex.isLt, c.portIndex.isLt⟩
    · rintro ⟨hs, hp⟩
      exact ⟨_, ofIndices_of_lt hs hp⟩
  found  := fun _ => ofIndices_eq_ok_iff
  noSlot := ofIndices_of_slot
  noPort := ofIndices_of_port

end PortCoordinate

namespace TerminalCoordinate

variable {slot port terminal s p t : Nat} {c : TerminalCoordinate}

/-- Indices are looked at port first, and then the one on the port. -/
theorem ofIndices_eq_bind (s p t : Nat) :
    ofIndices s p t = (PortCoordinate.ofIndices s p).bind fun onPort =>
      (indexOf .terminal terminalsPerPort (numberOf t)).map fun terminalIndex =>
        { onPort, terminalIndex } := by
  rw [ofIndices, ofNumbers, ← PortCoordinate.ofIndices]
  cases PortCoordinate.ofIndices s p with
  | error e => rfl
  | ok onPort => cases indexOf .terminal terminalsPerPort (numberOf t) <;> rfl

/-- Numbers are read as the coordinate that has them. -/
theorem ofNumbers_eq_ok_iff :
    ofNumbers slot port terminal = .ok c ↔
      c.slot = slot ∧ c.port = port ∧ c.terminal = terminal := by
  constructor
  · intro h
    obtain ⟨onPort, honPort, h⟩ := exists_of_bind h
    obtain ⟨k, hk, h⟩ := exists_of_bind h
    cases h
    obtain ⟨hslot, hport⟩ := PortCoordinate.ofNumbers_eq_ok_iff.mp honPort
    exact ⟨hslot, hport, indexOf_eq_ok_iff.mp hk⟩
  · rintro ⟨rfl, rfl, rfl⟩
    simp only [ofNumbers, TerminalCoordinate.slot, TerminalCoordinate.port,
      TerminalCoordinate.terminal, Logical.ofNumbers_self, Logical.indexOf_succ]
    rfl

theorem ofIndices_of_lt (hs : s < slotsPerChassis) (hp : p < portsPerSlot)
    (ht : t < terminalsPerPort) :
    ofIndices s p t = .ok ⟨⟨⟨s, hs⟩, ⟨p, hp⟩⟩, ⟨t, ht⟩⟩ := by
  rw [ofIndices_eq_bind, PortCoordinate.ofIndices_of_lt hs hp, indexOf_numberOf _ (by decide),
    dif_pos ht]
  rfl

theorem ofIndices_of_slot (hs : slotsPerChassis ≤ s) :
    ofIndices s p t = .error (.outOfRange .slot (numberOf s) slotsPerChassis) := by
  rw [ofIndices_eq_bind, PortCoordinate.ofIndices_of_slot hs]
  rfl

theorem ofIndices_of_port (hs : s < slotsPerChassis) (hp : portsPerSlot ≤ p) :
    ofIndices s p t = .error (.outOfRange .port (numberOf p) portsPerSlot) := by
  rw [ofIndices_eq_bind, PortCoordinate.ofIndices_of_port hs hp]
  rfl

theorem ofIndices_of_terminal (hs : s < slotsPerChassis) (hp : p < portsPerSlot)
    (ht : terminalsPerPort ≤ t) :
    ofIndices s p t = .error (.outOfRange .terminal (numberOf t) terminalsPerPort) := by
  rw [ofIndices_eq_bind, PortCoordinate.ofIndices_of_lt hs hp, indexOf_numberOf _ (by decide),
    dif_neg (Nat.not_lt.mpr ht)]
  rfl

/-- Indices are read as the coordinate that has them. -/
theorem ofIndices_eq_ok_iff :
    ofIndices s p t = .ok c ↔
      c.onPort.slotIndex.val = s ∧ c.onPort.portIndex.val = p ∧ c.terminalIndex.val = t := by
  constructor
  · intro h
    obtain ⟨onPort, honPort, h⟩ := exists_of_bind h
    obtain ⟨k, hk, h⟩ := exists_of_bind h
    cases h
    obtain ⟨hs, hp⟩ := PortCoordinate.ofIndices_eq_ok_iff.mp honPort
    exact ⟨hs, hp, (indexOf_numberOf_eq_ok_iff (by decide)).mp hk⟩
  · rintro ⟨rfl, rfl, rfl⟩
    exact ofIndices_of_lt c.onPort.slotIndex.isLt c.onPort.portIndex.isLt c.terminalIndex.isLt

/-- What becomes of the indices `s`, `p` and `t`. -/
structure Indexed (s p t : Nat) : Prop where
  /-- A coordinate comes of them exactly when all three are in range, -/
  taken      : (∃ c, ofIndices s p t = .ok c) ↔ s < 16 ∧ p < 16 ∧ t < 64
  /-- and it is the one that has them. -/
  found      : ∀ c, ofIndices s p t = .ok c ↔
    c.onPort.slotIndex.val = s ∧ c.onPort.portIndex.val = p ∧ c.terminalIndex.val = t
  /-- Otherwise the first that is out of range is refused. -/
  noSlot     : 16 ≤ s → ofIndices s p t = .error (.outOfRange .slot (min (s + 1) 4294967295) 16)
  noPort     : s < 16 → 16 ≤ p →
    ofIndices s p t = .error (.outOfRange .port (min (p + 1) 4294967295) 16)
  noTerminal : s < 16 → p < 16 → 64 ≤ t →
    ofIndices s p t = .error (.outOfRange .terminal (min (t + 1) 4294967295) 64)

theorem indexed (s p t : Nat) : Indexed s p t where
  taken      := by
    constructor
    · rintro ⟨c, h⟩
      obtain ⟨rfl, rfl, rfl⟩ := ofIndices_eq_ok_iff.mp h
      exact ⟨c.onPort.slotIndex.isLt, c.onPort.portIndex.isLt, c.terminalIndex.isLt⟩
    · rintro ⟨hs, hp, ht⟩
      exact ⟨_, ofIndices_of_lt hs hp ht⟩
  found      := fun _ => ofIndices_eq_ok_iff
  noSlot     := ofIndices_of_slot
  noPort     := ofIndices_of_port
  noTerminal := ofIndices_of_terminal

end TerminalCoordinate

/-! ## Section 3: The order -/

/-- How two numbers compare depends on which of them is less, and on nothing else. -/
theorem compare_congr {i j i' j' : Nat} (hless : i < j ↔ i' < j') (hgreater : j < i ↔ j' < i') :
    compare i j = compare i' j' := by
  rcases Nat.lt_trichotomy i j with h | h | h
  · rw [Nat.compare_eq_lt.mpr h, Nat.compare_eq_lt.mpr (hless.mp h)]
  · rw [Nat.compare_eq_eq.mpr h, Nat.compare_eq_eq.mpr (by omega)]
  · rw [Nat.compare_eq_gt.mpr h, Nat.compare_eq_gt.mpr (hgreater.mp h)]

/-- Comparing pairs is comparing the numbers of which they are the digits. -/
theorem then_compare_eq {base x y i j : Nat} (hi : i < base) (hj : j < base) :
    (compare x y).then (compare i j) = compare (x * base + i) (y * base + j) := by
  rcases Nat.lt_trichotomy x y with h | rfl | h
  · have hstep : (x + 1) * base ≤ y * base := Nat.mul_le_mul_right base h
    rw [Nat.succ_mul] at hstep
    rw [Nat.compare_eq_lt.mpr h, Ordering.lt_then, eq_comm, Nat.compare_eq_lt]
    omega
  · rw [Nat.compare_eq_eq.mpr rfl, Ordering.eq_then]
    exact compare_congr (by omega) (by omega)
  · have hstep : (y + 1) * base ≤ x * base := Nat.mul_le_mul_right base h
    rw [Nat.succ_mul] at hstep
    rw [Nat.compare_eq_gt.mpr h, Ordering.gt_then, eq_comm, Nat.compare_eq_gt]
    omega

theorem PortCoordinate.compare_eq (a b : PortCoordinate) :
    compare a b = compare (Logical.position a) (Logical.position b) :=
  then_compare_eq a.portIndex.isLt b.portIndex.isLt

/-- Positions of ports go through the slots, then through the ports. -/
theorem PortCoordinate.position_lt_iff {a b : PortCoordinate} :
    Logical.position a < Logical.position b ↔
      a.slotIndex.val < b.slotIndex.val ∨
        a.slotIndex.val = b.slotIndex.val ∧ a.portIndex.val < b.portIndex.val := by
  have ha := a.portIndex.isLt
  have hb := b.portIndex.isLt
  simp only [Logical.position, portsPerSlot] at *
  omega

namespace TerminalCoordinate

/-- The position of a terminal when all of a chassis are counted. -/
def rank (c : TerminalCoordinate) : Nat :=
  Logical.position c.onPort * terminalsPerPort + c.terminalIndex.val

theorem compare_eq (a b : TerminalCoordinate) : compare a b = compare a.rank b.rank := by
  have hpair : compare a b =
      (compare a.onPort b.onPort).then (compare a.terminalIndex.val b.terminalIndex.val) := rfl
  rw [hpair, PortCoordinate.compare_eq, then_compare_eq a.terminalIndex.isLt b.terminalIndex.isLt,
    rank, rank]

theorem rank_inj {a b : TerminalCoordinate} : a.rank = b.rank ↔ a = b := by
  constructor
  · intro h
    have ha := a.terminalIndex.isLt
    have hb := b.terminalIndex.isLt
    simp only [rank, terminalsPerPort] at h ha hb
    have hport : a.onPort = b.onPort := Logical.position_injective (by omega)
    have hterminal : a.terminalIndex = b.terminalIndex := Fin.ext (by omega)
    rw [mk.injEq]
    exact ⟨hport, hterminal⟩
  · rintro rfl
    rfl

/-- Positions go through the slots, then through the ports, then through the terminals. -/
theorem rank_lt_iff {a b : TerminalCoordinate} : a.rank < b.rank ↔
    a.onPort.slotIndex.val < b.onPort.slotIndex.val ∨
      a.onPort.slotIndex.val = b.onPort.slotIndex.val ∧
        (a.onPort.portIndex.val < b.onPort.portIndex.val ∨
          a.onPort.portIndex.val = b.onPort.portIndex.val ∧
            a.terminalIndex.val < b.terminalIndex.val) := by
  have hap := a.onPort.portIndex.isLt
  have hbp := b.onPort.portIndex.isLt
  have hat := a.terminalIndex.isLt
  have hbt := b.terminalIndex.isLt
  simp only [rank, Logical.position, portsPerSlot, terminalsPerPort] at *
  omega

end TerminalCoordinate

end ChassisRegistry
