import ChassisRegistry.Proofs.Coordinates

/-! # What the checks accept

    A logical tree passes its check exactly when it carries the numbers and
    tags that are laid out; linked and without bindings it is then the laid
    out tree of its site, rack and shelf (`Chassis.Fits.linked_unbound`). A
    physical tree passes exactly when
    its cards, ports and terminals are numbered by their positions and as many
    as their drivers have (`Physical.Chassis.check_eq_ok_iff`). -/

namespace ChassisRegistry

/-- Two lists are equal when one of them is the other's layout over indices. -/
theorem eq_map_finRange_iff {α : Type} {n : Nat} {xs : List α} {f : Fin n → α} :
    xs = (List.finRange n).map f ↔
      xs.length = n ∧ ∀ i x, xs[i]? = some x → ∀ h : i < n, x = f ⟨i, h⟩ := by
  constructor
  · rintro rfl
    refine ⟨by simp, ?_⟩
    intro i x hx hi
    rw [Logical.getElem?_map_finRange f ⟨i, hi⟩] at hx
    exact (Option.some.inj hx).symm
  · rintro ⟨hlength, hitems⟩
    apply List.ext_getElem (by simp [hlength])
    intro i hi hi'
    have hn : i < n := by omega
    have := hitems i xs[i] (List.getElem?_eq_getElem hi) hn
    simpa using this

namespace Logical

/-! ## Section 1: The logical tree -/

theorem ofIndices_self (c : TerminalCoordinate) :
    TerminalCoordinate.ofIndices c.onPort.slotIndex.val c.onPort.portIndex.val
      c.terminalIndex.val = .ok c :=
  TerminalCoordinate.ofIndices_eq_ok_iff.mpr ⟨rfl, rfl, rfl⟩

/-- The linked terminal of a coordinate. -/
def Terminal.laidOut (c : TerminalCoordinate) : Terminal :=
  { Terminal.planned c with port := some c.onPort }

theorem Port.laidOut_terminals (c : PortCoordinate) (b : Option DevicePort) :
    (Port.laidOut c b).terminals =
      (List.finRange terminalsPerPort).map fun k => .laidOut ⟨c, k⟩ := by
  have hself : (PortCoordinate.ofNumbers c.slot (Port.planned c).number).toOption = some c := by
    rw [show (Port.planned c).number = c.port from rfl, ofNumbers_self]
    rfl
  simp only [Port.laidOut, Port.linked, hself]
  simp only [Port.planned, PortCoordinate.terminals, List.map_map]
  rfl

/-- Does the port carry the numbers and tags of a coordinate? -/
def Port.Fits (p : Port) (c : PortCoordinate) : Prop :=
  p.number = c.port ∧ p.terminals.length = terminalsPerPort ∧
    ∀ (k : Fin terminalsPerPort) t, p.terminals[k.val]? = some t →
      t.number = k.val + 1 ∧ t.tags = TagPair.planned ⟨c, k⟩

/-- Does the slot carry the numbers and tags of an index? -/
def Slot.Fits (s : Slot) (i : Fin slotsPerChassis) : Prop :=
  s.number = i.val + 1 ∧ s.ports.length = portsPerSlot ∧
    ∀ (j : Fin portsPerSlot) p, s.ports[j.val]? = some p → p.Fits ⟨i, j⟩

/-- Does the tree carry the numbers and tags that are laid out? -/
def Chassis.Fits (c : Chassis) : Prop :=
  c.slots.length = slotsPerChassis ∧
    ∀ (i : Fin slotsPerChassis) s, c.slots[i.val]? = some s → s.Fits i

/-- Checking a list of known length looks at every index. -/
theorem checkFrom_zero_eq_ok_iff {ε α : Type} {n : Nat} {xs : List α}
    {check : Nat → α → Except ε Unit} (hlength : xs.length = n) :
    checkFrom check 0 xs = .ok () ↔
      ∀ (i : Fin n) x, xs[i.val]? = some x → check i.val x = .ok () := by
  rw [checkFrom_eq_ok_iff]
  constructor
  · intro h i x hx
    simpa using h i.val x hx
  · intro h i x hx
    -- The check is run on the items only, so an index that has one is in range.
    have hi : i < n := by
      obtain ⟨hi, _⟩ := List.getElem?_eq_some_iff.mp hx
      omega
    simpa using h ⟨i, hi⟩ x hx

theorem checkTerminal_eq_ok_iff {slot : Slot} {port : Port} (c : PortCoordinate)
    (k : Fin terminalsPerPort) {t : Terminal} :
    checkTerminal slot port c.slotIndex.val c.portIndex.val k.val t = .ok () ↔
      t.number = k.val + 1 ∧ t.tags = TagPair.planned ⟨c, k⟩ := by
  have hself := ofIndices_self ⟨c, k⟩
  unfold checkTerminal
  by_cases hnumber : t.number = k.val + 1
  · rw [if_neg (not_not_intro hnumber), hself]
    by_cases htags : t.tags = TagPair.planned ⟨c, k⟩
    · simp [hnumber, htags]
    · simp [hnumber, htags, reject]
  · rw [if_pos hnumber]
    simp [hnumber, reject]

theorem checkPort_eq_ok_iff {slot : Slot} (c : PortCoordinate) {p : Port} :
    checkPort slot c.slotIndex.val c.portIndex.val p = .ok () ↔ p.Fits c := by
  unfold checkPort Port.Fits
  -- Number and size share one refusal, so they are told apart only once it did not happen.
  by_cases hshape : p.number ≠ c.portIndex.val + 1 ∨ p.terminals.length ≠ terminalsPerPort
  · rw [if_pos hshape]
    simp only [reject, reduceCtorEq, false_iff]
    rintro ⟨hnumber, hlength, _⟩
    rcases hshape with hne | hne
    · exact hne hnumber
    · exact hne hlength
  · rw [if_neg hshape]
    simp only [not_or, Classical.not_not] at hshape
    rw [checkFrom_zero_eq_ok_iff hshape.2]
    simp only [checkTerminal_eq_ok_iff]
    exact ⟨fun h => ⟨hshape.1, hshape.2, h⟩, fun h => h.2.2⟩

theorem checkSlot_eq_ok_iff (i : Fin slotsPerChassis) {s : Slot} :
    checkSlot i.val s = .ok () ↔ s.Fits i := by
  unfold checkSlot Slot.Fits
  by_cases hshape : s.number ≠ i.val + 1 ∨ s.ports.length ≠ portsPerSlot
  · rw [if_pos hshape]
    simp only [reject, reduceCtorEq, false_iff]
    rintro ⟨hnumber, hlength, _⟩
    rcases hshape with hne | hne
    · exact hne hnumber
    · exact hne hlength
  · rw [if_neg hshape]
    simp only [not_or, Classical.not_not] at hshape
    rw [checkFrom_zero_eq_ok_iff hshape.2]
    have hport : ∀ (j : Fin portsPerSlot) p, checkPort s i.val j.val p = .ok () ↔ p.Fits ⟨i, j⟩ :=
      fun j p => checkPort_eq_ok_iff ⟨i, j⟩
    simp only [hport]
    exact ⟨fun h => ⟨hshape.1, hshape.2, h⟩, fun h => h.2.2⟩

/-- A tree passes its check exactly when it carries the laid out numbers and tags. -/
theorem Chassis.check_eq_ok_iff {c : Chassis} : c.check = .ok () ↔ c.Fits := by
  unfold Chassis.check Chassis.Fits
  by_cases hlength : c.slots.length = slotsPerChassis
  · rw [if_neg (not_not_intro hlength), checkFrom_zero_eq_ok_iff hlength]
    simp only [checkSlot_eq_ok_iff]
    exact ⟨fun h => ⟨hlength, h⟩, fun h => h.2⟩
  · rw [if_pos hlength]
    simp [reject, hlength]

/-! ### Fitting trees are laid out -/

theorem Port.fits_linked (slot : Nat) {p : Port} {c : PortCoordinate} :
    (p.linked slot).Fits c ↔ p.Fits c := by
  simp only [Port.Fits, Port.linked, List.length_map, List.getElem?_map, Option.map_eq_some_iff,
    forall_exists_index, and_imp, forall_apply_eq_imp_iff₂]

theorem Slot.fits_linked (site : Site) {s : Slot} {i : Fin slotsPerChassis} :
    (s.linked site).Fits i ↔ s.Fits i := by
  simp only [Slot.Fits, Slot.linked, List.length_map, List.getElem?_map, Option.map_eq_some_iff,
    forall_exists_index, and_imp, forall_apply_eq_imp_iff₂, Port.fits_linked]

/-- Linking has no part in numbers and tags. -/
theorem Chassis.fits_linked {c : Chassis} : c.linked.Fits ↔ c.Fits := by
  simp only [Chassis.Fits, Chassis.linked, List.length_map, List.getElem?_map,
    Option.map_eq_some_iff, forall_exists_index, and_imp, forall_apply_eq_imp_iff₂,
    Slot.fits_linked]

theorem Port.Fits.linked_unbound {p : Port} {c : PortCoordinate} (h : p.Fits c) :
    { p.linked c.slot with bound := none } = Port.laidOut c none := by
  obtain ⟨hnumber, hlength, hterminals⟩ := h
  have hself : (PortCoordinate.ofNumbers c.slot p.number).toOption = some c := by
    rw [hnumber, ofNumbers_self]
    rfl
  rw [Port.mk.injEq]
  refine ⟨hnumber, ?_, rfl, rfl⟩
  -- Linking replaces the stored back-reference, so numbers and tags are all that counts here.
  rw [Port.laidOut_terminals, eq_map_finRange_iff]
  simp only [Port.linked, hself, List.length_map, hlength, true_and, List.getElem?_map]
  intro k t ht hk
  obtain ⟨stored, hstored, rfl⟩ := Option.map_eq_some_iff.mp ht
  obtain ⟨hn, htags⟩ := hterminals ⟨k, hk⟩ stored hstored
  rw [hn, htags]
  rfl

theorem Slot.Fits.linked_unbound {s : Slot} {i : Fin slotsPerChassis} (site : Site)
    (h : s.Fits i) :
    { s.linked site with ports := (s.linked site).ports.map fun p => { p with bound := none } } =
      Slot.laidOut site i (boundIn []) := by
  obtain ⟨hnumber, hlength, hports⟩ := h
  rw [Slot.mk.injEq]
  refine ⟨hnumber, ?_, rfl⟩
  rw [Slot.laidOut_ports, eq_map_finRange_iff]
  simp only [Slot.linked, List.length_map, hlength, true_and, List.map_map, List.getElem?_map]
  intro j p hp hj
  obtain ⟨stored, hstored, rfl⟩ := Option.map_eq_some_iff.mp hp
  have := (hports ⟨j, hj⟩ stored hstored).linked_unbound
  rw [hnumber]
  exact this

theorem Chassis.Fits.linked_unbound {c : Chassis} (h : c.Fits) :
    c.linked.unbound = .laidOut c.site c.rack c.shelf [] := by
  obtain ⟨hlength, hslots⟩ := h
  rw [Chassis.mk.injEq]
  refine ⟨rfl, rfl, rfl, ?_, rfl⟩
  rw [Chassis.laidOut_slots, eq_map_finRange_iff]
  simp only [Chassis.unbound, Chassis.linked, List.length_map, hlength, true_and, List.map_map,
    List.getElem?_map]
  intro i s hs hi
  obtain ⟨stored, hstored, rfl⟩ := Option.map_eq_some_iff.mp hs
  exact (hslots ⟨i, hi⟩ stored hstored).linked_unbound c.site

theorem Port.fits_laidOut (c : PortCoordinate) (b : Option DevicePort) :
    (Port.laidOut c b).Fits c := by
  refine ⟨rfl, by simp [Port.laidOut_terminals], ?_⟩
  intro k t ht
  rw [Port.laidOut_terminals, getElem?_map_finRange] at ht
  cases ht
  exact ⟨rfl, rfl⟩

theorem Chassis.fits_laidOut (site : Site) (rack shelf : UInt32) (targets : List DevicePort) :
    (Chassis.laidOut site rack shelf targets).Fits := by
  refine ⟨by simp, ?_⟩
  intro i s hs
  rw [Chassis.laidOut_slots, getElem?_map_finRange] at hs
  cases hs
  refine ⟨rfl, by simp, ?_⟩
  intro j p hp
  rw [Slot.laidOut_ports, getElem?_map_finRange] at hp
  cases hp
  exact Port.fits_laidOut ⟨i, j⟩ _

end Logical

/-! ## Section 2: The physical tree -/

namespace Physical

/-- Is the port the one at an index of its card? -/
def Port.Numbered (p : Port) (j : Nat) : Prop :=
  p.number = j + 1 ∧ p.terminals.length = terminalsPerPort ∧
    ∀ k t, p.terminals[k]? = some t → t.number = k + 1

/-- Is the card the one at an index of its chassis? -/
def Card.Numbered (c : Card) (i : Nat) : Prop :=
  c.number = i + 1 ∧ c.ports.length = c.driver.portCount ∧
    ∀ j (p : Port), c.ports[j]? = some p → p.Numbered j

/-- Are cards, ports and terminals numbered by position and as many as there should be? -/
def Chassis.Numbered (c : Chassis) : Prop :=
  ∀ i (card : Card), c.cards[i]? = some card → card.Numbered i

theorem checkTerminal_eq_ok_iff {card : Card} {port : Port} {k : Nat} {t : Terminal} :
    checkTerminal card port k t = .ok () ↔ t.number = k + 1 := by
  unfold checkTerminal
  by_cases hnumber : t.number = k + 1
  · simp [hnumber]
  · simp [hnumber, reject]

theorem checkPort_eq_ok_iff {card : Card} {j : Nat} {p : Port} :
    checkPort card j p = .ok () ↔ p.Numbered j := by
  unfold checkPort Port.Numbered
  by_cases hnumber : p.number = j + 1
  · rw [if_neg (not_not_intro hnumber)]
    by_cases hlength : p.terminals.length = terminalsPerPort
    · rw [if_neg (not_not_intro hlength), checkFrom_eq_ok_iff]
      simp only [checkTerminal_eq_ok_iff, Nat.zero_add]
      exact ⟨fun h => ⟨hnumber, hlength, h⟩, fun h => h.2.2⟩
    · rw [if_pos hlength]
      simp [reject, hlength]
  · rw [if_pos hnumber]
    simp [reject, hnumber]

theorem checkCard_eq_ok_iff {i : Nat} {c : Card} : checkCard i c = .ok () ↔ c.Numbered i := by
  unfold checkCard Card.Numbered
  by_cases hnumber : c.number = i + 1
  · rw [if_neg (not_not_intro hnumber)]
    by_cases hlength : c.ports.length = c.driver.portCount
    · rw [if_neg (not_not_intro hlength), checkFrom_eq_ok_iff]
      simp only [checkPort_eq_ok_iff, Nat.zero_add]
      exact ⟨fun h => ⟨hnumber, hlength, h⟩, fun h => h.2.2⟩
    · rw [if_pos hlength]
      simp [reject, hlength]
  · rw [if_pos hnumber]
    simp [reject, hnumber]

/-- A tree passes its check exactly when it is numbered by position and of the right sizes. -/
theorem Chassis.check_eq_ok_iff {c : Chassis} : c.check = .ok () ↔ c.Numbered := by
  unfold Chassis.check Chassis.Numbered
  rw [checkFrom_eq_ok_iff]
  simp only [checkCard_eq_ok_iff, Nat.zero_add]

/-! ### Back-references -/

theorem Port.linked_linked (card : Nat) (p : Port) : (p.linked card).linked card = p.linked card := by
  simp only [Port.linked, List.map_map]
  rfl

theorem Card.linked_linked (site : Site) (c : Card) : (c.linked site).linked site = c.linked site := by
  simp only [Card.linked, List.map_map, Function.comp_def, Port.linked_linked]

/-- Linking a linked tree changes nothing. -/
theorem Chassis.linked_linked (c : Chassis) : c.linked.linked = c.linked := by
  simp only [Chassis.linked, List.map_map, Function.comp_def, Card.linked_linked]

theorem Port.numbered_linked (card : Nat) {p : Port} {j : Nat} :
    (p.linked card).Numbered j ↔ p.Numbered j := by
  simp only [Port.Numbered, Port.linked, List.length_map, List.getElem?_map,
    Option.map_eq_some_iff, forall_exists_index, and_imp, forall_apply_eq_imp_iff₂]

theorem Card.numbered_linked (site : Site) {c : Card} {i : Nat} :
    (c.linked site).Numbered i ↔ c.Numbered i := by
  simp only [Card.Numbered, Card.linked, List.length_map, List.getElem?_map,
    Option.map_eq_some_iff, forall_exists_index, and_imp, forall_apply_eq_imp_iff₂,
    Port.numbered_linked]

/-- Linking has no part in numbers and sizes. -/
theorem Chassis.numbered_linked {c : Chassis} : c.linked.Numbered ↔ c.Numbered := by
  simp only [Chassis.Numbered, Chassis.linked, List.getElem?_map, Option.map_eq_some_iff,
    forall_exists_index, and_imp, forall_apply_eq_imp_iff₂, Card.numbered_linked]

theorem Card.devicePorts_linked (site : Site) (c : Card) :
    (c.linked site).devicePorts = c.devicePorts := by
  simp only [Card.devicePorts, Card.linked, List.map_map]
  rfl

theorem Chassis.devicePorts_linked (c : Chassis) : c.linked.devicePorts = c.devicePorts := by
  simp only [Chassis.devicePorts, Chassis.linked, List.flatMap_map, Card.devicePorts_linked]

end Physical

end ChassisRegistry
