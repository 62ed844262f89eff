import ChassisRegistry.Proofs.Bindings
import ChassisRegistry.Proofs.TerminalMachine

/-! # Every active terminal

    The notices of the active terminals are collected by walking the logical
    tree: slot by slot, past the ports that are not bound, and on each port
    terminal by terminal, by the numbers in the tree. Where every bound port has
    its terminals behind it, the walk comes by every coordinate that may be
    active, once, in the order of slots, ports and terminals, and nothing on it
    fails.

    Main statement: `Record.Backed.activeNotices_eq`. -/

namespace ChassisRegistry

/-- The terminal coordinates of a chassis, port by port. -/
def TerminalCoordinate.all : List TerminalCoordinate :=
  PortCoordinate.all.flatMap PortCoordinate.terminals

theorem PortCoordinate.mem_all (c : PortCoordinate) : c ∈ all :=
  List.mem_flatMap.mpr ⟨c.slotIndex, List.mem_finRange _,
    List.mem_map.mpr ⟨c.portIndex, List.mem_finRange _, rfl⟩⟩

theorem TerminalCoordinate.mem_all (c : TerminalCoordinate) : c ∈ all :=
  List.mem_flatMap.mpr ⟨c.onPort, c.onPort.mem_all,
    List.mem_map.mpr ⟨c.terminalIndex, List.mem_finRange _, rfl⟩⟩

/-! ## Section 1: The walk -/

/-- What adds nothing can be left out. -/
theorem flatMap_filter_of_nil {α β : Type} {xs : List α} {p : α → Bool} {f : α → List β}
    (h : ∀ x ∈ xs, p x = false → f x = []) : (xs.filter p).flatMap f = xs.flatMap f := by
  induction xs with
  | nil => rfl
  | cons x rest ih =>
    have hrest := ih fun y hy => h y (List.mem_cons_of_mem x hy)
    by_cases hx : p x = true
    · rw [List.filter_cons_of_pos hx, List.flatMap_cons, List.flatMap_cons, hrest]
    · rw [List.filter_cons_of_neg hx, List.flatMap_cons, hrest,
        h x List.mem_cons_self (by simpa using hx), List.nil_append]

/-- The numbers by which the tree has a coordinate. -/
def TerminalCoordinate.numbers (c : TerminalCoordinate) : Nat × Nat × Nat :=
  (c.slot, c.port, c.terminal)

theorem TerminalCoordinate.ofNumbers_self (c : TerminalCoordinate) :
    ofNumbers c.slot c.port c.terminal = .ok c :=
  ofNumbers_eq_ok_iff.mpr ⟨rfl, rfl, rfl⟩

theorem TerminalCoordinate.numbers_injective : Function.Injective TerminalCoordinate.numbers := by
  intro c d hcd
  simp only [numbers, Prod.mk.injEq] at hcd
  obtain ⟨hslot, hport, hterminal⟩ := hcd
  have honPort : c.onPort = d.onPort := PortCoordinate.eq_of_numbers hslot hport
  have hindex : c.terminalIndex = d.terminalIndex := Fin.ext (Nat.succ.inj hterminal)
  rw [TerminalCoordinate.mk.injEq]
  exact ⟨honPort, hindex⟩

theorem PortCoordinate.nodup_all : PortCoordinate.all.Nodup := by
  apply List.Nodup.of_map Logical.position
  rw [Logical.map_position_all]
  exact List.nodup_range

theorem TerminalCoordinate.nodup_all : TerminalCoordinate.all.Nodup := by
  rw [TerminalCoordinate.all, List.nodup_flatMap]
  constructor
  · intro p _
    apply List.Nodup.map _ (List.nodup_finRange _)
    intro k l hkl
    exact congrArg TerminalCoordinate.terminalIndex hkl
  -- Terminals of two ports differ in the port.
  · apply PortCoordinate.nodup_all.imp
    intro p q hpq c hp hq
    obtain ⟨_, _, rfl⟩ := List.mem_map.mp hp
    obtain ⟨_, _, hc⟩ := List.mem_map.mp hq
    exact hpq (congrArg TerminalCoordinate.onPort hc).symm

/-- Of what is collected, and tells what it was collected for, one item has what was collected for
    it. -/
theorem filter_filterMap_key {α β κ : Type} [DecidableEq α] [DecidableEq κ] {key : α → κ}
    (hkey : Function.Injective key) {xs : List α} (hnodup : xs.Nodup) {x : α} (hx : x ∈ xs)
    {f : α → Option β} {keyOf : β → κ} (htold : ∀ y z, f y = some z → keyOf z = key y) :
    (xs.filterMap f).filter (fun z => keyOf z = key x) = (f x).toList := by
  have hkept : ∀ y, (f y).filter (fun z => decide (keyOf z = key x)) =
      if y = x then f y else none := by
    intro y
    cases hf : f y with
    | none => simp
    | some z => simp [Option.filter, htold y z hf, hkey.eq_iff]
  have hone : xs.filter (fun y => decide (y = x)) = [x] := by
    rw [List.filter_eq, List.count_eq_one_of_mem hnodup hx, List.replicate_one]
  rw [List.filter_filterMap, List.filterMap_eq_flatMap_toList,
    ← flatMap_filter_of_nil (p := fun y => decide (y = x)), hone, List.flatMap_singleton, hkept,
    if_pos rfl]
  intro y _ hy
  rw [hkept, if_neg (by simpa using hy), Option.toList_none]

namespace Logical

/-- The terminals of a port that is laid out have the numbers of their coordinates. -/
theorem Port.numbers_laidOut (c : PortCoordinate) (b : Option DevicePort) :
    ((Port.laidOut c b).terminals.map fun t => (c.slot, c.port, t.number)) =
      c.terminals.map TerminalCoordinate.numbers := by
  rw [Port.laidOut_terminals, PortCoordinate.terminals, List.map_map, List.map_map]
  rfl

end Logical

namespace Record

variable {r : Record} {targets : List DevicePort}

/-- The walk comes by the coordinates of the bound ports. -/
theorem Backed.boundPositions_eq (h : r.Backed targets) :
    r.boundPositions =
      ((PortCoordinate.all.filter fun p => (r.binding? p).isSome).flatMap
        PortCoordinate.terminals).map TerminalCoordinate.numbers := by
  have hbinding : r.binding? = Logical.boundIn targets := funext (binding?_of_laidOut h.laidOut)
  -- Both sides are a walk over slots, then over the bound ports of a slot.
  have hslot : ∀ i : Fin slotsPerChassis,
      (((Logical.Slot.laidOut r.physical.site i (Logical.boundIn targets)).ports.filter
        fun port => port.bound.isSome).flatMap fun port =>
          port.terminals.map fun t => (i.val + 1, port.number, t.number)) =
        ((((List.finRange portsPerSlot).map fun j : Fin portsPerSlot =>
          (⟨i, j⟩ : PortCoordinate)).filter fun p => (r.binding? p).isSome).flatMap
            PortCoordinate.terminals).map TerminalCoordinate.numbers := by
    intro i
    rw [Logical.Slot.laidOut_ports, List.filter_map, List.filter_map, List.flatMap_map,
      List.flatMap_map, List.map_flatMap, hbinding]
    apply List.flatMap_congr
    intro j _
    exact Logical.Port.numbers_laidOut ⟨i, j⟩ _
  rw [boundPositions, h.laidOut, Logical.Chassis.laidOut_slots, List.flatMap_map,
    PortCoordinate.all, List.filter_flatMap, List.flatMap_assoc, List.map_flatMap]
  apply List.flatMap_congr
  intro i _
  exact hslot i

/-! ## Section 2: The notices -/

/-- The notice of the terminal at a coordinate, if it is active. -/
def activation? (r : Record) (c : TerminalCoordinate) : Option TerminalNotice :=
  match r.terminal c with
  | .error _ => none
  | .ok t => if t.active then (r.noticeFor c t.service).toOption else none

theorem activation?_of_unbound {c : TerminalCoordinate} (hunbound : r.binding? c.onPort = none) :
    r.activation? c = none := by
  simp only [activation?, terminal, binding, hunbound]

/-- A notice can be made wherever a terminal is active. -/
theorem Coherent.activation?_isSome_iff (h : r.Coherent) (c : TerminalCoordinate) :
    (r.activation? c).isSome ↔ r.terminalState c = .active := by
  rcases h.terminal_cases c with ⟨_, _, hterminal⟩ | ⟨here, t, hbound, _, _, hterminal⟩
  · rw [activation?, terminalState, hterminal]
    simp
  · obtain ⟨n, hn⟩ := h.exists_notice hbound t.service
    rw [activation?, terminalState, hterminal]
    by_cases hactive : t.active = true
    · simp [hactive, hn, Except.toOption]
    · simp [hactive]

theorem Backed.activeNotice_eq (h : r.Backed targets) {c : TerminalCoordinate}
    (hbound : (r.binding? c.onPort).isSome) :
    r.activeNotice c.slot c.port c.terminal = .ok (r.activation? c) := by
  obtain ⟨here, hhere⟩ := Option.isSome_iff_exists.mp hbound
  obtain ⟨_, t, ht⟩ := h.exists_terminal hhere
  obtain ⟨n, hn⟩ := h.exists_notice hhere t.service
  have hterminal := terminal_of_some hhere ht
  simp only [activeNotice, c.ofNumbers_self, activation?, hterminal]
  by_cases hactive : t.active = true
  · simp only [hactive, if_true, hn]
    rfl
  · simp only [hactive, Bool.false_eq_true, if_false]

/-- A walk on which nothing fails collects the notices of the active terminals on it. -/
theorem noticesOf_eq {cs : List TerminalCoordinate}
    (hcs : ∀ c ∈ cs, r.activeNotice c.slot c.port c.terminal = .ok (r.activation? c)) :
    r.noticesOf (cs.map TerminalCoordinate.numbers) = .ok (cs.filterMap r.activation?) := by
  induction cs with
  | nil => rfl
  | cons c rest ih =>
    have hc := hcs c List.mem_cons_self
    have hrest := ih fun d hd => hcs d (List.mem_cons_of_mem c hd)
    simp only [List.map_cons, TerminalCoordinate.numbers, noticesOf, hc, hrest]
    cases hn : r.activation? c with
    | none => rw [List.filterMap_cons_none hn]; rfl
    | some n => rw [List.filterMap_cons_some hn]; rfl

/-- The notices of the active terminals are those of all coordinates, in their order. -/
theorem Backed.activeNotices_eq (h : r.Backed targets) :
    r.activeNotices = .ok (TerminalCoordinate.all.filterMap r.activation?) := by
  have hwalk : ∀ c ∈ (PortCoordinate.all.filter fun p => (r.binding? p).isSome).flatMap
      PortCoordinate.terminals,
      r.activeNotice c.slot c.port c.terminal = .ok (r.activation? c) := by
    intro c hc
    obtain ⟨p, hp, hterminal⟩ := List.mem_flatMap.mp hc
    obtain ⟨k, _, rfl⟩ := List.mem_map.mp hterminal
    exact h.activeNotice_eq (List.mem_filter.mp hp).2
  -- The ports that the walk passes by have nothing to tell.
  have hpassed : ∀ p, r.binding? p = none → p.terminals.filterMap r.activation? = [] := by
    intro p hp
    rw [List.filterMap_eq_nil_iff]
    intro c hc
    obtain ⟨k, _, rfl⟩ := List.mem_map.mp hc
    exact activation?_of_unbound hp
  rw [activeNotices, h.boundPositions_eq, noticesOf_eq hwalk, TerminalCoordinate.all,
    List.filterMap_flatMap, List.filterMap_flatMap, flatMap_filter_of_nil]
  intro p _ hp
  apply hpassed
  simpa using hp

theorem Coherent.activeNotices_eq (h : r.Coherent) :
    r.activeNotices = .ok (TerminalCoordinate.all.filterMap r.activation?) :=
  h.backed.activeNotices_eq

end Record

end ChassisRegistry
