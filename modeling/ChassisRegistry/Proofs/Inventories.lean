import ChassisRegistry.Inventory
import ChassisRegistry.Proofs.ActiveTerminals
import ChassisRegistry.Proofs.CompleteServices
import ChassisRegistry.Proofs.Installations

/-! # Inventories show their records

    An inventory is gathered slot by slot. The ports of a slot are put under
    the cards behind them, as a walk over the ports would do it
    (`Inventory.devicesOf_eq_foldl`), and what has no port, card or identifier
    behind it is passed by without a word. Read flat again, the inventory has
    one line for every bound port, and on it the terminals that carry a
    circuit identifier: nothing that is passed by was there to be seen, and
    putting neighbours together under one card loses and mixes nothing, as a
    number stands for one card.

    Main statement: `Record.Handled.exactView`. -/

namespace ChassisRegistry

/-! ## Section 1: Reading an inventory flat -/

namespace Inventory

/-- A port of an inventory with everything that it is listed under. -/
structure Line where
  slot     : Nat
  card     : Nat
  address  : SocketAddress
  hostname : String
  port     : Port
  deriving DecidableEq

/-- The lines of a device in the slot of a number. -/
def Device.lines (slot : Nat) (d : Device) : List Line :=
  d.ports.map fun p => ⟨slot, d.card, d.address, d.hostname, p⟩

/-- The lines of a slot. -/
def Slot.lines (s : Slot) : List Line :=
  s.devices.flatMap (Device.lines s.number)

/-- The terminals on a line, each under the numbers of its slot, its port and its own. -/
def Line.terminals (l : Line) : List ((Nat × Nat × Nat) × Terminal) :=
  l.port.terminals.map fun t => ((l.slot, l.port.logical, t.number), t)

end Inventory

/-- The lines of an inventory, in the order in which they are listed. -/
def Inventory.lines (inv : Inventory) : List Inventory.Line :=
  inv.slots.flatMap Slot.lines

/-- The terminals of an inventory under their numbers, in the order in which they are listed. -/
def Inventory.terminals (inv : Inventory) : List ((Nat × Nat × Nat) × Inventory.Terminal) :=
  inv.lines.flatMap Line.terminals

/-! ## Section 2: Putting ports under cards -/

namespace Inventory

variable {c : Physical.Chassis}

/-- The line of a port with a card behind it. -/
def lineOn (slot : Nat) (entry : Physical.Card × Port) : Line :=
  ⟨slot, entry.1.number, entry.1.address, entry.1.hostname, entry.2⟩

/-- Puts a port behind a list of devices: with the last one if it is on that card. -/
def snocPort (entry : Physical.Card × Port) : List Device → List Device
  | [] => [⟨entry.1.number, entry.1.address, entry.1.hostname, [entry.2]⟩]
  | [d] =>
      if d.card = entry.1.number then [{ d with ports := d.ports ++ [entry.2] }]
      else [d, ⟨entry.1.number, entry.1.address, entry.1.hostname, [entry.2]⟩]
  | d :: next :: rest => d :: snocPort entry (next :: rest)

/-- It does not matter which end is looked at first. -/
theorem consPort_snocPort (first last : Physical.Card × Port) (devices : List Device) :
    consPort first (snocPort last devices) = snocPort last (consPort first devices) := by
  match devices with
  | [] =>
    simp only [snocPort, consPort, eq_comm]
    split <;> rfl
  | [d] =>
    by_cases hfirst : d.card = first.1.number
    · by_cases hlast : d.card = last.1.number
      · have hsame : first.1.number = last.1.number := hfirst.symm.trans hlast
        simp only [snocPort, consPort, if_pos hfirst, if_pos hlast, if_pos hsame, List.cons_append]
      · have hother : first.1.number ≠ last.1.number := fun h => hlast (hfirst.trans h)
        simp only [snocPort, consPort, if_pos hfirst, if_neg hlast, if_neg hother]
    · by_cases hlast : d.card = last.1.number
      · simp only [snocPort, consPort, if_neg hfirst, if_pos hlast]
      · simp only [snocPort, consPort, if_neg hfirst, if_neg hlast]
  | d :: next :: rest =>
    simp only [snocPort, consPort]
    split <;> rfl

/-- The devices of a slot are what a walk over its ports adds up to, each port behind the others. -/
theorem devicesOf_eq_foldl (physical : Physical.Chassis) (s : Logical.Slot) :
    devicesOf physical s =
      (s.ports.filterMap (portOf? physical)).foldl (fun devices entry => snocPort entry devices)
        [] := by
  have hfront : ∀ (entries : List (Physical.Card × Port)) first devices,
      consPort first (entries.foldl (fun devices entry => snocPort entry devices) devices) =
        entries.foldl (fun devices entry => snocPort entry devices) (consPort first devices) := by
    intro entries first
    induction entries with
    | nil => exact fun _ => rfl
    | cons entry rest ih =>
      intro devices
      rw [List.foldl_cons, List.foldl_cons, ih, consPort_snocPort]
  rw [devicesOf]
  induction s.ports.filterMap (portOf? physical) with
  | nil => rfl
  | cons entry rest ih =>
    rw [List.foldr_cons, ih, hfront]
    rfl

/-- Does a device show a card of the chassis, with ports? -/
structure Device.Shows (d : Device) (c : Physical.Chassis) : Prop where
  card  : ∃ card, c.card? d.card = some card ∧ d.address = card.address ∧
    d.hostname = card.hostname
  ports : d.ports ≠ []

/-- What holds of a list of devices while ports are put in front of it. -/
structure Grouped (c : Physical.Chassis) (devices : List Device) : Prop where
  shows : ∀ d ∈ devices, d.Shows c
  /-- Neighbours are different cards. -/
  apart : devices.IsChain fun d e => d.card ≠ e.card

variable {devices : List Device} {entry : Physical.Card × Port}

theorem Grouped.cons (h : Grouped c devices) (hcard : c.card? entry.1.number = some entry.1) :
    Grouped c (consPort entry devices) := by
  cases devices with
  | nil =>
    refine ⟨?_, List.isChain_singleton _⟩
    intro d hd
    obtain rfl := List.mem_singleton.mp hd
    exact ⟨⟨_, hcard, rfl, rfl⟩, List.cons_ne_nil _ _⟩
  | cons first rest =>
    rw [Inventory.consPort]
    split
    · next hsame =>
      refine ⟨?_, ?_⟩
      · intro d hd
        rcases List.mem_cons.mp hd with rfl | hd
        · exact ⟨⟨_, hcard, rfl, rfl⟩, List.cons_ne_nil _ _⟩
        · exact h.shows d (List.mem_cons_of_mem _ hd)
      -- The device in front has the number that it had.
      · have hapart := h.apart
        cases rest with
        | nil => exact List.isChain_singleton _
        | cons second rest =>
          rw [List.isChain_cons_cons] at hapart ⊢
          rw [hsame] at hapart
          exact hapart
    · next hother =>
      refine ⟨?_, List.isChain_cons_cons.mpr ⟨Ne.symm hother, h.apart⟩⟩
      intro d hd
      rcases List.mem_cons.mp hd with rfl | hd
      · exact ⟨⟨_, hcard, rfl, rfl⟩, List.cons_ne_nil _ _⟩
      · exact h.shows d hd

/-- A port that is put in front comes first, and the others keep their cards. -/
theorem Grouped.lines_consPort (h : Grouped c devices)
    (hcard : c.card? entry.1.number = some entry.1) (slot : Nat) :
    (consPort entry devices).flatMap (Device.lines slot) =
      lineOn slot entry :: devices.flatMap (Device.lines slot) := by
  cases devices with
  | nil => rfl
  | cons first rest =>
    rw [Inventory.consPort]
    split
    · next hsame =>
      -- The device takes the address and the name of the card of its number, which it had already.
      obtain ⟨card, hfound, haddress, hhostname⟩ := (h.shows first List.mem_cons_self).card
      rw [hsame, hcard, Option.some.injEq] at hfound
      subst hfound
      simp only [List.flatMap_cons, Device.lines, lineOn, List.map_cons, List.cons_append, hsame,
        haddress, hhostname]
    · rfl

/-- Entries that are put under their cards come out as they were. -/
theorem grouped_foldr {entries : List (Physical.Card × Port)}
    (h : ∀ e ∈ entries, c.card? e.1.number = some e.1) (slot : Nat) :
    Grouped c (entries.foldr consPort []) ∧
      (entries.foldr consPort []).flatMap (Device.lines slot) = entries.map (lineOn slot) := by
  induction entries with
  | nil => exact ⟨⟨by simp, List.isChain_nil⟩, rfl⟩
  | cons entry rest ih =>
    obtain ⟨hgrouped, hlines⟩ := ih fun e he => h e (List.mem_cons_of_mem entry he)
    have hcard := h entry List.mem_cons_self
    refine ⟨hgrouped.cons hcard, ?_⟩
    rw [List.foldr_cons, hgrouped.lines_consPort hcard, hlines, List.map_cons]

end Inventory

/-! ## Section 3: What there is to see -/

namespace Record

open Logical (boundIn)

/-- The terminal of a coordinate as it should be listed, if it carries a circuit identifier. -/
def viewOf? (r : Record) (c : TerminalCoordinate) : Option Inventory.Terminal :=
  match r.terminal c with
  | .error _ => none
  | .ok t =>
      if t.service.circuitId = "" then none
      else some {
        number      := c.terminal
        active      := t.active
        serviceTag  := t.service.serviceTag
        customerTag := t.service.customerTag
        serial      := t.service.serial
        nasPortId   := t.service.nasPortId
        circuitId   := t.service.circuitId }

/-- The line of a logical port as it should be listed, if the port is bound. -/
def lineOf? (r : Record) (c : PortCoordinate) : Option Inventory.Line :=
  match r.binding? c with
  | none => none
  | some here =>
      match r.card here.card with
      | .error _ => none
      | .ok card => some {
          slot     := c.slot
          card     := here.card
          address  := card.address
          hostname := card.hostname
          port     := ⟨c.port, here.port, c.terminals.filterMap r.viewOf?⟩ }

variable {r : Record} {mounted : List Nat}

theorem Assembled.mem_devicePorts (h : r.Assembled mounted) {c : PortCoordinate}
    {here : DevicePort} (hc : r.binding? c = some here) : here ∈ r.physical.devicePorts := by
  rw [h.binding?_eq] at hc
  rw [devicePorts_eq_flatMap h.numbered]
  exact (h.ordered.flatMap cardPorts).subset (List.mem_of_getElem? hc)

theorem Assembled.binding?_injective (h : r.Assembled mounted) {c d : PortCoordinate}
    {here : DevicePort} (hc : r.binding? c = some here) (hd : r.binding? d = some here) :
    c = d := by
  rw [h.binding?_eq] at hc hd
  exact Logical.boundIn_injective h.nodup hc hd

theorem Assembled.card_of_some (h : r.Assembled mounted) {number : Nat} {found : Physical.Card}
    (hfound : r.physical.card? number = some found) : r.card number = .ok found := by
  have hgreatest : number ≤ Physical.greatestCard := by
    obtain ⟨i, rfl, hi⟩ := numbered?_eq_some_iff.mp hfound
    obtain ⟨hlt, _⟩ := List.getElem?_eq_some_iff.mp hi
    exact Nat.le_trans hlt h.few
  rw [card, if_pos hgreatest, hfound]

/-- Going through a list is going through its positions. -/
theorem filterMap_eq_finRange {α β : Type} {xs : List α} {n : Nat} (h : xs.length = n)
    (f : α → Option β) :
    xs.filterMap f = (List.finRange n).filterMap fun k => xs[k.val]?.bind f := by
  subst h
  have hpositions : xs.filterMap f = ((List.finRange xs.length).map xs.get).filterMap f := by
    rw [List.map_get_finRange]
  rw [hpositions, List.filterMap_map]
  apply List.filterMap_congr
  intro k _
  simp

/-- The terminals that a port lists are those that should be listed for its logical port. -/
theorem Assembled.listed_eq (h : r.Assembled mounted) {c : PortCoordinate} {here : DevicePort}
    {card : Physical.Card} {port : Physical.Port} (hc : r.binding? c = some here)
    (hcard : r.physical.card? here.card = some card) (hport : card.port? here.port = some port) :
    Inventory.listed port = c.terminals.filterMap r.viewOf? := by
  obtain ⟨i, _, hcards⟩ := numbered?_eq_some_iff.mp hcard
  obtain ⟨j, _, hports⟩ := numbered?_eq_some_iff.mp hport
  obtain ⟨_, hlength, hnumber⟩ := (h.numbered i card hcards).2.2 j port hports
  rw [Inventory.listed, ← List.filterMap_eq_map, List.filterMap_filter,
    filterMap_eq_finRange hlength, PortCoordinate.terminals, List.filterMap_map]
  apply List.filterMap_congr
  intro k _
  have hk : k.val < port.terminals.length := by
    rw [hlength]
    exact k.isLt
  have ht := List.getElem?_eq_getElem hk
  -- The position on the logical port and the one on the port behind it are the same.
  have hterminal : r.terminal ⟨c, k⟩ = .ok port.terminals[k.val] := by
    apply terminal_of_some hc
    rw [Physical.Chassis.terminal?, hcard, Option.bind_some, hport, Option.bind_some, ht]
  simp only [ht, Option.bind_some, Function.comp_apply, viewOf?, hterminal]
  by_cases hlisted : port.terminals[k.val].service.circuitId = ""
  · simp [hlisted]
  · simp [hlisted, Inventory.Terminal.ofPhysical, hnumber k.val _ ht, TerminalCoordinate.terminal]

/-- Behind a bound port there are a card and a port, so it is not passed by. -/
theorem Assembled.portOf?_of_bound (h : r.Assembled mounted) {c : PortCoordinate}
    {here : DevicePort} (hc : r.binding? c = some here) :
    ∃ card, r.physical.card? here.card = some card ∧ card.number = here.card ∧
      Inventory.portOf? r.physical (.laidOut c (some here)) =
        some (card, ⟨c.port, here.port, c.terminals.filterMap r.viewOf?⟩) := by
  obtain ⟨card, port, hcard, hport, hcardNumber, hportNumber⟩ :=
    h.numbered.mem_devicePorts_iff.mp (h.mem_devicePorts hc)
  refine ⟨card, hcard, hcardNumber, ?_⟩
  have hbound : (Logical.Port.laidOut c (some here)).bound = some here := rfl
  have hnumber : (Logical.Port.laidOut c (some here)).number = c.port := rfl
  simp only [Inventory.portOf?, hbound, hcard, hport, hnumber, hportNumber,
    h.listed_eq hc hcard hport]

theorem Assembled.lineOf?_of_bound (h : r.Assembled mounted) {c : PortCoordinate}
    {here : DevicePort} (hc : r.binding? c = some here) {card : Physical.Card}
    (hcard : r.physical.card? here.card = some card) :
    r.lineOf? c = some ⟨c.slot, here.card, card.address, card.hostname,
      ⟨c.port, here.port, c.terminals.filterMap r.viewOf?⟩⟩ := by
  simp only [lineOf?, hc, h.card_of_some hcard]

/-- A port is listed when it is bound. -/
theorem Assembled.lineOf?_isSome_iff (h : r.Assembled mounted) (c : PortCoordinate) :
    (r.lineOf? c).isSome ↔ (r.binding? c).isSome := by
  cases hc : r.binding? c with
  | none => simp [lineOf?, hc]
  | some here =>
    obtain ⟨card, hcard, _⟩ := h.portOf?_of_bound hc
    simp [h.lineOf?_of_bound hc hcard]

/-- What is gathered of a logical port is its line. -/
theorem Assembled.map_lineOn (h : r.Assembled mounted) (c : PortCoordinate) :
    (Inventory.portOf? r.physical (.laidOut c (r.binding? c))).map (Inventory.lineOn c.slot) =
      r.lineOf? c := by
  cases hc : r.binding? c with
  | none =>
    rw [lineOf?, hc]
    rfl
  | some here =>
    obtain ⟨card, hcard, hnumber, hport⟩ := h.portOf?_of_bound hc
    rw [hport, h.lineOf?_of_bound hc hcard, Option.map_some, Inventory.lineOn, hnumber]

/-- What is gathered of a logical port is on the card of its number. -/
theorem Assembled.card?_of_portOf? (h : r.Assembled mounted) {c : PortCoordinate}
    {entry : Physical.Card × Inventory.Port}
    (hentry : Inventory.portOf? r.physical (.laidOut c (r.binding? c)) = some entry) :
    r.physical.card? entry.1.number = some entry.1 := by
  cases hc : r.binding? c with
  | none =>
    rw [hc] at hentry
    cases hentry
  | some here =>
    obtain ⟨card, hcard, hnumber, hport⟩ := h.portOf?_of_bound hc
    rw [hc, hport, Option.some.injEq] at hentry
    subst hentry
    rw [hnumber]
    exact hcard

/-! ## Section 4: The lines of an inventory -/

/-- The slot of an index as it is gathered, with or without devices. -/
def slotAt (r : Record) (i : Fin slotsPerChassis) : Inventory.Slot where
  number  := i.val + 1
  devices := Inventory.devicesOf r.physical (.laidOut r.physical.site i r.binding?)

theorem Assembled.slots_eq (h : r.Assembled mounted) :
    r.inventory.slots =
      ((List.finRange slotsPerChassis).map r.slotAt).filter fun s => s.devices ≠ [] := by
  have hbinding : r.binding? = boundIn (mounted.flatMap cardPorts) := funext h.binding?_eq
  have hslots : r.logical.slots = (List.finRange slotsPerChassis).map fun i =>
      .laidOut r.physical.site i r.binding? := by
    rw [hbinding, h.laidOut]
    rfl
  rw [inventory, Inventory.slotsOf, hslots, List.map_map]
  rfl

theorem Assembled.slotAt_lines (h : r.Assembled mounted) (i : Fin slotsPerChassis) :
    Inventory.Grouped r.physical (r.slotAt i).devices ∧
      (r.slotAt i).lines =
        ((List.finRange portsPerSlot).map fun j : Fin portsPerSlot =>
          (⟨i, j⟩ : PortCoordinate)).filterMap r.lineOf? := by
  have hentries : ∀ entry ∈ (Logical.Slot.laidOut r.physical.site i r.binding?).ports.filterMap
      (Inventory.portOf? r.physical), r.physical.card? entry.1.number = some entry.1 := by
    intro entry hmem
    obtain ⟨p, hp, hentry⟩ := List.mem_filterMap.mp hmem
    obtain ⟨j, _, rfl⟩ := List.mem_map.mp hp
    exact h.card?_of_portOf? hentry
  obtain ⟨hgrouped, hlines⟩ := Inventory.grouped_foldr hentries (i.val + 1)
  refine ⟨hgrouped, hlines.trans ?_⟩
  rw [Logical.Slot.laidOut_ports, List.filterMap_map, List.map_filterMap, List.filterMap_map]
  apply List.filterMap_congr
  intro j _
  exact h.map_lineOn ⟨i, j⟩

/-- An inventory has the lines of the bound ports, in the order of their coordinates. -/
theorem Assembled.inventory_lines (h : r.Assembled mounted) :
    r.inventory.lines = PortCoordinate.all.filterMap r.lineOf? := by
  rw [Inventory.lines, h.slots_eq, flatMap_filter_of_nil, List.flatMap_map, PortCoordinate.all,
    List.filterMap_flatMap]
  · apply List.flatMap_congr
    intro i _
    exact (h.slotAt_lines i).2
  -- A slot that is left out has no lines.
  · intro s _ hs
    have hempty : s.devices = [] := by simpa using hs
    rw [Inventory.Slot.lines, hempty, List.flatMap_nil]

/-! ## Section 5: The terminals of an inventory -/

theorem of_viewOf? {c : TerminalCoordinate} {v : Inventory.Terminal} (hv : r.viewOf? c = some v) :
    ∃ t, r.terminal c = .ok t ∧ v.number = c.terminal ∧ v.active = t.active := by
  unfold viewOf? at hv
  split at hv
  · cases hv
  · next t hterminal =>
    split at hv
    · cases hv
    · cases hv
      exact ⟨t, hterminal, rfl, rfl⟩

theorem viewOf?_of_terminal {c : TerminalCoordinate} {t : Physical.Terminal}
    (hterminal : r.terminal c = .ok t) (hcircuit : t.service.circuitId ≠ "") :
    ∃ v, r.viewOf? c = some v ∧ v.active = t.active := by
  simp only [viewOf?, hterminal, if_neg hcircuit]
  exact ⟨_, rfl, rfl⟩

theorem viewOf?_of_unbound {c : TerminalCoordinate} (hc : r.binding? c.onPort = none) :
    r.viewOf? c = none := by
  simp only [viewOf?, terminal, binding, hc]

/-- The terminals of an inventory are those that should be listed, in the order of their
    coordinates and under the numbers of these. -/
theorem Assembled.inventory_terminals (h : r.Assembled mounted) :
    r.inventory.terminals =
      TerminalCoordinate.all.filterMap fun c => (r.viewOf? c).map (Prod.mk c.numbers) := by
  rw [Inventory.terminals, h.inventory_lines, List.filterMap_eq_flatMap_toList, List.flatMap_assoc,
    TerminalCoordinate.all, List.filterMap_flatMap]
  apply List.flatMap_congr
  intro c _
  cases hc : r.binding? c with
  | none =>
    have hline : r.lineOf? c = none := by rw [lineOf?, hc]
    rw [hline, Option.toList_none, List.flatMap_nil, eq_comm, List.filterMap_eq_nil_iff]
    intro d hd
    obtain ⟨k, _, rfl⟩ := List.mem_map.mp hd
    rw [viewOf?_of_unbound hc, Option.map_none]
  | some here =>
    obtain ⟨card, hcard, _⟩ := h.portOf?_of_bound hc
    rw [h.lineOf?_of_bound hc hcard, Option.toList_some, List.flatMap_singleton,
      Inventory.Line.terminals, List.map_filterMap]
    apply List.filterMap_congr
    intro d hd
    obtain ⟨k, _, rfl⟩ := List.mem_map.mp hd
    cases hv : r.viewOf? ⟨c, k⟩ with
    | none => rfl
    | some v =>
      obtain ⟨_, _, hnumber, _⟩ := of_viewOf? hv
      rw [Option.map_some, Option.map_some, hnumber]
      rfl

/-- Under the numbers of a coordinate an inventory has what should be listed there. -/
theorem Assembled.filter_terminals (h : r.Assembled mounted) (c : TerminalCoordinate) :
    r.inventory.terminals.filter (fun e => e.1 = c.numbers) =
      ((r.viewOf? c).map (Prod.mk c.numbers)).toList := by
  rw [h.inventory_terminals]
  apply filter_filterMap_key TerminalCoordinate.numbers_injective TerminalCoordinate.nodup_all
    c.mem_all
  intro d e he
  obtain ⟨_, _, rfl⟩ := Option.map_eq_some_iff.mp he
  rfl

end Record

/-! ## Section 6: Terminals that stay active -/

/-- Is this an activation that fills in the identifiers that are missing? -/
def TerminalRequest.FillsIn (request : TerminalRequest) : Prop :=
  ∃ serial, request = .activate serial ∨ request = .activateSerial serial

namespace Record

open Logical (boundIn)

variable {r : Record} {mounted : List Nat} {c : TerminalCoordinate}

theorem circuitId_of_plannedService {serial : String} {service : Physical.Service}
    (hplanned : r.plannedService c serial = .ok service) :
    Text.allBlank service.circuitId = false := by
  unfold plannedService at hplanned
  obtain ⟨_, _, hservice⟩ := exists_of_bind hplanned
  cases hservice
  exact Identifier.circuit_not_blank _ _ _ _

/-- What such an activation resolves to is made of a planned service. -/
theorem of_resolve {request : TerminalRequest} {action : Action} {service : Physical.Service}
    (hfills : request.FillsIn) (hresolve : r.resolve c request = .ok (action, service)) :
    action = .activate ∧ ∃ given serial planned, requireSerial given = .ok serial ∧
      r.plannedService c serial = .ok planned ∧
      (service = planned ∨ ∃ staged, service = completed staged planned) := by
  -- Both activations look at the state, then at the serial number, and then plan.
  obtain ⟨serial, rfl | rfl⟩ := hfills
  · obtain ⟨_, _, hserial⟩ := exists_of_bind hresolve
    obtain ⟨trimmed, htrimmed, hplan⟩ := exists_of_bind hserial
    obtain ⟨planned, hplanned, hresult⟩ := exists_of_bind hplan
    cases hresult
    exact ⟨rfl, serial, trimmed, _, htrimmed, hplanned, Or.inl rfl⟩
  · obtain ⟨staged, _, hserial⟩ := exists_of_bind hresolve
    obtain ⟨trimmed, htrimmed, hplan⟩ := exists_of_bind hserial
    obtain ⟨planned, hplanned, hresult⟩ := exists_of_bind hplan
    cases hresult
    exact ⟨rfl, serial, trimmed, planned, htrimmed, hplanned, Or.inr ⟨staged.service, rfl⟩⟩

/-- So it stores a circuit identifier. -/
theorem circuitId_of_resolve {request : TerminalRequest} {action : Action}
    {service : Physical.Service} (hfills : request.FillsIn)
    (hresolve : r.resolve c request = .ok (action, service)) : service.circuitId ≠ "" := by
  obtain ⟨_, _, _, planned, _, hplanned, hservice⟩ := of_resolve hfills hresolve
  have hcircuit := circuitId_of_plannedService hplanned
  have hblank : Text.allBlank service.circuitId = false := by
    rcases hservice with rfl | ⟨staged, rfl⟩
    · exact hcircuit
    · simp only [completed, unlessBlank]
      split
      · exact hcircuit
      · next hstaged => simpa using hstaged
  intro hempty
  rw [hempty] at hblank
  exact absurd hblank (by decide +kernel)

/-- All that can be prepared for an active terminal is its deactivation. -/
theorem action_of_active {request : TerminalRequest} {t : Transition} {old : Physical.Terminal}
    (hterminal : r.terminal c = .ok old) (hactive : old.active = true)
    (hprepare : r.prepare c request = .ok t) : t.action = .deactivate := by
  obtain ⟨_, hresolve, _⟩ := of_prepare hprepare
  have hinactive : r.inactiveTerminal c = .error (.alreadyActive r.site c) := by
    simp only [inactiveTerminal, hterminal, hactive, if_true]
  cases request with
  | deactivate =>
    obtain ⟨_, _, hresult⟩ := exists_of_bind hresolve
    exact (congrArg Prod.fst (Except.ok.inj hresult)).symm
  | _ =>
    obtain ⟨_, hfound, _⟩ := exists_of_bind hresolve
    rw [hinactive] at hfound
    cases hfound

/-- Installing a card moves no terminal that was there. -/
theorem Assembled.terminal_installCard (h : r.Assembled mounted) {t : Physical.Terminal}
    (hterminal : r.terminal c = .ok t) (notice : CardNotice) :
    (r.installCard notice).2.terminal c = .ok t := by
  obtain ⟨here, hbound, ht⟩ := terminal_eq_ok_iff.mp hterminal
  have hbehind := Physical.Chassis.terminal?_withCard_of_some ht (r.cardOf notice)
  rw [h.installCard_eq]
  split_ifs with hsite hfull hnumber hports
  · exact hterminal
  · exact hterminal
  · exact terminal_of_some hbound hbehind
  · exact terminal_of_some hbound hbehind
  -- Its port is among those that were bound before.
  · have hbefore := hbound
    rw [h.binding?_eq] at hbefore
    obtain ⟨hpos, _⟩ := List.getElem?_eq_some_iff.mp hbefore
    apply terminal_of_some _ hbehind
    rw [(h.withMounted hfull hports notice).binding?_eq, boundIn, List.flatMap_append,
      List.getElem?_append_left hpos]
    exact hbefore

/-- A transition leaves the terminals of other coordinates as they are. -/
theorem Assembled.terminal_commit_of_ne (h : r.Assembled mounted) {old : Physical.Terminal}
    (hterminal : r.terminal c = .ok old) {t : Transition} (hne : t.coordinate ≠ c) :
    (r.commit t).2.terminal c = .ok old := by
  obtain ⟨here, hbound, hold⟩ := terminal_eq_ok_iff.mp hterminal
  rcases r.commit_refused_or_applied t with ⟨_, hrefused⟩ | ⟨there, _, hthere, hfound, happlied⟩
  · rw [hrefused]
    exact hterminal
  · have hafter : (r.commit t).2.binding? c.onPort = some here := by
      rw [happlied]
      exact hbound
    apply terminal_of_some hafter
    rw [happlied, Physical.Chassis.terminal?_changeTerminal,
      Physical.Chassis.succ_pred_of_terminal? hfound, if_neg, hold]
    -- Two coordinates with the same terminal behind them are one.
    rintro ⟨rfl, hindex⟩
    have hport : t.coordinate.onPort = c.onPort := h.binding?_injective hthere hbound
    exact hne (TerminalCoordinate.eq_of_parts hport hindex.symm)

/-- A transition that is not refused is applied to the terminal of its coordinate. -/
theorem terminal_commit_self {t : Transition} {state : TerminalState}
    (hcommit : (r.commit t).1 = .ok state) :
    ∃ old, r.terminal t.coordinate = .ok old ∧
      (r.commit t).2.terminal t.coordinate = .ok (t.apply old) ∧
      state = if t.action = .activate then .active else .inactive := by
  rcases r.commit_refused_or_applied t with ⟨_, hrefused⟩ | ⟨here, old, hbound, hold, happlied⟩
  · rw [hrefused] at hcommit
    cases hcommit
  · rw [happlied, Except.ok.injEq] at hcommit
    refine ⟨old, terminal_of_some hbound hold, ?_, hcommit.symm⟩
    have hafter : (r.commit t).2.binding? t.coordinate.onPort = some here := by
      rw [happlied]
      exact hbound
    apply terminal_of_some hafter
    rw [happlied, Physical.Chassis.terminal?_changeTerminal,
      Physical.Chassis.succ_pred_of_terminal? hold, if_pos ⟨rfl, rfl⟩, hold, Option.map_some]

/-- Is the terminal of a coordinate active, with a circuit identifier? -/
def Identified (r : Record) (c : TerminalCoordinate) : Prop :=
  ∃ t, r.terminal c = .ok t ∧ t.active = true ∧ t.service.circuitId ≠ ""

/-- A transition that is prepared and leaves the terminal active leaves it its identifier. -/
theorem Assembled.identified_commit (h : r.Assembled mounted) (hidentified : r.Identified c)
    {d : TerminalCoordinate} {request : TerminalRequest} {t : Transition}
    (hprepare : r.prepare d request = .ok t)
    (hactive : (r.commit t).2.terminalState c = .active) : (r.commit t).2.Identified c := by
  obtain ⟨old, hterminal, hold, hcircuit⟩ := hidentified
  obtain ⟨hcoordinate, _⟩ := of_prepare hprepare
  by_cases hdc : d = c
  -- At the coordinate itself only a deactivation is prepared.
  · subst hdc
    have haction := action_of_active hterminal hold hprepare
    rcases r.commit_refused_or_applied t with ⟨_, hrefused⟩ | ⟨_, _, _, _, happlied⟩
    · rw [hrefused]
      exact ⟨old, hterminal, hold, hcircuit⟩
    · obtain ⟨_, _, hafter, _⟩ := terminal_commit_self (congrArg Prod.fst happlied)
      rw [hcoordinate] at hafter
      simp [terminalState, hafter, Transition.apply, haction] at hactive
  · have hne : t.coordinate ≠ c := by
      rw [hcoordinate]
      exact hdc
    exact ⟨old, h.terminal_commit_of_ne hterminal hne, hold, hcircuit⟩

/-- So does every change. -/
theorem Assembled.identified_after (h : r.Assembled mounted) (hidentified : r.Identified c)
    {what : Change} (hactive : (r.after what).terminalState c = .active) :
    (r.after what).Identified c := by
  cases what with
  | login user password => exact hidentified
  | attach driver address hostname =>
    obtain ⟨old, hterminal, hold, hcircuit⟩ := hidentified
    refine ⟨old, ?_, hold, hcircuit⟩
    rw [Record.after, Record.attachCard]
    split
    · exact hterminal
    · exact h.terminal_installCard hterminal _
  | terminal d request =>
    cases hprepare : r.prepare d request with
    | error e =>
      simp only [Record.after, hprepare]
      exact hidentified
    | ok t =>
      simp only [Record.after, hprepare] at hactive ⊢
      exact h.identified_commit hidentified hprepare hactive

/-- The records in which a terminal is active through an activation that fills in what is missing.
    It was committed, whatever it was prepared on. After that cards were installed, changes were
    made that left the terminal active, and transitions of other coordinates were committed. The
    record may have been written and read again, if the port of the terminal was not shifted by
    that. -/
inductive ActiveThrough (c : TerminalCoordinate) : Record → Prop where
  | activate {r s : Record} {request : TerminalRequest} {t : Transition} (hr : Handled r)
      (hfills : request.FillsIn) (hprepare : s.prepare c request = .ok t)
      (hcommit : (r.commit t).1 = .ok .active) : ActiveThrough c (r.commit t).2
  | install {r : Record} (notice : CardNotice) (h : ActiveThrough c r) :
      ActiveThrough c (r.installCard notice).2
  | change {r : Record} (what : Change) (h : ActiveThrough c r)
      (hactive : (r.after what).terminalState c = .active) : ActiveThrough c (r.after what)
  | commit {r : Record} (t : Transition) (h : ActiveThrough c r) (hne : t.coordinate ≠ c) :
      ActiveThrough c (r.commit t).2
  | reload {r back : Record} (h : ActiveThrough c r)
      (hread : Snapshot.read (Snapshot.write r).toUTF8 = .ok back)
      (hport : back.binding? c.onPort = r.binding? c.onPort) : ActiveThrough c back

/-- It is enough to ask for such an activation when the terminal is not active. -/
theorem activeThrough_after (hr : Handled r) {request : TerminalRequest} (hfills : request.FillsIn)
    (hbefore : r.terminalState c ≠ .active)
    (hafter : (r.after (.terminal c request)).terminalState c = .active) :
    ActiveThrough c (r.after (.terminal c request)) := by
  cases hprepare : r.prepare c request with
  | error e =>
    simp only [Record.after, hprepare] at hafter
    exact absurd hafter hbefore
  | ok t =>
    simp only [Record.after, hprepare] at hafter ⊢
    apply ActiveThrough.activate hr hfills hprepare
    obtain ⟨_, hresolve, _⟩ := of_prepare hprepare
    rcases r.commit_refused_or_applied t with ⟨_, hrefused⟩ | ⟨_, _, _, _, happlied⟩
    · rw [hrefused] at hafter
      exact absurd hafter hbefore
    · rw [happlied, if_pos (of_resolve hfills hresolve).1]

/-- Such a terminal has a circuit identifier. -/
theorem ActiveThrough.identified (h : ActiveThrough c r) : Handled r ∧ r.Identified c := by
  induction h with
  | activate hr hfills hprepare hcommit =>
    refine ⟨.commit _ hr, ?_⟩
    obtain ⟨rfl, hresolve, _⟩ := of_prepare hprepare
    obtain ⟨old, _, hafter, hstate⟩ := terminal_commit_self hcommit
    refine ⟨_, hafter, ?_⟩
    split at hstate
    · next haction =>
      simp only [Transition.apply, haction, true_and]
      exact circuitId_of_resolve hfills hresolve
    · cases hstate
  | install notice _ ih =>
    obtain ⟨hr, t, hterminal, hactive, hcircuit⟩ := ih
    obtain ⟨_, h⟩ := hr.assembled
    exact ⟨.install notice hr, t, h.terminal_installCard hterminal notice, hactive, hcircuit⟩
  | change what _ hactive ih =>
    obtain ⟨_, h⟩ := ih.1.assembled
    exact ⟨.change what ih.1, h.identified_after ih.2 hactive⟩
  | commit t _ hne ih =>
    obtain ⟨hr, old, hterminal, hactive, hcircuit⟩ := ih
    obtain ⟨_, h⟩ := hr.assembled
    exact ⟨.commit t hr, old, h.terminal_commit_of_ne hterminal hne, hactive, hcircuit⟩
  | reload _ hread hport ih =>
    obtain ⟨hr, t, hterminal, hactive, hcircuit⟩ := ih
    obtain ⟨_, h⟩ := hr.assembled
    obtain ⟨here, hbound, ht⟩ := terminal_eq_ok_iff.mp hterminal
    refine ⟨.reached (.read hread), t, terminal_of_some (hport.trans hbound) ?_, hactive, hcircuit⟩
    rw [h.physical_of_read hread]
    exact ht

/-! ## Section 7: The whole view -/

/-- An inventory shows its record: all that there is to see, and nothing else. -/
structure ExactView (r : Record) : Prop where
  /-- Read flat, it has the lines of the ports in the order of their coordinates, -/
  lines     : r.inventory.lines = PortCoordinate.all.filterMap r.lineOf?
  /-- one for each bound port -/
  bound     : ∀ c, (r.lineOf? c).isSome ↔ (r.binding? c).isSome
  /-- and none twice. -/
  once      : (r.inventory.lines.map fun l => (l.slot, l.port.logical)).Nodup
  /-- Slots are listed by number. -/
  ordered   : (r.inventory.slots.map Inventory.Slot.number).Pairwise (· < ·)
  /-- No slot is empty, and neighbouring devices of a slot are different cards. -/
  devices   : ∀ s ∈ r.inventory.slots,
    s.devices ≠ [] ∧ s.devices.IsChain fun d e => d.card ≠ e.card
  /-- A device is a card of the record, and lists ports. -/
  cards     : ∀ s ∈ r.inventory.slots, ∀ d ∈ s.devices, d.ports ≠ [] ∧
    ∃ card, r.card d.card = .ok card ∧ d.address = card.address ∧ d.hostname = card.hostname
  /-- The terminals are those with a circuit identifier, each under its own coordinate. -/
  terminals : r.inventory.terminals =
    TerminalCoordinate.all.filterMap fun c => (r.viewOf? c).map (Prod.mk c.numbers)
  /-- A terminal is listed as active when that is its state. -/
  agrees    : ∀ c v, r.viewOf? c = some v → (v.active = true ↔ r.terminalState c = .active)
  /-- Whatever is active through an activation that fills in what is missing is listed once. -/
  activated : ∀ c, ActiveThrough c r → r.terminalState c = .active ∧
    ∃ v, r.viewOf? c = some v ∧ v.active = true ∧
      r.inventory.terminals.filter (fun e => e.1 = c.numbers) = [(c.numbers, v)]

theorem Assembled.nodup_lines (h : r.Assembled mounted) :
    (r.inventory.lines.map fun l => (l.slot, l.port.logical)).Nodup := by
  have hnumbers : ∀ c l, r.lineOf? c = some l → (l.slot, l.port.logical) = (c.slot, c.port) := by
    intro c l hl
    unfold lineOf? at hl
    split at hl
    · cases hl
    · split at hl
      · cases hl
      · cases hl
        rfl
  rw [h.inventory_lines, List.map_filterMap]
  apply PortCoordinate.nodup_all.filterMap
  intro c d key hc hd
  obtain ⟨l, hl, rfl⟩ := Option.map_eq_some_iff.mp hc
  obtain ⟨m, hm, hkey⟩ := Option.map_eq_some_iff.mp hd
  rw [hnumbers c l hl, hnumbers d m hm, Prod.mk.injEq] at hkey
  exact PortCoordinate.eq_of_numbers hkey.1.symm hkey.2.symm

theorem Assembled.pairwise_slots (h : r.Assembled mounted) :
    (r.inventory.slots.map Inventory.Slot.number).Pairwise (· < ·) := by
  rw [h.slots_eq, List.pairwise_map]
  apply List.Pairwise.filter
  rw [List.pairwise_map]
  apply (List.pairwise_lt_finRange _).imp
  intro i j hij
  exact Nat.succ_lt_succ hij

theorem Assembled.grouped_of_mem (h : r.Assembled mounted) {s : Inventory.Slot}
    (hs : s ∈ r.inventory.slots) : s.devices ≠ [] ∧ Inventory.Grouped r.physical s.devices := by
  rw [h.slots_eq, List.mem_filter] at hs
  obtain ⟨i, _, rfl⟩ := List.mem_map.mp hs.1
  exact ⟨by simpa using hs.2, (h.slotAt_lines i).1⟩

/-- **The inventory of a record** is an exact view of it. -/
theorem Handled.exactView (hr : Handled r) : ExactView r := by
  obtain ⟨mounted, h⟩ := hr.assembled
  refine {
    lines     := h.inventory_lines
    bound     := h.lineOf?_isSome_iff
    once      := h.nodup_lines
    ordered   := h.pairwise_slots
    devices   := ?_
    cards     := ?_
    terminals := h.inventory_terminals
    agrees    := ?_
    activated := ?_ }
  · intro s hs
    obtain ⟨hlisted, hgrouped⟩ := h.grouped_of_mem hs
    exact ⟨hlisted, hgrouped.apart⟩
  · intro s hs d hd
    obtain ⟨_, hgrouped⟩ := h.grouped_of_mem hs
    obtain ⟨⟨card, hcard, hshown⟩, hports⟩ := hgrouped.shows d hd
    exact ⟨hports, card, h.card_of_some hcard, hshown⟩
  · intro c v hv
    obtain ⟨t, hterminal, _, hactive⟩ := of_viewOf? hv
    simp only [hactive, terminalState, hterminal]
    by_cases ht : t.active = true
    · simp [ht]
    · simp [ht]
  · intro c hc
    obtain ⟨t, hterminal, hactive, hcircuit⟩ := hc.identified.2
    obtain ⟨v, hv, hshown⟩ := viewOf?_of_terminal hterminal hcircuit
    refine ⟨by simp only [terminalState, hterminal, hactive, if_true], v, hv,
      hshown.trans hactive, ?_⟩
    rw [h.filter_terminals, hv]
    rfl

/-- A terminal on the twelfth port. -/
def onTwelfth : TerminalCoordinate := ⟨Logical.coordinateAt 11 (by decide), ⟨44, by decide⟩⟩

/-- The record `oneCard` with this terminal activated. -/
def oneActive : Record := oneCard.after (.terminal onTwelfth (.activate "sn-45"))

theorem activeThrough_oneActive : ActiveThrough onTwelfth oneActive := by
  apply activeThrough_after (.reached reachable_oneCard) ⟨"sn-45", Or.inl rfl⟩
  · decide +kernel
  · decide +kernel

/-- All ports of the card are listed, and on one of them the terminal. -/
theorem exactView_oneActive :
    Handled oneActive ∧ ExactView oneActive ∧ ActiveThrough onTwelfth oneActive ∧
      oneActive.inventory.lines.length = 16 ∧
      oneActive.inventory.terminals.map Prod.fst = [(1, 12, 45)] :=
  ⟨.reached (.change _ reachable_oneCard),
    Handled.exactView (.reached (.change _ reachable_oneCard)), activeThrough_oneActive,
    by decide +kernel, by decide +kernel⟩

end Record

end ChassisRegistry
