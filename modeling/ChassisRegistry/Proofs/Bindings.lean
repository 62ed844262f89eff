import ChassisRegistry.Proofs.Coherence
import Mathlib.Algebra.Ring.Nat

/-! # How the ports of a record are handed out

    The binding of a logical port is not stored in a snapshot: it is made by
    the cursor when a card is attached, and made again when a record is read.
    In a coherent record both come to the same, which is said here without
    the cursor: the grid of logical ports holds the ports of the cards, in
    the order of attaching, and then unbound ports.

    Main statement: `Record.Reachable.handedOut`. -/

namespace ChassisRegistry

/-! ## Section 1: The grid -/

namespace Logical

variable {site : Site} {rack shelf : UInt32} {targets : List DevicePort}

theorem Chassis.ports_laidOut :
    (Chassis.laidOut site rack shelf targets).ports =
      PortCoordinate.all.map fun c => .laidOut c (boundIn targets c) := by
  simp only [Chassis.ports, Chassis.laidOut_slots, List.flatMap_map, Slot.laidOut_ports,
    PortCoordinate.all, List.map_flatMap, List.map_map]
  rfl

/-- Looking up more positions than there are items finds the items and then nothing. -/
theorem map_getElem?_range {α : Type} {xs : List α} {n : Nat} (h : xs.length ≤ n) :
    (List.range n).map (fun i => xs[i]?) =
      xs.map some ++ List.replicate (n - xs.length) none := by
  apply List.ext_getElem?
  intro i
  -- Up to the length both sides have the item, from there to `n` they have `none`, and then no
  -- item at all.
  rw [List.getElem?_map, List.getElem?_append, List.length_map]
  by_cases hi : i < xs.length
  · have hin : i < n := by omega
    simp [hi, hin]
  · rw [if_neg hi, List.getElem?_replicate]
    by_cases hin : i < n
    · have hrest : i - xs.length < n - xs.length := by omega
      have hnone : xs[i]? = none := List.getElem?_eq_none (by omega)
      simp [hin, hrest, hnone]
    · have hrest : ¬ i - xs.length < n - xs.length := by omega
      simp [hin, hrest]

theorem map_boundIn_all (h : targets.length ≤ portCapacity) :
    PortCoordinate.all.map (boundIn targets) =
      targets.map some ++ List.replicate (portCapacity - targets.length) none := by
  have hpos : PortCoordinate.all.map (boundIn targets) =
      (PortCoordinate.all.map position).map fun i => targets[i]? := by
    rw [List.map_map]
    rfl
  rw [hpos, map_position_all, map_getElem?_range h]

/-- Two ports with the same port behind them are one, when no port was handed out twice. -/
theorem boundIn_injective (hnodup : targets.Nodup) {c d : PortCoordinate} {here : DevicePort}
    (hc : boundIn targets c = some here) (hd : boundIn targets d = some here) : c = d := by
  obtain ⟨hclt, hcget⟩ := List.getElem?_eq_some_iff.mp hc
  obtain ⟨hdlt, hdget⟩ := List.getElem?_eq_some_iff.mp hd
  -- Both positions hold the same item of a list without duplicates, so they are one.
  apply position_injective
  exact (hnodup.getElem_inj_iff).mp (hcget.trans hdget.symm)

/-- Whatever was handed out is behind a port. -/
theorem exists_boundIn (h : targets.length ≤ portCapacity) {here : DevicePort}
    (hmem : here ∈ targets) : ∃ c, boundIn targets c = some here := by
  obtain ⟨i, hi, rfl⟩ := List.getElem_of_mem hmem
  refine ⟨coordinateAt i (by omega), ?_⟩
  rw [boundIn_of_position (position_coordinateAt i _), List.getElem?_eq_getElem hi]

end Logical

namespace Record

open Logical (boundIn)
open Physical (Card)

/-! ## Section 2: Bindings of a coherent record -/

variable {r : Record}

theorem binding?_of_laidOut {site : Site} {rack shelf : UInt32} {targets : List DevicePort}
    (hlaid : r.logical = .laidOut site rack shelf targets) (c : PortCoordinate) :
    r.binding? c = boundIn targets c := by
  rw [binding?, hlaid, Logical.Chassis.port?_laidOut]
  rfl

theorem Coherent.binding?_eq (h : r.Coherent) (c : PortCoordinate) :
    r.binding? c = boundIn r.physical.devicePorts c :=
  binding?_of_laidOut h.laidOut c

theorem Coherent.grid (h : r.Coherent) :
    r.logical.ports.map Logical.Port.bound = PortCoordinate.all.map r.binding? := by
  have hlookup : PortCoordinate.all.map r.binding? =
      PortCoordinate.all.map (boundIn r.physical.devicePorts) :=
    List.map_congr_left fun c _ => h.binding?_eq c
  rw [hlookup, h.laidOut, Logical.Chassis.ports_laidOut, List.map_map]
  rfl

theorem Coherent.mem_devicePorts (h : r.Coherent) {c : PortCoordinate} {here : DevicePort}
    (hc : r.binding? c = some here) : here ∈ r.physical.devicePorts := by
  rw [h.binding?_eq] at hc
  exact List.mem_of_getElem? hc

theorem Coherent.binding?_injective (h : r.Coherent) {c d : PortCoordinate} {here : DevicePort}
    (hc : r.binding? c = some here) (hd : r.binding? d = some here) : c = d := by
  rw [h.binding?_eq] at hc hd
  exact Logical.boundIn_injective h.numbered.nodup_devicePorts hc hd

theorem Coherent.existsUnique_binding? (h : r.Coherent) {here : DevicePort}
    (hmem : here ∈ r.physical.devicePorts) : ∃! c, r.binding? c = some here := by
  obtain ⟨c, hc⟩ := Logical.exists_boundIn h.fits hmem
  rw [← h.binding?_eq] at hc
  exact ⟨c, hc, fun d hd => h.binding?_injective hd hc⟩

/-! ## Section 3: The cards -/

theorem Coherent.cards_le (h : r.Coherent) : r.physical.cards.length ≤ slotsPerChassis := by
  have hfits := h.fits
  rw [h.numbered.length_devicePorts] at hfits
  simp only [portCapacity, slotsPerChassis, portsPerSlot] at *
  omega

/-- A card is found at the numbers from 1 to the number of cards, and nowhere else. -/
theorem Coherent.card_eq (h : r.Coherent) (k : Nat) :
    r.card k = if hk : 1 ≤ k ∧ k ≤ r.physical.cards.length
      then .ok (r.physical.cards.get ⟨k - 1, by omega⟩)
      else .error (.unprovisionedSlot r.site k) := by
  -- There are at most sixteen cards, so the test for the greatest card number refuses none of them.
  have hcards := h.cards_le
  by_cases hk : 1 ≤ k ∧ k ≤ r.physical.cards.length
  · have hgreatest : k ≤ Physical.greatestCard := by
      simp only [slotsPerChassis, Physical.greatestCard] at *
      omega
    have hfound : r.physical.card? k = some (r.physical.cards.get ⟨k - 1, by omega⟩) := by
      obtain ⟨i, rfl⟩ := Nat.exists_eq_add_one.mpr hk.1
      rw [Physical.Chassis.card?, numbered?_succ, List.getElem?_eq_getElem (by omega)]
      rfl
    rw [card, if_pos hgreatest, hfound, dif_pos hk]
  · have hnone : r.physical.card? k = none := by
      cases k with
      | zero => rfl
      | succ i =>
        rw [Physical.Chassis.card?, numbered?_succ]
        exact List.getElem?_eq_none (by omega)
    rw [card, hnone, ite_self, dif_neg hk]

/-- The ports of the cards by number. -/
theorem Coherent.devicePorts_eq (h : r.Coherent) :
    r.physical.devicePorts = r.physical.cards.flatMap fun card =>
      (List.range card.driver.portCount).map fun j => ⟨card.number, j + 1⟩ := by
  rw [Physical.Chassis.devicePorts]
  apply List.flatMap_congr
  intro card hcard
  obtain ⟨i, hi, rfl⟩ := List.getElem_of_mem hcard
  exact (h.numbered i _ (List.getElem?_eq_getElem hi)).devicePorts

theorem length_devicePorts_eq (r : Record) :
    r.physical.devicePorts.length = (r.physical.cards.map fun card => card.ports.length).sum := by
  have hcard : ∀ card : Card, card.devicePorts.length = card.ports.length :=
    fun card => List.length_map _
  simp only [Physical.Chassis.devicePorts, List.length_flatMap, hcard]

/-- Attaching either puts the card behind the others or changes nothing. -/
theorem Coherent.attachCard_eq (h : r.Coherent) (driver : CardDriver) (address : SocketAddress)
    (hostname : String) :
    r.attachCard driver address hostname =
      if driver.portCount ≤ r.logical.remaining ∧ Text.allBlank hostname = false then
        (.ok (r.physical.cards.length + 1), r.withNextCard driver address hostname)
      else
        (.error (if r.logical.remaining < driver.portCount
          then .exhausted r.site driver.portCount r.logical.remaining else .blank "hostname"), r) := by
  by_cases hok : driver.portCount ≤ r.logical.remaining ∧ Text.allBlank hostname = false
  · rw [if_pos hok]
    exact h.attachCard_accepted hok.1 hok.2 address
  · rw [if_neg hok]
    apply attachCard_refused
    rw [not_and_or, Nat.not_le, Bool.not_eq_false] at hok
    exact hok

/-! ## Section 4: Every reachable record -/

/-- The ports of a record are handed out to its cards in the order of attaching. -/
structure HandedOut (r : Record) : Prop where
  /-- Slot by slot and port by port, there are the ports of the cards and then unbound ports. -/
  grid : r.logical.ports.map Logical.Port.bound =
    (r.physical.cards.flatMap fun card =>
      (List.range card.driver.portCount).map fun j => some ⟨card.number, j + 1⟩) ++
    List.replicate r.logical.remaining none
  /-- The same is found by coordinates. -/
  lookup : PortCoordinate.all.map r.binding? = r.logical.ports.map Logical.Port.bound
  /-- Every port of a card is behind exactly one logical port. -/
  behindOne : ∀ card ∈ r.physical.cards, ∀ port ∈ card.ports,
    ∃! c, r.binding? c = some ⟨card.number, port.number⟩
  /-- No two logical ports share the port behind them. -/
  unshared : ∀ c d here, r.binding? c = some here → r.binding? d = some here → c = d
  /-- The physical ports and what remains are the 256 logical ports. -/
  remaining : r.logical.remaining + (r.physical.cards.map fun card => card.ports.length).sum = 256
  /-- Every card has the ports of its family, numbered by position, as is the card. -/
  numbered : ∀ i card, r.physical.cards[i]? = some card → card.number = i + 1 ∧
    card.ports.map Physical.Port.number = (List.range card.driver.portCount).map (· + 1)
  /-- A card is found at the numbers from 1 to the number of cards, and nowhere else. -/
  card : ∀ k, r.card k = if hk : 1 ≤ k ∧ k ≤ r.physical.cards.length
    then .ok (r.physical.cards.get ⟨k - 1, by omega⟩)
    else .error (.unprovisionedSlot r.site k)
  /-- A card is attached when its ports are left and its host has a name; else nothing changes. -/
  attach : ∀ driver address hostname, r.attachCard driver address hostname =
    if driver.portCount ≤ r.logical.remaining ∧ Text.allBlank hostname = false then
      (.ok (r.physical.cards.length + 1), r.withNextCard driver address hostname)
    else
      (.error (if r.logical.remaining < driver.portCount
        then .exhausted r.site driver.portCount r.logical.remaining else .blank "hostname"), r)

/-- **Handing out of ports**: in every reachable record the logical ports are bound, from the
    first, to the ports of the cards in the order of attaching. -/
theorem Reachable.handedOut (hr : Reachable r) : HandedOut r := by
  have h := hr.coherent
  have hcount := h.remaining
  rw [r.length_devicePorts_eq] at hcount
  refine {
    grid      := ?_
    lookup    := h.grid.symm
    behindOne := ?_
    unshared  := fun c d here hc hd => h.binding?_injective hc hd
    remaining := hcount
    numbered  := ?_
    card      := h.card_eq
    attach    := h.attachCard_eq }
  -- The grid shows what the look-up finds at every coordinate, and that is the list of handed out
  -- ports with nothing behind it.
  · have hremaining : portCapacity - r.physical.devicePorts.length = r.logical.remaining := by
      have := h.remaining
      omega
    have hlookup : PortCoordinate.all.map r.binding? =
        PortCoordinate.all.map (boundIn r.physical.devicePorts) :=
      List.map_congr_left fun c _ => h.binding?_eq c
    rw [h.grid, hlookup, Logical.map_boundIn_all h.fits, hremaining, h.devicePorts_eq,
      List.map_flatMap]
    simp only [List.map_map, Function.comp_def]
  · intro card hcard port hport
    apply h.existsUnique_binding?
    exact List.mem_flatMap.mpr ⟨card, hcard, List.mem_map.mpr ⟨port, hport, rfl⟩⟩
  · intro i card hcard
    have hnumbered := h.numbered i card hcard
    refine ⟨hnumbered.1, ?_⟩
    have hports := congrArg (List.map DevicePort.port) hnumbered.devicePorts
    simpa [Card.devicePorts, Function.comp_def] using hports

/-- A record with one card has sixteen ports bound and the others left. -/
theorem handedOut_oneCard :
    Reachable oneCard ∧ HandedOut oneCard ∧ oneCard.logical.remaining = 240 :=
  ⟨reachable_oneCard, Reachable.handedOut reachable_oneCard, by decide +kernel⟩

end Record

end ChassisRegistry
