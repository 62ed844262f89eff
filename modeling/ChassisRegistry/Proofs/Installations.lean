import ChassisRegistry.Proofs.Placement
import Mathlib.Data.List.Flatten
import Mathlib.Data.List.Perm.Subperm

/-! # Installing cards as they were described

    A card is described on one record and installed on another one, which may
    be the same record later on. The card is put behind the others before it
    is seen whether its description still fits, so a description that does
    not fit leaves a card whose ports are not bound. The ports that are bound
    are then no longer those of the first cards, but still those of whole
    cards in their order, and every later installation is one of four: it is
    refused at once, it leaves such a card, it finds no port left, or it
    binds all ports of its card.

    Main statement: `Record.Handled.installs`. -/

namespace ChassisRegistry.Record

open Logical (boundIn)
open Physical (Card)

/-! ## Section 1: The ports of whole cards -/

/-- The ports of the card of a number. -/
def cardPorts (number : Nat) : List DevicePort :=
  (List.range portsPerSlot).map fun j => ⟨number, j + 1⟩

theorem card_of_mem_cardPorts {number : Nat} {here : DevicePort} (h : here ∈ cardPorts number) :
    here.card = number := by
  obtain ⟨_, _, rfl⟩ := List.mem_map.mp h
  rfl

theorem length_flatMap_cardPorts (numbers : List Nat) :
    (numbers.flatMap cardPorts).length = numbers.length * portsPerSlot := by
  have hone : numbers.map (fun number => (cardPorts number).length) =
      numbers.map fun _ => portsPerSlot :=
    List.map_congr_left fun _ _ => by simp [cardPorts]
  rw [List.length_flatMap, hone, List.map_const', List.sum_replicate_nat]

theorem mem_of_mem_flatMap_cardPorts {numbers : List Nat} {here : DevicePort}
    (h : here ∈ numbers.flatMap cardPorts) : here.card ∈ numbers := by
  obtain ⟨number, hnumber, hhere⟩ := List.mem_flatMap.mp h
  rw [card_of_mem_cardPorts hhere]
  exact hnumber

theorem devicePorts_of_numbered {card : Card} {i : Nat} (h : card.Numbered i) :
    card.devicePorts = cardPorts card.number := by
  rw [h.devicePorts, CardDriver.portCount_eq, cardPorts]

/-- The ports of a numbered tree are those of the cards from 1 on. -/
theorem devicePorts_eq_flatMap {c : Physical.Chassis} (h : c.Numbered) :
    c.devicePorts = (List.range' 1 c.cards.length).flatMap cardPorts := by
  have hnumbers : c.cards.map Card.number = List.range' 1 c.cards.length := by
    apply List.ext_getElem (by simp)
    intro i hi _
    rw [List.length_map] at hi
    rw [List.getElem_map, (h i _ (List.getElem?_eq_getElem hi)).1, List.getElem_range']
    omega
  rw [← hnumbers, List.flatMap_map, Physical.Chassis.devicePorts]
  apply List.flatMap_congr
  intro card hcard
  obtain ⟨i, hi, rfl⟩ := List.getElem_of_mem hcard
  exact devicePorts_of_numbered (h i _ (List.getElem?_eq_getElem hi))

/-! ## Section 2: Records with some cards bound -/

/-- The ports of the cards of some numbers are handed out, in this order; they may be fewer than
    there are cards. -/
structure Assembled (r : Record) (mounted : List Nat) : Prop where
  laidOut  : r.logical =
    .laidOut r.physical.site r.logical.rack r.logical.shelf (mounted.flatMap cardPorts)
  numbered : r.physical.Numbered
  linked   : r.physical.linked = r.physical
  ordered  : mounted.Sublist (List.range' 1 r.physical.cards.length)
  fits     : mounted.length ≤ slotsPerChassis
  few      : r.physical.cards.length ≤ Physical.greatestCard

variable {r : Record} {mounted : List Nat}

theorem Coherent.assembled (h : r.Coherent) :
    r.Assembled (List.range' 1 r.physical.cards.length) where
  laidOut  := by
    rw [← devicePorts_eq_flatMap h.numbered]
    exact h.laidOut
  numbered := h.numbered
  linked   := h.linked
  ordered  := List.Sublist.refl _
  fits     := by simpa using h.cards_le
  few      := Nat.le_trans h.cards_le (by decide)

theorem Assembled.length_le (h : r.Assembled mounted) :
    (mounted.flatMap cardPorts).length ≤ portCapacity := by
  rw [length_flatMap_cardPorts]
  exact Nat.mul_le_mul_right _ h.fits

theorem Assembled.remaining (h : r.Assembled mounted) :
    r.logical.remaining + mounted.length * portsPerSlot = portCapacity := by
  have hle := h.length_le
  rw [h.laidOut, Logical.Chassis.remaining_laidOut hle, ← length_flatMap_cardPorts]
  omega

/-- There is room for a card or for none of its ports, as whole cards are bound. -/
theorem Assembled.room_iff (h : r.Assembled mounted) (driver : CardDriver) :
    driver.portCount ≤ r.logical.remaining ↔ mounted.length < slotsPerChassis := by
  have hremaining := h.remaining
  have hcount := driver.portCount_eq
  simp only [portCapacity, slotsPerChassis, portsPerSlot] at *
  omega

theorem Assembled.binding?_eq (h : r.Assembled mounted) (c : PortCoordinate) :
    r.binding? c = boundIn (mounted.flatMap cardPorts) c :=
  binding?_of_laidOut h.laidOut c

theorem Assembled.mem_of_binding? (h : r.Assembled mounted) {c : PortCoordinate}
    {here : DevicePort} (hc : r.binding? c = some here) : here.card ∈ mounted := by
  rw [h.binding?_eq] at hc
  exact mem_of_mem_flatMap_cardPorts (List.mem_of_getElem? hc)

theorem Assembled.nodup (h : r.Assembled mounted) : (mounted.flatMap cardPorts).Nodup := by
  have hall := h.numbered.nodup_devicePorts
  rw [devicePorts_eq_flatMap h.numbered] at hall
  exact hall.sublist (h.ordered.flatMap cardPorts)

theorem Assembled.existsUnique_binding? (h : r.Assembled mounted) {here : DevicePort}
    (hmem : here ∈ mounted.flatMap cardPorts) : ∃! c, r.binding? c = some here := by
  obtain ⟨c, hc⟩ := Logical.exists_boundIn h.length_le hmem
  refine ⟨c, (h.binding?_eq c).trans hc, ?_⟩
  intro d hd
  rw [h.binding?_eq] at hd
  exact Logical.boundIn_injective h.nodup hd hc

/-- With every port bound the numbers are those of all cards. -/
theorem Assembled.coherent (h : r.Assembled mounted)
    (hall : ∀ card ∈ r.physical.cards, ∀ port ∈ card.ports,
      ∃ c, r.binding? c = some ⟨card.number, port.number⟩) : r.Coherent := by
  have hsub : List.range' 1 r.physical.cards.length ⊆ mounted := by
    intro number hnumber
    rw [List.mem_range'_1] at hnumber
    -- The card of this number has a first port, and that is bound.
    obtain ⟨i, rfl⟩ := Nat.exists_eq_add_of_le' hnumber.1
    have hi : i < r.physical.cards.length := by omega
    obtain ⟨hcard, hlength, _⟩ := h.numbered i _ (List.getElem?_eq_getElem hi)
    have hport : 0 < r.physical.cards[i].ports.length := by
      rw [hlength, CardDriver.portCount_eq]
      decide
    obtain ⟨c, hc⟩ := hall _ (List.getElem_mem hi) _ (List.getElem_mem hport)
    rw [← hcard]
    exact h.mem_of_binding? hc
  have heq : mounted = List.range' 1 r.physical.cards.length :=
    h.ordered.eq_of_length_le ((List.nodup_range' 1).subperm hsub).length_le
  have hports : r.physical.devicePorts = mounted.flatMap cardPorts := by
    rw [heq, devicePorts_eq_flatMap h.numbered]
  exact {
    laidOut  := by rw [hports]; exact h.laidOut
    numbered := h.numbered
    linked   := h.linked
    fits     := by rw [hports]; exact h.length_le }

theorem Assembled.withCredentials (h : r.Assembled mounted) (user password : String) :
    (r.withCredentials user password).Assembled mounted where
  laidOut  := h.laidOut
  numbered := h.numbered
  linked   := by
    have hcards : r.physical.cards.map (Card.linked r.physical.site) = r.physical.cards :=
      congrArg Physical.Chassis.cards h.linked
    simp only [Record.withCredentials, Physical.Chassis.linked, hcards]
  ordered  := h.ordered
  fits     := h.fits
  few      := h.few

theorem Assembled.commit (h : r.Assembled mounted) (t : Transition) :
    (r.commit t).2.Assembled mounted := by
  rcases r.commit_cases t with hsame | ⟨i, j, k, hchanged⟩
  · rw [hsame]
    exact h
  · have hlength : (r.physical.changeTerminal i j k t.apply).cards.length =
        r.physical.cards.length := List.length_modify _ _ _
    rw [hchanged]
    exact {
      laidOut  := h.laidOut
      numbered := numbered_apply h.numbered t i j k
      linked   := linked_apply h.linked t i j k
      ordered  := by rw [hlength]; exact h.ordered
      fits     := h.fits
      few      := by rw [hlength]; exact h.few }

/-! ## Section 3: Installing -/

/-- The card of a notice, with the next number. -/
def cardOf (r : Record) (notice : CardNotice) : Card :=
  (Card.vacant (r.physical.cards.length + 1) notice.driver notice.address notice.hostname).linked
    r.physical.site

theorem numbered_cardOf (r : Record) (notice : CardNotice) :
    (r.cardOf notice).Numbered r.physical.cards.length :=
  (Card.numbered_linked _).mpr (numbered_vacant _ _ _ _)

theorem devicePorts_cardOf (r : Record) (notice : CardNotice) :
    (r.cardOf notice).devicePorts = cardPorts (r.physical.cards.length + 1) :=
  devicePorts_of_numbered (r.numbered_cardOf notice)

/-- The record with the card of a notice, whose ports are not bound. -/
def withLoose (r : Record) (notice : CardNotice) : Record :=
  { r with physical := r.physical.withCard (r.cardOf notice) }

/-- The record with the card of a notice, whose ports are bound behind those that were. -/
def withMounted (r : Record) (mounted : List Nat) (notice : CardNotice) : Record where
  logical  := .laidOut r.physical.site r.logical.rack r.logical.shelf
    ((mounted ++ [r.physical.cards.length + 1]).flatMap cardPorts)
  physical := r.physical.withCard (r.cardOf notice)

/-- What installing comes to. -/
theorem Assembled.installCard_eq (h : r.Assembled mounted) (notice : CardNotice) :
    r.installCard notice =
      if notice.site ≠ r.site then (.error (.internal (.cardElsewhere notice.site r.site)), r)
      else if r.physical.cards.length = Physical.greatestCard then
        (.error (.internal .ordinalOverflow), r)
      else if notice.number ≠ r.physical.cards.length + 1 then
        (.error (.internal (.ordinalChanged notice.number (r.physical.cards.length + 1))),
          r.withLoose notice)
      else if mounted.length = slotsPerChassis then
        (.error (.exhausted r.site 1 0), r.withLoose notice)
      else (.ok notice.number, r.withMounted mounted notice) := by
  have hfew := h.few
  rw [installCard]
  split_ifs with hsite hfull hnumber hroom
  · rfl
  · rw [Physical.Chassis.nextCard, Physical.Chassis.nextNumber, if_neg (by omega)]
    rfl
  -- Otherwise the card is there, and the rest is what the binder does with its ports.
  all_goals
    have hcard : r.physical.nextCard notice.driver notice.address notice.hostname =
        .ok (r.cardOf notice) := by
      rw [Physical.Chassis.nextCard, Physical.Chassis.nextNumber, if_pos (by omega)]
      rfl
    have hnext : (r.cardOf notice).number = r.physical.cards.length + 1 := rfl
  · simp only [hcard, hnext, if_pos (Ne.symm hnumber)]
    rfl
  · have hbound : (mounted.flatMap cardPorts).length = portCapacity := by
      rw [length_flatMap_cardPorts, hroom, portCapacity]
    have hbind := Logical.Chassis.bindEach_laidOut_of_lt r.physical.site r.logical.rack
      r.logical.shelf (cardPorts (r.physical.cards.length + 1)) h.length_le
      (by rw [hbound, cardPorts]; simp [portsPerSlot])
    rw [hbound, Nat.sub_self, List.take_zero, List.append_nil, ← h.laidOut] at hbind
    simp only [hcard, hnext, devicePorts_cardOf, hbind, not_not.mp hnumber, ne_eq,
      not_true_eq_false, if_false]
    rfl
  · have hlt : mounted.length + 1 ≤ slotsPerChassis := Nat.lt_of_le_of_ne h.fits hroom
    have hlength : (mounted.flatMap cardPorts).length +
        (cardPorts (r.physical.cards.length + 1)).length ≤ portCapacity := by
      have hone : (cardPorts (r.physical.cards.length + 1)).length = portsPerSlot := by
        simp [cardPorts]
      rw [length_flatMap_cardPorts, hone, ← Nat.succ_mul]
      exact Nat.mul_le_mul_right _ hlt
    have hbind := @Logical.Chassis.bindEach_laidOut r.physical.site r.logical.rack
      r.logical.shelf _ (cardPorts (r.physical.cards.length + 1)) hlength
    rw [← h.laidOut] at hbind
    simp only [hcard, hnext, devicePorts_cardOf, hbind, not_not.mp hnumber, ne_eq,
      not_true_eq_false, if_false]
    simp only [withMounted, List.flatMap_append, List.flatMap_cons, List.flatMap_nil,
      List.append_nil]

theorem Assembled.withLoose (h : r.Assembled mounted)
    (hroom : r.physical.cards.length ≠ Physical.greatestCard) (notice : CardNotice) :
    (r.withLoose notice).Assembled mounted where
  laidOut  := h.laidOut
  numbered := h.numbered.withCard (r.numbered_cardOf notice)
  linked   := Physical.Chassis.linked_withCard h.linked (Card.linked_linked _ _)
  ordered  := by
    rw [Record.withLoose, Physical.Chassis.withCard, List.length_append, List.length_singleton,
      List.range'_1_concat]
    exact h.ordered.trans (List.sublist_append_left _ _)
  fits     := h.fits
  few      := by
    have hfew := h.few
    rw [Record.withLoose, Physical.Chassis.withCard, List.length_append, List.length_singleton]
    omega

theorem Assembled.withMounted (h : r.Assembled mounted)
    (hroom : r.physical.cards.length ≠ Physical.greatestCard)
    (hports : mounted.length ≠ slotsPerChassis) (notice : CardNotice) :
    (r.withMounted mounted notice).Assembled (mounted ++ [r.physical.cards.length + 1]) where
  laidOut  := rfl
  numbered := (h.withLoose hroom notice).numbered
  linked   := (h.withLoose hroom notice).linked
  ordered  := by
    rw [Record.withMounted, Physical.Chassis.withCard, List.length_append, List.length_singleton,
      List.range'_1_concat, Nat.add_comm 1]
    exact h.ordered.append (List.Sublist.refl _)
  fits     := by
    have hfits := h.fits
    rw [List.length_append, List.length_singleton]
    omega
  few      := (h.withLoose hroom notice).few

/-- Whatever is installed, some cards are bound and the others are not. -/
theorem Assembled.installCard (h : r.Assembled mounted) (notice : CardNotice) :
    ∃ mounted', (r.installCard notice).2.Assembled mounted' := by
  rw [h.installCard_eq]
  split_ifs with hsite hfull hnumber hports
  · exact ⟨_, h⟩
  · exact ⟨_, h⟩
  · exact ⟨_, h.withLoose hfull notice⟩
  · exact ⟨_, h.withLoose hfull notice⟩
  · exact ⟨_, h.withMounted hfull hports notice⟩

theorem Assembled.attachCard (h : r.Assembled mounted) (driver : CardDriver)
    (address : SocketAddress) (hostname : String) :
    ∃ mounted', (r.attachCard driver address hostname).2.Assembled mounted' := by
  rw [Record.attachCard]
  split
  · exact ⟨_, h⟩
  · exact h.installCard _

theorem Assembled.after (h : r.Assembled mounted) (what : Change) :
    ∃ mounted', (r.after what).Assembled mounted' := by
  cases what with
  | login user password => exact ⟨_, h.withCredentials user password⟩
  | attach driver address hostname => exact h.attachCard driver address hostname
  | terminal c request =>
    simp only [Record.after]
    split
    · exact ⟨_, h.commit _⟩
    · exact ⟨_, h⟩

/-! ## Section 4: Records that were handled -/

/-- The records that come about when cards are installed from any notices, in any order with the
    changes of a record. A notice may have been described at any time and on any record, and
    installing it may have failed; a transition may have been prepared at any time. -/
inductive Handled : Record → Prop where
  | reached {r : Record} (hr : Reachable r) : Handled r
  | install {r : Record} (notice : CardNotice) (hr : Handled r) : Handled (r.installCard notice).2
  | change {r : Record} (what : Change) (hr : Handled r) : Handled (r.after what)
  | commit {r : Record} (t : Transition) (hr : Handled r) : Handled (r.commit t).2

theorem Handled.assembled (h : Handled r) : ∃ mounted, r.Assembled mounted := by
  induction h with
  | reached hr => exact ⟨_, hr.coherent.assembled⟩
  | install notice _ ih =>
    obtain ⟨_, hassembled⟩ := ih
    exact hassembled.installCard notice
  | change what _ ih =>
    obtain ⟨_, hassembled⟩ := ih
    exact hassembled.after what
  | commit t _ ih =>
    obtain ⟨_, hassembled⟩ := ih
    exact ⟨_, hassembled.commit t⟩

/-! ## Section 5: Reading back -/

theorem Assembled.read_write_eq_join (h : r.Assembled mounted) :
    Snapshot.read (Snapshot.write r).toUTF8 = join r.logical.kept r.physical.kept := by
  have hl : ∀ s ∈ r.logical.slots, s.Small := by
    rw [h.laidOut]
    exact Logical.Chassis.small_of_fits (Logical.Chassis.fits_laidOut _ _ _ _)
  exact (Snapshot.givesBoth_write hl (h.numbered.small h.few)).read

/-- Only the physical half is read as it was; the bindings are made again. -/
theorem Assembled.physical_of_read (h : r.Assembled mounted) {back : Record}
    (hread : Snapshot.read (Snapshot.write r).toUTF8 = .ok back) : back.physical = r.physical := by
  rw [h.read_write_eq_join] at hread
  obtain ⟨hsite, hl, hp, hfit⟩ := fits_of_join hread
  rw [join_of_fits hsite hl hp hfit] at hread
  cases hread
  show r.physical.kept.linked = r.physical
  rw [Physical.Chassis.linked_kept, h.linked]

/-- The record with the ports of all its cards bound in their order. -/
def withAllBound (r : Record) : Record :=
  { r with
    logical := .laidOut r.physical.site r.logical.rack r.logical.shelf r.physical.devicePorts }

theorem Assembled.read_bound (h : r.Assembled mounted)
    (hcards : r.physical.cards.length ≤ slotsPerChassis) :
    Snapshot.read (Snapshot.write r).toUTF8 = .ok r.withAllBound := by
  have hsite : r.logical.site = r.physical.site := by
    rw [h.laidOut]
    rfl
  have hfits : r.logical.Fits := by
    rw [h.laidOut]
    exact Logical.Chassis.fits_laidOut _ _ _ _
  have hports : r.physical.devicePorts.length ≤ portCapacity := by
    rw [h.numbered.length_devicePorts]
    exact Nat.mul_le_mul_right _ hcards
  rw [h.read_write_eq_join]
  exact join_kept_of_fits hsite hfits h.numbered h.linked hports

/-- The bindings are read back exactly when no card was left with its ports unbound. -/
theorem Assembled.reload_iff (h : r.Assembled mounted) :
    (∃ back, Snapshot.read (Snapshot.write r).toUTF8 = .ok back ∧ back.binding? = r.binding?) ↔
      ∀ card ∈ r.physical.cards, ∀ port ∈ card.ports,
        ∃ c, r.binding? c = some ⟨card.number, port.number⟩ := by
  constructor
  · rintro ⟨back, hread, hbindings⟩ card hcard port hport
    obtain ⟨l, p, hjoin⟩ := join_of_read hread
    rw [← h.physical_of_read hread] at hcard
    have hmem : ⟨card.number, port.number⟩ ∈ back.physical.devicePorts :=
      List.mem_flatMap.mpr ⟨card, hcard, List.mem_map.mpr ⟨port, hport, rfl⟩⟩
    obtain ⟨c, hc, _⟩ := (coherent_of_join hjoin).existsUnique_binding? hmem
    exact ⟨c, by rw [← hbindings]; exact hc⟩
  · intro hall
    exact ⟨r, (h.coherent hall).read_written, rfl⟩

/-! ## Section 6: All, or a card that is left -/

/-- Does a notice fit the record: it is for its site and numbers the card that comes next, there
    may be one more card, and there are ports for it? -/
structure Suits (r : Record) (notice : CardNotice) : Prop where
  site   : notice.site = r.site
  number : notice.number = r.physical.cards.length + 1
  more   : r.physical.cards.length < Physical.greatestCard
  ports  : notice.driver.portCount ≤ r.logical.remaining

/-- Is a notice refused before anything is installed? -/
def Screened (r : Record) (notice : CardNotice) : Prop :=
  notice.site ≠ r.site ∨ r.physical.cards.length = Physical.greatestCard

/-- One card was installed, that of the notice, and its ports are bound. -/
structure Installed (r : Record) (notice : CardNotice) (after : Record) : Prop where
  physical  : after.physical = r.physical.withCard (r.cardOf notice)
  number    : (r.cardOf notice).number = notice.number
  bound     : ∀ port ∈ (r.cardOf notice).ports,
    ∃! c, after.binding? c = some ⟨notice.number, port.number⟩
  /-- The ports of other cards are bound as they were. -/
  others    : ∀ c here, here.card ≠ notice.number →
    (after.binding? c = some here ↔ r.binding? c = some here)
  remaining : after.logical.remaining + notice.driver.portCount = r.logical.remaining

/-- The card of the notice was left in the record, and none of its ports is bound. -/
structure Left (r : Record) (notice : CardNotice) (after : Record) : Prop where
  logical  : after.logical = r.logical
  physical : after.physical = r.physical.withCard (r.cardOf notice)
  unbound  : ∀ c here, here.card = (r.cardOf notice).number → after.binding? c ≠ some here
  /-- The bindings are not read back. -/
  shifted  : ∀ back, Snapshot.read (Snapshot.write after).toUTF8 = .ok back →
    back.binding? ≠ after.binding?

theorem Assembled.left (h : r.Assembled mounted)
    (hroom : r.physical.cards.length ≠ Physical.greatestCard) (notice : CardNotice) :
    Left r notice (r.withLoose notice) := by
  have hafter := h.withLoose hroom notice
  have hunbound : ∀ c here, here.card = (r.cardOf notice).number →
      (r.withLoose notice).binding? c ≠ some here := by
    intro c here hcard hc
    -- Only cards that were there before have ports bound.
    have hmem := h.ordered.subset (hafter.mem_of_binding? hc)
    rw [hcard, (r.numbered_cardOf notice).1, List.mem_range'_1] at hmem
    omega
  refine ⟨rfl, rfl, hunbound, ?_⟩
  intro back hread hbindings
  have hports : 0 < (r.cardOf notice).ports.length := by
    rw [(r.numbered_cardOf notice).2.1, CardDriver.portCount_eq]
    decide
  obtain ⟨c, hc⟩ := hafter.reload_iff.mp ⟨back, hread, hbindings⟩ (r.cardOf notice)
    (List.mem_append_right _ (List.mem_singleton_self _)) _ (List.getElem_mem hports)
  exact hunbound c _ rfl hc

theorem Assembled.installed (h : r.Assembled mounted) {notice : CardNotice}
    (hsuits : r.Suits notice) : Installed r notice (r.withMounted mounted notice) := by
  have hmounted : mounted.length < slotsPerChassis :=
    (h.room_iff notice.driver).mp hsuits.ports
  have hafter := h.withMounted (Nat.ne_of_lt hsuits.more) (Nat.ne_of_lt hmounted) notice
  have hnumber : (r.cardOf notice).number = notice.number := hsuits.number.symm
  refine ⟨rfl, hnumber, ?_, ?_, ?_⟩
  · intro port hport
    apply hafter.existsUnique_binding?
    have hmem : ⟨(r.cardOf notice).number, port.number⟩ ∈ (r.cardOf notice).devicePorts :=
      List.mem_map.mpr ⟨port, hport, rfl⟩
    rw [devicePorts_cardOf, hnumber] at hmem
    rw [List.flatMap_append, List.mem_append]
    right
    simpa using hmem
  · intro c here hother
    rw [hafter.binding?_eq, h.binding?_eq, boundIn, boundIn, List.flatMap_append,
      List.getElem?_append]
    split
    · rfl
    -- Behind the old ports there are only those of the new card.
    · next hlt =>
      constructor
      · intro hc
        have hmem := mem_of_mem_flatMap_cardPorts (List.mem_of_getElem? hc)
        rw [List.mem_singleton, ← hsuits.number] at hmem
        exact absurd hmem hother
      · intro hc
        obtain ⟨hpos, _⟩ := List.getElem?_eq_some_iff.mp hc
        exact absurd hpos hlt
  · have hbefore := h.remaining
    have hthen := hafter.remaining
    rw [List.length_append, List.length_singleton] at hthen
    rw [CardDriver.portCount_eq]
    simp only [portsPerSlot] at *
    omega

/-- What installing does to a record. -/
structure Installs (r : Record) : Prop where
  /-- A notice that fits is installed. -/
  installed : ∀ notice, r.Suits notice →
    ∃ after, r.installCard notice = (.ok notice.number, after) ∧ Installed r notice after
  /-- Any other is refused. It changes nothing if that is seen at first, else its card is left. -/
  refused   : ∀ notice, ¬ r.Suits notice →
    ∃ e after, r.installCard notice = (.error e, after) ∧
      (r.Screened notice → after = r) ∧ (¬ r.Screened notice → Left r notice after)
  /-- A notice fits as long as the record is as it was described on. -/
  described : ∀ driver address hostname notice,
    r.describeCard driver address hostname = .ok notice → r.Suits notice
  /-- Reading what was written binds the ports of all cards in their order, -/
  rebound   : r.physical.cards.length ≤ slotsPerChassis →
    Snapshot.read (Snapshot.write r).toUTF8 = .ok r.withAllBound
  /-- which are the bindings that were written exactly when no card was left. -/
  reload    : (∃ back, Snapshot.read (Snapshot.write r).toUTF8 = .ok back ∧
    back.binding? = r.binding?) ↔ ∀ card ∈ r.physical.cards, ∀ port ∈ card.ports,
      ∃ c, r.binding? c = some ⟨card.number, port.number⟩

theorem Assembled.installs_of_suits (h : r.Assembled mounted) {notice : CardNotice}
    (hsuits : r.Suits notice) :
    r.installCard notice = (.ok notice.number, r.withMounted mounted notice) := by
  have hmounted := (h.room_iff notice.driver).mp hsuits.ports
  rw [h.installCard_eq, if_neg (not_not.mpr hsuits.site), if_neg (Nat.ne_of_lt hsuits.more),
    if_neg (not_not.mpr hsuits.number), if_neg (Nat.ne_of_lt hmounted)]

theorem Assembled.installs_of_screened (h : r.Assembled mounted) {notice : CardNotice}
    (hscreened : r.Screened notice) : ∃ e, r.installCard notice = (.error e, r) := by
  rw [h.installCard_eq]
  by_cases hsite : notice.site ≠ r.site
  · rw [if_pos hsite]
    exact ⟨_, rfl⟩
  · rw [if_neg hsite, if_pos (hscreened.resolve_left hsite)]
    exact ⟨_, rfl⟩

theorem Assembled.installs_of_not_suits (h : r.Assembled mounted) {notice : CardNotice}
    (hscreened : ¬ r.Screened notice) (hsuits : ¬ r.Suits notice) :
    ∃ e, r.installCard notice = (.error e, r.withLoose notice) := by
  obtain ⟨hsite, hfull⟩ := not_or.mp hscreened
  rw [h.installCard_eq, if_neg hsite, if_neg hfull]
  split_ifs with hnumber hports
  · exact ⟨_, rfl⟩
  · exact ⟨_, rfl⟩
  -- All tests are passed only by a notice that fits.
  · have hmounted : mounted.length < slotsPerChassis := Nat.lt_of_le_of_ne h.fits hports
    exact absurd ⟨not_not.mp hsite, not_not.mp hnumber, Nat.lt_of_le_of_ne h.few hfull,
      (h.room_iff _).mpr hmounted⟩ hsuits

theorem suits_of_describeCard {driver : CardDriver} {address : SocketAddress} {hostname : String}
    {notice : CardNotice} (hdescribe : r.describeCard driver address hostname = .ok notice) :
    r.Suits notice := by
  have hports := (of_describeCard hdescribe).1
  unfold describeCard at hdescribe
  split at hdescribe
  · cases hdescribe
  · split at hdescribe
    · cases hdescribe
    · unfold Physical.Chassis.nextNumber at hdescribe
      split at hdescribe
      · next hlast =>
        cases hdescribe
        exact ⟨rfl, rfl, hlast, hports⟩
      · cases hdescribe

/-- **Installing a card** is all or nothing for a notice that is not stale. A stale one is refused
    too, but unless it is for another site its card stays behind with its ports unbound, and the
    bindings are others after the record was written and read back. -/
theorem Handled.installs (hr : Handled r) : Installs r := by
  obtain ⟨mounted, h⟩ := hr.assembled
  refine ⟨?_, ?_, fun _ _ _ _ => suits_of_describeCard, h.read_bound, h.reload_iff⟩
  · intro notice hsuits
    exact ⟨_, h.installs_of_suits hsuits, h.installed hsuits⟩
  · intro notice hsuits
    by_cases hscreened : r.Screened notice
    · obtain ⟨e, he⟩ := h.installs_of_screened hscreened
      exact ⟨e, r, he, fun _ => rfl, fun hnot => absurd hscreened hnot⟩
    · obtain ⟨e, he⟩ := h.installs_of_not_suits hscreened hsuits
      have hroom := (not_or.mp hscreened).2
      exact ⟨e, _, he, fun hyes => absurd hyes hscreened, fun _ => h.left hroom notice⟩

/-- The record that `oneCard` was made from. -/
def noCard : Record :=
  create oneCard.site oneCard.endpoint 1 2

/-- The notice of the card of `oneCard`, as it was described before the card was attached. -/
def firstNotice : CardNotice where
  site      := noCard.site
  number    := 1
  driver    := .adtran
  address   := .v4 ⟨10, 0, 0, 2⟩ 830
  hostname  := "card-1"
  portCount := 16
  endpoint  := noCard.endpoint

theorem describeCard_noCard :
    noCard.describeCard .adtran (.v4 ⟨10, 0, 0, 2⟩ 830) " card-1 " = .ok firstNotice := by
  decide +kernel

theorem installCard_noCard : noCard.installCard firstNotice = (.ok 1, oneCard) := by
  have hcoherent : noCard.Coherent := coherent_create _ _ _ _
  have hattach : noCard.attachCard .adtran (.v4 ⟨10, 0, 0, 2⟩ 830) " card-1 " =
      noCard.installCard firstNotice := by
    rw [Record.attachCard, describeCard_noCard]
  have haccepted := hcoherent.attachCard_accepted (of_describeCard describeCard_noCard).1
    (of_describeCard describeCard_noCard).2 (.v4 ⟨10, 0, 0, 2⟩ 830)
  rw [← hattach]
  exact Prod.ext (congrArg Prod.fst haccepted) rfl

/-- A second card is installed, also after the first notice was installed in vain. -/
theorem installs_oneCard :
    Handled oneCard ∧ oneCard.Suits { firstNotice with number := 2 } ∧ Installs oneCard ∧
      Installs (oneCard.installCard firstNotice).2 :=
  ⟨.reached reachable_oneCard, ⟨rfl, by decide, by decide, by decide +kernel⟩,
    Handled.installs (.reached reachable_oneCard),
    Handled.installs (.install firstNotice (.reached reachable_oneCard))⟩

/-- The first notice was described on the record without cards. Installing it again is refused, and
    yet there are two cards. The ports of the second one are not bound until the record is written
    and read back. -/
theorem stale_notice_leaves_card :
    let again := oneCard.installCard firstNotice
    let c : PortCoordinate := ⟨⟨1, by decide⟩, ⟨0, by decide⟩⟩
    noCard.describeCard .adtran (.v4 ⟨10, 0, 0, 2⟩ 830) " card-1 " = .ok firstNotice ∧
      noCard.installCard firstNotice = (.ok 1, oneCard) ∧
      again.1 = .error (.internal (.ordinalChanged 1 2)) ∧
      oneCard.physical.cards.length = 1 ∧ again.2.physical.cards.length = 2 ∧
      (∀ d here, again.2.binding? d = some here → here.card = 1) ∧
      ∃ back, Snapshot.read (Snapshot.write again.2).toUTF8 = .ok back ∧
        back.binding? c = some ⟨2, 1⟩ := by
  intro again c
  have h := reachable_oneCard.coherent.assembled
  have hagain : again =
      (.error (.internal (.ordinalChanged 1 2)), oneCard.withLoose firstNotice) := by
    show oneCard.installCard firstNotice = _
    rw [h.installCard_eq]
    rfl
  have hloose := h.withLoose (by decide) firstNotice
  have hread := hloose.read_bound (by decide)
  rw [hagain]
  refine ⟨describeCard_noCard, installCard_noCard, rfl, rfl, rfl, ?_, _, hread, ?_⟩
  · intro d here hd
    exact List.mem_singleton.mp (hloose.mem_of_binding? hd)
  · obtain ⟨_, _, hjoin⟩ := join_of_read hread
    rw [(coherent_of_join hjoin).binding?_eq]
    decide +kernel

end ChassisRegistry.Record
