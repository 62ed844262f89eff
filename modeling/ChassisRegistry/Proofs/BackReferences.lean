import ChassisRegistry.Proofs.Installations

/-! # Back-references

    A slot and a card refer to the site of their tree, a port to the number of
    its slot or card, and a terminal to the port that it is on. A physical
    terminal does so by the numbers of the card and the port, a logical one by
    a coordinate, which not all numbers have. Linking a tree of any shape and
    numbering makes all these references true and touches nothing else, so
    that the linked tree is the only one of its data with true references.
    They are true in every record, too, though nothing but the joining of
    halves sets them anew.

    Main statement: `Record.back_references`. -/

namespace ChassisRegistry

/-! ## Section 1: Linking -/

/-- A way of linking trees: it makes references true and keeps the data, and there is no other tree
    of this data with true references. -/
structure LinksOnly {Tree : Type} (Linked : Tree → Prop) (link data : Tree → Tree) : Prop where
  linked     : ∀ c, Linked (link c)
  kept       : ∀ c, data (link c) = data c
  unique     : ∀ c d, Linked d → data d = data c → d = link c
  idempotent : ∀ c, link (link c) = link c

/-- A way of linking that does not look at what it sets, and that changes nothing in a tree that is
    linked already. -/
theorem LinksOnly.of_fixed {Tree : Type} {Linked : Tree → Prop} {link data : Tree → Tree}
    (hlinked : ∀ c, Linked (link c)) (hfixed : ∀ c, Linked c → link c = c)
    (hkept : ∀ c, data (link c) = data c) (hblind : ∀ c, link (data c) = link c) :
    LinksOnly Linked link data where
  linked     := hlinked
  kept       := hkept
  unique     := by
    intro c d hd hdata
    calc d = link d := (hfixed d hd).symm
      _ = link (data d) := (hblind d).symm
      _ = link (data c) := by rw [hdata]
      _ = link c := hblind c
  idempotent := fun c => hfixed (link c) (hlinked c)

theorem map_eq_self {α : Type} {f : α → α} {xs : List α} (h : ∀ x ∈ xs, f x = x) :
    xs.map f = xs := by
  rw [List.map_congr_left h, List.map_id']

/-! ## Section 2: The logical half -/

namespace Logical

/-- The terminal refers to the port of these numbers, or to none when a chassis has no such port. -/
def Terminal.RefersTo (t : Terminal) (slot port : Nat) : Prop :=
  ∀ c, t.port = some c ↔ c.slot = slot ∧ c.port = port

/-- The port and its terminals refer to the slot of this number. -/
structure Port.Linked (slot : Nat) (p : Port) : Prop where
  parent   : p.slot = some slot
  children : ∀ t ∈ p.terminals, t.RefersTo slot p.number

/-- The slot refers to the site, and all below it to their parents. -/
structure Slot.Linked (site : Site) (s : Slot) : Prop where
  parent   : s.chassis = some site
  children : ∀ p ∈ s.ports, p.Linked s.number

/-- Every back-reference names its parent. -/
def Chassis.Linked (c : Chassis) : Prop :=
  ∀ s ∈ c.slots, s.Linked c.site

/-- A port without its back-references. -/
def Port.unlinked (p : Port) : Port :=
  { p with slot := none, terminals := p.terminals.map Terminal.kept }

/-- A slot without its back-references. -/
def Slot.unlinked (s : Slot) : Slot :=
  { s with chassis := none, ports := s.ports.map Port.unlinked }

/-- A tree without its back-references; bindings and the cursor stay. -/
def Chassis.unlinked (c : Chassis) : Chassis :=
  { c with slots := c.slots.map Slot.unlinked }

/-- What linking makes a terminal refer to. -/
theorem Terminal.refersTo_iff {t : Terminal} {slot port : Nat} :
    t.RefersTo slot port ↔ t.port = (PortCoordinate.ofNumbers slot port).toOption := by
  have hsome : ∀ c, (PortCoordinate.ofNumbers slot port).toOption = some c ↔
      c.slot = slot ∧ c.port = port := by
    intro c
    rw [← PortCoordinate.ofNumbers_eq_ok_iff]
    cases PortCoordinate.ofNumbers slot port <;> simp [Except.toOption]
  constructor
  · intro h
    apply Option.ext
    intro c
    rw [h c, hsome c]
  · intro h c
    rw [h, hsome c]

theorem Port.isLinked_linked (slot : Nat) (p : Port) : (p.linked slot).Linked slot where
  parent   := rfl
  children := List.forall_mem_map.mpr fun _ _ => Terminal.refersTo_iff.mpr rfl

theorem Slot.isLinked_linked (site : Site) (s : Slot) : (s.linked site).Linked site where
  parent   := rfl
  children := List.forall_mem_map.mpr fun p _ => p.isLinked_linked s.number

theorem Port.Linked.fixed {slot : Nat} {p : Port} (h : p.Linked slot) : p.linked slot = p := by
  rw [Port.mk.injEq]
  refine ⟨rfl, map_eq_self ?_, h.parent.symm, rfl⟩
  intro t ht
  rw [Terminal.mk.injEq]
  exact ⟨rfl, rfl, (Terminal.refersTo_iff.mp (h.children t ht)).symm⟩

theorem Slot.Linked.fixed {site : Site} {s : Slot} (h : s.Linked site) : s.linked site = s := by
  rw [Slot.mk.injEq]
  exact ⟨rfl, map_eq_self fun p hp => (h.children p hp).fixed, h.parent.symm⟩

theorem Port.unlinked_linked (slot : Nat) (p : Port) : (p.linked slot).unlinked = p.unlinked := by
  simp only [Port.unlinked, Port.linked, List.map_map]
  rfl

theorem Slot.unlinked_linked (site : Site) (s : Slot) : (s.linked site).unlinked = s.unlinked := by
  simp only [Slot.unlinked, Slot.linked, List.map_map, Function.comp_def, Port.unlinked_linked]

theorem Port.linked_unlinked (slot : Nat) (p : Port) : p.unlinked.linked slot = p.linked slot := by
  simp only [Port.unlinked, Port.linked, List.map_map]
  rfl

theorem Slot.linked_unlinked (site : Site) (s : Slot) :
    s.unlinked.linked site = s.linked site := by
  simp only [Slot.unlinked, Slot.linked, List.map_map, Function.comp_def, Port.linked_unlinked]

/-- Linking a logical tree, whatever its slots and ports are numbered. -/
theorem Chassis.linksOnly : LinksOnly Chassis.Linked Chassis.linked Chassis.unlinked := by
  apply LinksOnly.of_fixed
  · intro c
    exact List.forall_mem_map.mpr fun s _ => s.isLinked_linked c.site
  · intro c h
    rw [Chassis.mk.injEq]
    exact ⟨rfl, rfl, rfl, map_eq_self fun s hs => (h s hs).fixed, rfl⟩
  · intro c
    simp only [unlinked, linked, List.map_map, Function.comp_def, Slot.unlinked_linked]
  · intro c
    simp only [unlinked, linked, List.map_map, Function.comp_def, Slot.linked_unlinked]

/-- A port of the last slot has a coordinate, one of a slot behind that has none. -/
example (tags : TagPair) (p : Port) (h : p = ⟨2, [⟨1, tags, none⟩], none, none⟩) :
    (p.linked 16).terminals.map Terminal.port = [some ⟨⟨15, by decide⟩, ⟨1, by decide⟩⟩] ∧
      (p.linked 17).terminals.map Terminal.port = [none] := by
  subst h
  exact ⟨rfl, rfl⟩

end Logical

/-! ## Section 3: The physical half -/

namespace Physical

/-- The port and its terminals refer to the card of this number. -/
structure Port.Linked (card : Nat) (p : Port) : Prop where
  parent   : p.card = some card
  children : ∀ t ∈ p.terminals, t.port = some ⟨card, p.number⟩

/-- The card refers to the site, and all below it to their parents. -/
structure Card.Linked (site : Site) (c : Card) : Prop where
  parent   : c.chassis = some site
  children : ∀ p ∈ c.ports, p.Linked c.number

/-- Every back-reference names its parent. -/
def Chassis.Linked (c : Chassis) : Prop :=
  ∀ card ∈ c.cards, card.Linked c.site

theorem Port.isLinked_linked (card : Nat) (p : Port) : (p.linked card).Linked card where
  parent   := rfl
  children := List.forall_mem_map.mpr fun _ _ => rfl

theorem Card.isLinked_linked (site : Site) (c : Card) : (c.linked site).Linked site where
  parent   := rfl
  children := List.forall_mem_map.mpr fun p _ => p.isLinked_linked c.number

theorem Port.Linked.fixed {card : Nat} {p : Port} (h : p.Linked card) : p.linked card = p := by
  rw [Port.mk.injEq]
  refine ⟨rfl, map_eq_self ?_, h.parent.symm⟩
  intro t ht
  rw [Terminal.mk.injEq]
  exact ⟨rfl, rfl, rfl, (h.children t ht).symm⟩

theorem Card.Linked.fixed {site : Site} {c : Card} (h : c.Linked site) : c.linked site = c := by
  rw [Card.mk.injEq]
  exact ⟨rfl, rfl, rfl, rfl, map_eq_self fun p hp => (h.children p hp).fixed, h.parent.symm⟩

/-- Linking a physical tree, whatever its cards and ports are numbered. -/
theorem Chassis.linksOnly : LinksOnly Chassis.Linked Chassis.linked Chassis.kept := by
  apply LinksOnly.of_fixed
  · intro c
    exact List.forall_mem_map.mpr fun card _ => card.isLinked_linked c.site
  · intro c h
    rw [Chassis.mk.injEq]
    exact ⟨rfl, rfl, rfl, rfl, map_eq_self fun card hcard => (h card hcard).fixed⟩
  · exact Chassis.kept_linked
  · exact Chassis.linked_kept

end Physical

/-! ## Section 4: Every record -/

namespace Record

/-- The references of both halves are true, and linking either half again changes nothing. -/
structure Linked (r : Record) : Prop where
  logical       : r.logical.Linked
  physical      : r.physical.Linked
  logicalAgain  : r.logical.linked = r.logical
  physicalAgain : r.physical.linked = r.physical

theorem Handled.linked {r : Record} (hr : Handled r) : r.Linked := by
  obtain ⟨mounted, h⟩ := hr.assembled
  have hlogical : r.logical.linked = r.logical := by
    rw [h.laidOut, Logical.Chassis.linked_laidOut]
  exact {
    logical       := hlogical ▸ Logical.Chassis.linksOnly.linked r.logical
    physical      := h.linked ▸ Physical.Chassis.linksOnly.linked r.physical
    logicalAgain  := hlogical
    physicalAgain := h.linked }

/-- **Back-references**: linking makes the references of a tree of any shape and numbering name the
    parents and changes nothing else, and the halves of a record are linked however it was created,
    read, changed or added to. -/
theorem back_references :
    LinksOnly Logical.Chassis.Linked Logical.Chassis.linked Logical.Chassis.unlinked ∧
      LinksOnly Physical.Chassis.Linked Physical.Chassis.linked Physical.Chassis.kept ∧
      ∀ r, Handled r → r.Linked :=
  ⟨Logical.Chassis.linksOnly, Physical.Chassis.linksOnly, fun _ hr => hr.linked⟩

/-- The record with one card is linked, and so are its 16 ports. -/
theorem back_references_oneCard :
    Handled oneCard ∧ oneCard.Linked ∧
      oneCard.physical.cards.map (fun card => card.ports.map Physical.Port.card) =
        [List.replicate 16 (some 1)] :=
  ⟨.reached reachable_oneCard, back_references.2.2 oneCard (.reached reachable_oneCard),
    by decide +kernel⟩

end Record

end ChassisRegistry
