import ChassisRegistry.Proofs.Bindings
import ChassisRegistry.Proofs.JsonRoundTrip
import ChassisRegistry.Proofs.StoredForms
import Mathlib.Data.List.Basic

/-! # Snapshots read back

    The bytes of a record hold neither bindings nor cursor nor
    back-references. For a coherent record all of these follow from what the
    bytes do hold, so the record that is read is the one that was written.

    Main statement: `Record.Reachable.read_write`. -/

namespace ChassisRegistry

open Json (Value lookup natural optional)

/-! ## Section 1: What is written can be read as JSON -/

namespace Json

variable {depth : Nat}

theorem readable_natural {n : Nat} (h : n ≤ 4294967295) : (natural n).Readable depth := by
  apply Value.Readable.integer
  simp only [Fits64, greatest64]
  omega

theorem readable_number {n : Nat} (h : n ≤ 255) : (natural n).Readable depth :=
  readable_natural (by omega)

theorem readable_word (n : UInt32) : (natural n.toNat).Readable depth := by
  have hn : n.toNat < 4294967296 := n.toNat_lt
  exact readable_natural (by omega)

theorem readable_vlan (v : Vlan) : v.stored.Readable depth := by
  have := v.bounded
  exact readable_natural (by omega)

theorem readable_optional {α : Type} {write : α → Value} (h : ∀ x, (write x).Readable depth)
    (x : Option α) : (optional write x).Readable depth := by
  cases x with
  | none => exact .null
  | some x => exact h x

theorem readable_object {members : List (String × Value)}
    (h : members.Forall fun m => m.2.Readable depth) :
    (Value.object members).Readable (depth + 1) :=
  .object (List.forall_iff_forall_mem.mp h)

theorem readable_map {α : Type} {write : α → Value} {xs : List α}
    (h : ∀ x ∈ xs, (write x).Readable depth) :
    (Value.sequence (xs.map write)).Readable (depth + 1) := by
  apply Value.Readable.sequence
  intro v hv
  obtain ⟨x, hx, rfl⟩ := List.mem_map.mp hv
  exact h x hx

end Json

open Json

variable {depth : Nat}

namespace Logical

theorem Terminal.readable_stored {t : Terminal} (h : t.number ≤ 255) :
    t.stored.Readable (depth + 1) := by
  apply readable_object
  exact ⟨readable_number h, readable_vlan _, readable_vlan _⟩

theorem Port.readable_stored {p : Port} (h : p.Small) : p.stored.Readable (depth + 3) := by
  apply readable_object
  exact ⟨readable_number h.1, readable_map fun t ht => Terminal.readable_stored (h.2 t ht)⟩

theorem Slot.readable_stored {s : Slot} (h : s.Small) : s.stored.Readable (depth + 5) := by
  apply readable_object
  exact ⟨readable_number h.1, readable_map fun p hp => Port.readable_stored (h.2 p hp)⟩

theorem Chassis.readable_stored {c : Chassis} (h : ∀ s ∈ c.slots, s.Small) :
    c.stored.Readable (depth + 7) := by
  apply readable_object
  exact ⟨.text _, readable_word _, readable_word _,
    readable_map fun s hs => Slot.readable_stored (h s hs)⟩

end Logical

namespace Physical

theorem Terminal.readable_stored {t : Terminal} (h : t.number ≤ 255) :
    t.stored.Readable (depth + 1) := by
  apply readable_object
  exact ⟨readable_number h, .boolean _, .text _, readable_optional readable_vlan _,
    readable_optional readable_vlan _, .text _, .text _, readable_optional (fun s => .text s) _,
    readable_optional (fun s => .text s) _⟩

theorem Port.readable_stored {p : Port} (h : p.Small) : p.stored.Readable (depth + 3) := by
  apply readable_object
  exact ⟨readable_number h.1, readable_map fun t ht => Terminal.readable_stored (h.2 t ht)⟩

theorem Card.readable_stored {c : Card} (h : c.Small) : c.stored.Readable (depth + 5) := by
  apply readable_object
  exact ⟨readable_number h.1, .text _, .text _, .text _,
    readable_map fun p hp => Port.readable_stored (h.2 p hp)⟩

theorem readable_endpoint (e : Endpoint) : e.stored.Readable (depth + 1) := by
  apply readable_object
  exact ⟨.text _, .text _, .text _⟩

theorem Chassis.readable_stored {c : Chassis} (h : ∀ card ∈ c.cards, card.Small) :
    c.stored.Readable (depth + 7) := by
  apply readable_object
  exact ⟨.text _, readable_endpoint _, readable_word _, readable_word _,
    readable_map fun card hc => Card.readable_stored (h card hc)⟩

end Physical

theorem Snapshot.readable_ofRecord {r : Record} (hl : ∀ s ∈ r.logical.slots, s.Small)
    (hp : ∀ card ∈ r.physical.cards, card.Small) :
    (Snapshot.ofRecord r).Readable Outline.greatestDepth := by
  apply readable_object
  exact ⟨readable_number (by decide), Logical.Chassis.readable_stored hl,
    Physical.Chassis.readable_stored hp⟩

/-! ## Section 2: What is kept of a coherent record -/

namespace Logical

theorem Chassis.small_of_fits {c : Chassis} (h : c.Fits) : ∀ s ∈ c.slots, s.Small := by
  intro s hs
  obtain ⟨i, hi, rfl⟩ := List.getElem_of_mem hs
  have hi' : i < slotsPerChassis := by rwa [← h.1]
  obtain ⟨hnumber, hlength, hports⟩ := h.2 ⟨i, hi'⟩ _ (List.getElem?_eq_getElem hi)
  refine ⟨by rw [hnumber]; simp only [slotsPerChassis] at hi' ⊢; omega, ?_⟩
  intro p hp
  obtain ⟨j, hj, rfl⟩ := List.getElem_of_mem hp
  have hj' : j < portsPerSlot := by rwa [← hlength]
  obtain ⟨hnumber, hlength, hterminals⟩ := hports ⟨j, hj'⟩ _ (List.getElem?_eq_getElem hj)
  refine ⟨?_, ?_⟩
  · rw [hnumber, PortCoordinate.port]
    simp only [portsPerSlot] at hj' ⊢
    omega
  · intro t ht
    obtain ⟨k, hk, rfl⟩ := List.getElem_of_mem ht
    have hk' : k < terminalsPerPort := by rwa [← hlength]
    rw [(hterminals ⟨k, hk'⟩ _ (List.getElem?_eq_getElem hk)).1]
    simp only [terminalsPerPort] at hk' ⊢
    omega

theorem Port.fits_kept {p : Port} {c : PortCoordinate} : p.kept.Fits c ↔ p.Fits c := by
  simp only [Port.Fits, Port.kept, Terminal.kept, List.length_map, List.getElem?_map,
    Option.map_eq_some_iff, forall_exists_index, and_imp, forall_apply_eq_imp_iff₂]

theorem Slot.fits_kept {s : Slot} {i : Fin slotsPerChassis} : s.kept.Fits i ↔ s.Fits i := by
  simp only [Slot.Fits, Slot.kept, List.length_map, List.getElem?_map, Option.map_eq_some_iff,
    forall_exists_index, and_imp, forall_apply_eq_imp_iff₂, Port.fits_kept]

theorem Chassis.fits_kept {c : Chassis} : c.kept.Fits ↔ c.Fits := by
  simp only [Chassis.Fits, Chassis.kept, List.length_map, List.getElem?_map,
    Option.map_eq_some_iff, forall_exists_index, and_imp, forall_apply_eq_imp_iff₂, Slot.fits_kept]

end Logical

namespace Physical

theorem Chassis.Numbered.small {c : Chassis} (h : c.Numbered)
    (hcards : c.cards.length ≤ greatestCard) : ∀ card ∈ c.cards, card.Small := by
  intro card hcard
  obtain ⟨i, hi, rfl⟩ := List.getElem_of_mem hcard
  obtain ⟨hnumber, hlength, hports⟩ := h i _ (List.getElem?_eq_getElem hi)
  -- Numbers are positions and one, and no level has more than a slot's or a card's sixteen.
  have hcount := c.cards[i].driver.portCount_eq
  refine ⟨by rw [hnumber]; simp only [greatestCard] at hcards; omega, ?_⟩
  intro p hp
  obtain ⟨j, hj, rfl⟩ := List.getElem_of_mem hp
  obtain ⟨hport, hlength', hterminals⟩ := hports j _ (List.getElem?_eq_getElem hj)
  rw [hlength, hcount] at hj
  refine ⟨?_, ?_⟩
  · rw [hport]
    simp only [portsPerSlot] at hj
    omega
  · intro t ht
    obtain ⟨k, hk, rfl⟩ := List.getElem_of_mem ht
    rw [hterminals k _ (List.getElem?_eq_getElem hk)]
    rw [hlength'] at hk
    simp only [terminalsPerPort] at hk
    omega

theorem Chassis.small_of_numbered {c : Chassis} (h : c.Numbered)
    (hcards : c.cards.length ≤ slotsPerChassis) : ∀ card ∈ c.cards, card.Small :=
  h.small (Nat.le_trans hcards (by decide))

theorem Port.linked_kept (card : Nat) (p : Port) : p.kept.linked card = p.linked card := by
  simp only [Port.linked, Port.kept, List.map_map]
  rfl

theorem Card.linked_kept (site : Site) (c : Card) : c.kept.linked site = c.linked site := by
  simp only [Card.linked, Card.kept, List.map_map, Function.comp_def, Port.linked_kept]

/-- Linking puts all back-references back. -/
theorem Chassis.linked_kept (c : Chassis) : c.kept.linked = c.linked := by
  simp only [Chassis.linked, Chassis.kept, List.map_map, Function.comp_def, Card.linked_kept]

end Physical

/-! ## Section 3: Reading what was written -/

namespace Record

variable {r : Record}

/-- The halves that are stored join to the record with the ports of its cards handed out. -/
theorem join_kept_of_fits (hsite : r.logical.site = r.physical.site) (hl : r.logical.Fits)
    (hp : r.physical.Numbered) (hlinked : r.physical.linked = r.physical)
    (hfit : r.physical.devicePorts.length ≤ portCapacity) :
    join r.logical.kept r.physical.kept = .ok { r with
      logical := .laidOut r.physical.site r.logical.rack r.logical.shelf
        r.physical.devicePorts } := by
  have hports : r.physical.kept.devicePorts = r.physical.devicePorts := by
    rw [← Physical.Chassis.devicePorts_linked, Physical.Chassis.linked_kept,
      Physical.Chassis.devicePorts_linked]
  have hnumbered : r.physical.kept.Numbered := by
    rw [← Physical.Chassis.numbered_linked, Physical.Chassis.linked_kept, hlinked]
    exact hp
  have hkept : r.logical.kept.site = r.physical.kept.site := hsite
  rw [join_of_fits hkept (Logical.Chassis.fits_kept.mpr hl) hnumbered (by rw [hports]; exact hfit),
    hports, Physical.Chassis.linked_kept, hlinked]
  rfl

/-- The stored halves of a coherent record join to it, as it has its ports handed out. -/
theorem Coherent.join_kept (h : r.Coherent) : join r.logical.kept r.physical.kept = .ok r := by
  have hsite : r.logical.site = r.physical.site := by
    rw [h.laidOut]
    rfl
  have hfits : r.logical.Fits := by
    rw [h.laidOut]
    exact Logical.Chassis.fits_laidOut _ _ _ _
  rw [join_kept_of_fits hsite hfits h.numbered h.linked h.fits]
  exact congrArg (fun l => Except.ok (⟨l, r.physical⟩ : Record)) h.laidOut.symm

theorem Coherent.small_slots (h : r.Coherent) : ∀ s ∈ r.logical.slots, s.Small := by
  rw [h.laidOut]
  exact Logical.Chassis.small_of_fits (Logical.Chassis.fits_laidOut _ _ _ _)

theorem Coherent.small_cards (h : r.Coherent) : ∀ card ∈ r.physical.cards, card.Small :=
  Physical.Chassis.small_of_numbered h.numbered h.cards_le

/-- Both halves have stored forms that can be read, and what these lack is put back by joining. -/
theorem Coherent.toRecord_ofRecord (h : r.Coherent) :
    Snapshot.toRecord (Snapshot.ofRecord r) = .ok r := by
  have hlogical := Logical.Chassis.ofStored_stored h.small_slots
  have hphysical := Physical.Chassis.ofStored_stored h.small_cards
  have hhalves : Snapshot.halves [("version", natural Snapshot.version),
      ("logical", r.logical.stored), ("physical", r.physical.stored)] =
      .ok (r.logical.kept, r.physical.kept) := by
    simp [Snapshot.halves, lookup, hlogical, hphysical]
  have hversion : lookup [("version", natural Snapshot.version),
      ("logical", r.logical.stored), ("physical", r.physical.stored)] "version" =
      some (natural Snapshot.version) := rfl
  have hknown : Snapshot.isKnown (natural Snapshot.version) = true := rfl
  simp only [Snapshot.toRecord, Snapshot.ofRecord, hversion, hknown, hhalves, Bool.not_true,
    Bool.false_eq_true, if_false]
  exact h.join_kept

theorem Coherent.read_written (h : r.Coherent) :
    Snapshot.read (Snapshot.write r).toUTF8 = .ok r := by
  have hjson := Json.ofBytes?_compact (Snapshot.readable_ofRecord h.small_slots h.small_cards)
  rw [Snapshot.read, Snapshot.write, hjson]
  exact h.toRecord_ofRecord

/-- **Snapshot round trip**: every reachable record is read back from its bytes. So what is written
    of it again is what was written before, and two reachable records with the same bytes are
    one. -/
theorem Reachable.read_write (hr : Reachable r) :
    Snapshot.read (Snapshot.write r).toUTF8 = .ok r ∧
      (Snapshot.read (Snapshot.write r).toUTF8).map (fun back => (Snapshot.write back).toUTF8) =
        .ok (Snapshot.write r).toUTF8 ∧
      ∀ other, Reachable other → (Snapshot.write other).toUTF8 = (Snapshot.write r).toUTF8 →
        other = r := by
  have hback := hr.coherent.read_written
  refine ⟨hback, ?_, ?_⟩
  · rw [hback]
    rfl
  · intro other hother hbytes
    have hback' := hother.coherent.read_written
    rw [hbytes, hback] at hback'
    cases hback'
    rfl

/-- The record with one card is read back, and nothing else has its bytes. -/
theorem read_write_oneCard :
    Reachable oneCard ∧ Snapshot.read (Snapshot.write oneCard).toUTF8 = .ok oneCard ∧
      ∀ other, Reachable other →
        (Snapshot.write other).toUTF8 = (Snapshot.write oneCard).toUTF8 → other = oneCard :=
  ⟨reachable_oneCard, (Reachable.read_write reachable_oneCard).1,
    (Reachable.read_write reachable_oneCard).2.2⟩

end Record

end ChassisRegistry
