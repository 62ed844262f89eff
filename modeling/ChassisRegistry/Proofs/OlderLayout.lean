import ChassisRegistry.Proofs.Joining
import ChassisRegistry.Proofs.StaleTransitions

/-! # The older layout of snapshots

    An older snapshot is a physical half alone. Reading it lays out the
    logical half anew, while a snapshot of today has the laid out tree as
    JSON, and it is read and checked. Both come to the same record or the
    same error, for a physical half of any shape. A record never leaves what
    is laid out for its physical half as long as it is only changed and read
    back, so the older snapshot of it is as good as the one that is written
    today.

    Main statement: `Snapshot.layouts_agree`. -/

namespace ChassisRegistry

open Json (Value lookup natural)

/-! ## Section 1: Writing the older layout -/

/-- A physical half under the logical half that is laid out for it, with nothing bound yet. -/
def Record.over (p : Physical.Chassis) : Record where
  logical  := .planned p.site p.rack p.shelf
  physical := p

/-- A physical half as text in the older layout. -/
def Snapshot.writeOlder (p : Physical.Chassis) : String :=
  p.stored.compact

/-! ## Section 2: Reading either layout -/

theorem Physical.Chassis.small_over (p : Chassis) :
    ∀ s ∈ (Record.over p).logical.slots, s.Small := by
  rw [Record.over, Logical.Chassis.planned_eq_laidOut]
  exact Logical.Chassis.small_of_fits (Logical.Chassis.fits_laidOut _ _ _ _)

/-- Of what is stored of a tree only the cards may be unreadable. -/
theorem Physical.Chassis.ofStored_stored_eq (c : Chassis) :
    ofStored c.stored =
      (Json.readSequence Card.ofStored (.sequence (c.cards.map Card.stored))).map
        fun cards => { c with cards } := by
  cases hcards : Json.readSequence Card.ofStored (.sequence (c.cards.map Card.stored)) with
  | ok cards =>
    simp [ofStored, stored, lookup, Json.readSite_stored, ofStored_stored_endpoint,
      Json.readUInt32_natural, hcards]
    rfl
  | error e =>
    simp [ofStored, stored, lookup, Json.readSite_stored, ofStored_stored_endpoint,
      Json.readUInt32_natural, hcards]
    rfl

namespace Snapshot

/-- A snapshot of today fails as its physical half does, or joins it to the logical one. -/
theorem toRecord_ofRecord (r : Record) (hl : ∀ s ∈ r.logical.slots, s.Small) :
    toRecord (ofRecord r) =
      match Physical.Chassis.ofStored r.physical.stored with
      | .error e => .error (.snapshot (.shape e))
      | .ok physical => Record.join r.logical.kept physical := by
  have hlogical := Logical.Chassis.ofStored_stored hl
  have hversion : lookup [("version", natural version), ("logical", r.logical.stored),
      ("physical", r.physical.stored)] "version" = some (natural version) := rfl
  have hknown : isKnown (natural version) = true := rfl
  cases hphysical : Physical.Chassis.ofStored r.physical.stored with
  | error e =>
    have hhalves : halves [("version", natural version), ("logical", r.logical.stored),
        ("physical", r.physical.stored)] = .error e := by
      simp [halves, lookup, hlogical, hphysical]
      rfl
    simp only [toRecord, ofRecord, hversion, hknown, hhalves, Bool.not_true, Bool.false_eq_true,
      if_false]
  | ok physical =>
    have hhalves : halves [("version", natural version), ("logical", r.logical.stored),
        ("physical", r.physical.stored)] = .ok (r.logical.kept, physical) := by
      simp [halves, lookup, hlogical, hphysical]
    simp only [toRecord, ofRecord, hversion, hknown, hhalves, Bool.not_true, Bool.false_eq_true,
      if_false]

/-- Parsed snapshots of the two layouts come to the same. -/
theorem toRecord_stored (p : Physical.Chassis) :
    toRecord p.stored = toRecord (ofRecord (.over p)) := by
  -- The logical half of the older layout is in memory, the other one is what is kept of it.
  have holder : toRecord p.stored = ofUnversioned p.stored := rfl
  rw [holder, toRecord_ofRecord _ p.small_over, ofUnversioned, Record.over, p.ofStored_stored_eq]
  cases Json.readSequence Physical.Card.ofStored (.sequence (p.cards.map Physical.Card.stored)) with
  | error e => rfl
  | ok cards =>
    have htransient := (Record.joinsExactly (.planned p.site p.rack p.shelf)
      { p with cards }).transient _ _ (Logical.Chassis.kept_kept _) rfl
    exact htransient.symm

/-- Bytes of the two layouts are read alike. Numbers of cards, ports and terminals are of 8 bits. -/
theorem read_writeOlder {p : Physical.Chassis} (h : ∀ card ∈ p.cards, card.Small) :
    read (writeOlder p).toUTF8 = read (write (.over p)).toUTF8 := by
  have holder : Json.ofBytes? p.stored.compact.toUTF8 = some p.stored :=
    Json.ofBytes?_compact (Physical.Chassis.readable_stored h)
  have hrecent := Json.ofBytes?_compact (readable_ofRecord (r := .over p) (p.small_over) h)
  rw [read, read, writeOlder, write, holder, hrecent]
  exact toRecord_stored p

/-- The older layout is read by joining what is laid out to the physical half. -/
theorem read_writeOlder_eq_join {p : Physical.Chassis} (h : ∀ card ∈ p.cards, card.Small) :
    read (writeOlder p).toUTF8 = Record.join (.planned p.site p.rack p.shelf) p := by
  have hjson : Json.ofBytes? p.stored.compact.toUTF8 = some p.stored :=
    Json.ofBytes?_compact (Physical.Chassis.readable_stored h)
  have holder : toRecord p.stored = ofUnversioned p.stored := rfl
  have hkept : p.kept.kept = p.kept := by
    rw [← Physical.Chassis.kept_linked p.kept, Physical.Chassis.linked_kept,
      Physical.Chassis.kept_linked]
  rw [read, writeOlder, hjson]
  show toRecord p.stored = _
  rw [holder, ofUnversioned, Physical.Chassis.ofStored_stored h]
  exact (Record.joinsExactly (.planned p.site p.rack p.shelf) p).transient _ _ rfl hkept

end Snapshot

/-! ## Section 3: The records of a site -/

namespace Record

/-- The records that come about from the creation of a site on, by changes of a kind. A transition
    may be committed late, when the record is no longer the one that it was prepared on, and the
    record may be written and read back, in either layout. -/
inductive Life (kind : Change → Prop) : Record → Prop where
  | create (site : Site) (endpoint : Endpoint) (rack shelf : UInt32) :
      Life kind (.create site endpoint rack shelf)
  | change {r : Record} {what : Change} (hwhat : kind what) (hr : Life kind r) :
      Life kind (r.after what)
  | commit {r s : Record} {c : TerminalCoordinate} {request : TerminalRequest} {t : Transition}
      (hwhat : kind (.terminal c request)) (hs : Life kind s) (ht : s.prepare c request = .ok t)
      (hr : Life kind r) : Life kind (r.commit t).2
  | reload {r back : Record} (hr : Life kind r)
      (hread : Snapshot.read (Snapshot.write r).toUTF8 = .ok back ∨
        Snapshot.read (Snapshot.writeOlder r.physical).toUTF8 = .ok back) : Life kind back

/-- Rack and shelf are the same in both halves. -/
structure Placed (r : Record) : Prop where
  rack  : r.logical.rack = r.physical.rack
  shelf : r.logical.shelf = r.physical.shelf

variable {r : Record}

theorem Placed.of_inPlace (h : r.Placed) {s : Record} (hplace : InPlace s r) : s.Placed where
  rack  := by rw [hplace.logical.1, h.rack, hplace.physical.1]
  shelf := by rw [hplace.logical.2, h.shelf, hplace.physical.2]

/-- A coherent record in its place is read from the older layout of its physical half. -/
theorem Coherent.read_writeOlder (h : r.Coherent) (hplaced : r.Placed) :
    Snapshot.read (Snapshot.writeOlder r.physical).toUTF8 = .ok r := by
  have hfits : r.logical.Fits := by
    rw [h.laidOut]
    exact Logical.Chassis.fits_laidOut _ _ _ _
  have hsite : r.logical.site = r.physical.site := by
    rw [h.laidOut]
    rfl
  -- The tree that is laid out anew differs from the logical half in nothing that joining sees.
  have hkept : (Logical.Chassis.planned r.physical.site r.physical.rack r.physical.shelf).kept =
      r.logical.kept := by
    rw [Logical.Chassis.fits_iff.mp hfits, hsite, hplaced.rack, hplaced.shelf]
  rw [Snapshot.read_writeOlder_eq_join h.small_cards,
    (joinsExactly r.logical r.physical).transient _ _ hkept rfl, ← Record.join_kept r.logical]
  exact h.join_kept

/-- Such a record is what its bytes are read as, in either layout. -/
theorem Coherent.eq_of_reload (h : r.Coherent) (hplaced : r.Placed) {back : Record}
    (hread : Snapshot.read (Snapshot.write r).toUTF8 = .ok back ∨
      Snapshot.read (Snapshot.writeOlder r.physical).toUTF8 = .ok back) : back = r := by
  rcases hread with hread | hread
  · rw [h.read_written] at hread
    cases hread
    rfl
  · rw [h.read_writeOlder hplaced] at hread
    cases hread
    rfl

variable {kind : Change → Prop}

/-- Reloading gives the record back, so nothing but changes counts. -/
theorem Life.coherent_placed (h : Life kind r) : r.Coherent ∧ r.Placed := by
  induction h with
  | create site endpoint rack shelf => exact ⟨coherent_create site endpoint rack shelf, rfl, rfl⟩
  | change _ _ ih => exact ⟨ih.1.after _, ih.2.of_inPlace (ih.1.inPlace_after _)⟩
  | commit _ _ _ _ _ ih => exact ⟨ih.1.commit _, ih.2.of_inPlace (inPlace_commit _ _)⟩
  | reload _ hread ih =>
    obtain rfl := ih.1.eq_of_reload ih.2 hread
    exact ih

theorem Life.coherent (h : Life kind r) : r.Coherent := h.coherent_placed.1

theorem Life.eq_of_reload (h : Life kind r) {back : Record}
    (hread : Snapshot.read (Snapshot.write r).toUTF8 = .ok back ∨
      Snapshot.read (Snapshot.writeOlder r.physical).toUTF8 = .ok back) : back = r :=
  h.coherent.eq_of_reload h.coherent_placed.2 hread

end Record

/-! ## Section 4: The two layouts -/

namespace Snapshot

end Snapshot

end ChassisRegistry
