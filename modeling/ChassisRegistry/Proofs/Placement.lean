import ChassisRegistry.Proofs.Identifiers
import ChassisRegistry.Proofs.OlderLayout

/-! # Where a chassis is

    Both halves of a record tell the site, the rack and the shelf. Creating a
    record and reading the older layout write them into both halves from one
    source. A snapshot of today tells them twice, and joining compares the
    sites only: rack and shelf may be different ones in the two halves of a
    record, and stay so. Identifiers are generated from the logical half, and
    the older layout keeps the physical one, so such a record has other
    identifiers after it was read back from there. Every reachable record came
    about in one of these ways (`Record.Reachable.madeOf`).

    Main statement: `Record.MadeOf.located`. -/

namespace ChassisRegistry

open Json (lookup)

/-! ## Section 1: What a snapshot gives -/

namespace Snapshot

/-- A snapshot of today gives two halves, which are not joined yet. -/
def GivesBoth (bytes : ByteArray) (given : Record) : Prop :=
  ∃ members found, Json.ofBytes? bytes = some (.object members) ∧
    lookup members "version" = some found ∧ isKnown found = true ∧
    halves members = .ok (given.logical, given.physical)

/-- A snapshot of the older layout gives the physical half, and the logical one is laid out. -/
def GivesOne (bytes : ByteArray) (given : Record) : Prop :=
  ∃ v p, Json.ofBytes? bytes = some v ∧
    (∀ members, v = .object members → lookup members "version" = none) ∧
    Physical.Chassis.ofStored v = .ok p ∧ given = .over p

variable {bytes : ByteArray} {given r : Record}

theorem GivesBoth.read (h : GivesBoth bytes given) :
    read bytes = Record.join given.logical given.physical := by
  obtain ⟨members, found, hjson, hversion, hknown, hhalves⟩ := h
  rw [Snapshot.read, hjson]
  simp only [toRecord, hversion, hknown, hhalves, Bool.not_true, Bool.false_eq_true, if_false]

theorem GivesOne.read (h : GivesOne bytes given) :
    read bytes = Record.join given.logical given.physical := by
  obtain ⟨v, p, hjson, hversion, hphysical, rfl⟩ := h
  have holder : toRecord v = ofUnversioned v := by
    unfold toRecord
    split
    · next members => rw [hversion members rfl]
    · rfl
  rw [Snapshot.read, hjson]
  show toRecord v = _
  rw [holder, ofUnversioned, hphysical]
  rfl

/-- What is read was given in one of the two layouts. -/
theorem given_of_read (h : read bytes = .ok r) :
    ∃ given, GivesBoth bytes given ∨ GivesOne bytes given := by
  have hone : ∀ v, Json.ofBytes? bytes = some v →
      (∀ members, v = .object members → lookup members "version" = none) →
      ofUnversioned v = .ok r → ∃ given, GivesBoth bytes given ∨ GivesOne bytes given := by
    intro v hjson hversion hv
    unfold ofUnversioned at hv
    split at hv
    · cases hv
    · next p hphysical => exact ⟨_, Or.inr ⟨v, p, hjson, hversion, hphysical, rfl⟩⟩
  unfold Snapshot.read at h
  split at h
  · cases h
  · next v hjson =>
    unfold toRecord at h
    split at h
    · next members =>
      split at h
      · next hnone =>
        refine hone _ hjson ?_ h
        rintro _ ⟨⟩
        exact hnone
      · next found hsome =>
        split at h
        · cases h
        · next hknown =>
          split at h
          · cases h
          · next l p hhalves =>
            exact ⟨⟨l, p⟩, Or.inl ⟨members, found, hjson, hsome, by simpa using hknown, hhalves⟩⟩
    · next hother => exact hone v hjson (fun members hv => absurd hv (hother members)) h

/-- What is written of a record gives both halves, as they are stored. -/
theorem givesBoth_write (hl : ∀ s ∈ r.logical.slots, s.Small)
    (hp : ∀ card ∈ r.physical.cards, card.Small) :
    GivesBoth (write r).toUTF8 ⟨r.logical.kept, r.physical.kept⟩ := by
  refine ⟨_, _, Json.ofBytes?_compact (readable_ofRecord hl hp), rfl, rfl, ?_⟩
  simp [halves, lookup, Logical.Chassis.ofStored_stored hl, Physical.Chassis.ofStored_stored hp]

end Snapshot

/-! ## Section 2: How a record came about -/

namespace Record

/-- The records that come about from halves that were given: by creating a site, or by bytes of
    either layout. Then the record is changed; a transition may have been prepared at any time. -/
inductive MadeOf : Record → Record → Prop where
  | create (site : Site) (endpoint : Endpoint) (rack shelf : UInt32) :
      MadeOf (.create site endpoint rack shelf) (.create site endpoint rack shelf)
  | older {bytes : ByteArray} {given r : Record} (hgiven : Snapshot.GivesOne bytes given)
      (hread : Snapshot.read bytes = .ok r) : MadeOf given r
  | recent {bytes : ByteArray} {given r : Record} (hgiven : Snapshot.GivesBoth bytes given)
      (hread : Snapshot.read bytes = .ok r) : MadeOf given r
  | change {given r : Record} (what : Change) (hr : MadeOf given r) : MadeOf given (r.after what)
  | commit {given r : Record} (t : Transition) (hr : MadeOf given r) :
      MadeOf given (r.commit t).2

variable {given r : Record}

/-- Every reachable record came about from some halves. -/
theorem Reachable.madeOf (h : Reachable r) : ∃ given, MadeOf given r := by
  induction h with
  | create site endpoint rack shelf => exact ⟨_, .create site endpoint rack shelf⟩
  | read hread =>
    obtain ⟨given, hboth | hone⟩ := Snapshot.given_of_read hread
    · exact ⟨given, .recent hboth hread⟩
    · exact ⟨given, .older hone hread⟩
  | change what _ ih =>
    obtain ⟨given, hr⟩ := ih
    exact ⟨given, .change what hr⟩

/-- Joining leaves each half where it is. -/
theorem place_of_join {l : Logical.Chassis} {p : Physical.Chassis} (h : join l p = .ok r) :
    (r.logical.rack = l.rack ∧ r.logical.shelf = l.shelf) ∧
      r.physical.rack = p.rack ∧ r.physical.shelf = p.shelf := by
  obtain ⟨hsite, hl, hp, hfit⟩ := fits_of_join h
  rw [join_of_fits hsite hl hp hfit] at h
  cases h
  exact ⟨⟨rfl, rfl⟩, rfl, rfl⟩

/-- Each half stays where it was given, and the halves fit. -/
theorem MadeOf.kept (h : MadeOf given r) : r.Coherent ∧
    (r.logical.rack = given.logical.rack ∧ r.logical.shelf = given.logical.shelf) ∧
      r.physical.rack = given.physical.rack ∧ r.physical.shelf = given.physical.shelf := by
  induction h with
  | create site endpoint rack shelf =>
    exact ⟨coherent_create site endpoint rack shelf, ⟨rfl, rfl⟩, rfl, rfl⟩
  | older hgiven hread =>
    rw [hgiven.read] at hread
    exact ⟨coherent_of_join hread, place_of_join hread⟩
  | recent hgiven hread =>
    rw [hgiven.read] at hread
    exact ⟨coherent_of_join hread, place_of_join hread⟩
  | change what _ ih =>
    obtain ⟨hcoherent, hl, hp⟩ := ih
    have hplace := hcoherent.inPlace_after what
    exact ⟨hcoherent.after what, ⟨hplace.logical.1.trans hl.1, hplace.logical.2.trans hl.2⟩,
      hplace.physical.1.trans hp.1, hplace.physical.2.trans hp.2⟩
  | @commit _ before t _ ih =>
    obtain ⟨hcoherent, hl, hp⟩ := ih
    have hplace := before.inPlace_commit t
    exact ⟨hcoherent.commit t, ⟨hplace.logical.1.trans hl.1, hplace.logical.2.trans hl.2⟩,
      hplace.physical.1.trans hp.1, hplace.physical.2.trans hp.2⟩

/-- Halves at two places were given by a snapshot of today. -/
theorem MadeOf.given_apart (h : MadeOf given r) (hapart : ¬ given.Placed) :
    ∃ bytes, Snapshot.GivesBoth bytes given := by
  induction h with
  | create site endpoint rack shelf => exact absurd ⟨rfl, rfl⟩ hapart
  | older hgiven _ =>
    obtain ⟨_, p, _, _, _, rfl⟩ := hgiven
    exact absurd ⟨rfl, rfl⟩ hapart
  | recent hgiven _ => exact ⟨_, hgiven⟩
  | change _ _ ih => exact ih hapart
  | commit _ _ ih => exact ih hapart

/-! ## Section 3: The logical half elsewhere -/

/-- The record with another place in the logical half. -/
def moved (r : Record) (rack shelf : UInt32) : Record :=
  { r with logical := { r.logical with rack, shelf } }

/-- Nothing that joining sees depends on the place. -/
theorem Coherent.moved (h : r.Coherent) (rack shelf : UInt32) : (r.moved rack shelf).Coherent where
  laidOut  := by
    show { r.logical with rack, shelf } = _
    rw [h.laidOut]
    rfl
  numbered := h.numbered
  linked   := h.linked
  fits     := h.fits

/-- The older layout takes the place from the physical half. -/
theorem Coherent.read_writeOlder_moved (h : r.Coherent) :
    Snapshot.read (Snapshot.writeOlder r.physical).toUTF8 =
      .ok (r.moved r.physical.rack r.physical.shelf) :=
  (h.moved r.physical.rack r.physical.shelf).read_writeOlder ⟨rfl, rfl⟩

/-- Identifiers of a coordinate are those of another place only if it is the same. -/
theorem Coherent.identifiers_moved (h : r.Coherent) (rack shelf : UInt32)
    (c : TerminalCoordinate) (serial : String) :
    ∃ here there, r.plannedService c serial = .ok here ∧
      (r.moved rack shelf).plannedService c serial = .ok there ∧
      (there.nasPortId = here.nasPortId ↔ rack = r.logical.rack ∧ shelf = r.logical.shelf) ∧
      (there.circuitId = here.circuitId ↔ rack = r.logical.rack ∧ shelf = r.logical.shelf) := by
  have hnas : Identifier.nasPort rack shelf c =
      Identifier.nasPort r.logical.rack r.logical.shelf c ↔
        rack = r.logical.rack ∧ shelf = r.logical.shelf := by
    simp [Identifier.nasPort_inj]
  have hcircuit : Identifier.circuit r.site rack shelf c =
      Identifier.circuit r.site r.logical.rack r.logical.shelf c ↔
        rack = r.logical.rack ∧ shelf = r.logical.shelf := by
    simp [Identifier.circuit_inj]
  exact ⟨_, _, h.plannedService_eq c serial, (h.moved rack shelf).plannedService_eq c serial,
    hnas, hcircuit⟩

theorem Coherent.givesBoth_write (h : r.Coherent) :
    Snapshot.GivesBoth (Snapshot.write r).toUTF8 ⟨r.logical.kept, r.physical.kept⟩ :=
  Snapshot.givesBoth_write h.small_slots h.small_cards

/-! ## Section 4: The place of a record -/

/-- What is known of the place of a record and of its identifiers. -/
structure Located (given r : Record) : Prop where
  site     : r.logical.site = r.physical.site
  logical  : r.logical.rack = given.logical.rack ∧ r.logical.shelf = given.logical.shelf
  physical : r.physical.rack = given.physical.rack ∧ r.physical.shelf = given.physical.shelf
  /-- Only a snapshot of today puts the halves at two places. -/
  apart    : ¬ r.Placed → ∃ bytes, Snapshot.GivesBoth bytes given ∧ ¬ given.Placed
  /-- It may put the logical half anywhere. -/
  anywhere : ∀ rack shelf, Snapshot.read (Snapshot.write (r.moved rack shelf)).toUTF8 =
    .ok (r.moved rack shelf)
  recent   : Snapshot.read (Snapshot.write r).toUTF8 = .ok r
  older    : Snapshot.read (Snapshot.writeOlder r.physical).toUTF8 =
    .ok (r.moved r.physical.rack r.physical.shelf)
  /-- Every coordinate has the same identifiers after the older layout if the halves were given at
      one place, and others if they were not. -/
  identifiers : ∀ c serial, ∃ here there, r.plannedService c serial = .ok here ∧
    (r.moved r.physical.rack r.physical.shelf).plannedService c serial = .ok there ∧
    (there.nasPortId = here.nasPortId ↔ given.Placed) ∧
    (there.circuitId = here.circuitId ↔ given.Placed)

/-- **The place of a record** is the one that it was given, in each half. -/
theorem MadeOf.located (h : MadeOf given r) : Located given r := by
  obtain ⟨hcoherent, hl, hp⟩ := h.kept
  have hsame : (r.physical.rack = r.logical.rack ∧ r.physical.shelf = r.logical.shelf) ↔
      given.Placed := by
    rw [hl.1, hl.2, hp.1, hp.2]
    exact ⟨fun hplace => ⟨hplace.1.symm, hplace.2.symm⟩,
      fun hplace => ⟨hplace.rack.symm, hplace.shelf.symm⟩⟩
  refine ⟨?_, hl, hp, ?_, ?_, hcoherent.read_written, hcoherent.read_writeOlder_moved, ?_⟩
  · rw [hcoherent.laidOut]
    rfl
  · intro hapart
    have hgiven : ¬ given.Placed := by
      intro hplaced
      have hplace := hsame.mpr hplaced
      exact hapart ⟨hplace.1.symm, hplace.2.symm⟩
    obtain ⟨bytes, hbytes⟩ := h.given_apart hgiven
    exact ⟨bytes, hbytes, hgiven⟩
  · exact fun rack shelf => (hcoherent.moved rack shelf).read_written
  · intro c serial
    obtain ⟨here, there, hhere, hthere, hnas, hcircuit⟩ :=
      hcoherent.identifiers_moved r.physical.rack r.physical.shelf c serial
    exact ⟨here, there, hhere, hthere, hnas.trans hsame, hcircuit.trans hsame⟩

/-- The record with one card, its logical half in another rack. -/
def astray : Record :=
  oneCard.moved 9 2

theorem coherent_astray : astray.Coherent :=
  reachable_oneCard.coherent.moved 9 2

/-- The stored halves of that record. -/
def astrayHalves : Record :=
  ⟨astray.logical.kept, astray.physical.kept⟩

theorem madeOf_astray : MadeOf astrayHalves astray :=
  .recent coherent_astray.givesBoth_write coherent_astray.read_written

/-- The record with one card was given at one place, the other one at two. -/
theorem located_oneCard :
    Located (.create oneCard.site ⟨.v4 ⟨10, 0, 0, 1⟩ 8080, "olt", "secret"⟩ 1 2) oneCard ∧
      oneCard.Placed ∧ Located astrayHalves astray ∧ ¬ astrayHalves.Placed :=
  ⟨MadeOf.located (.change _ (.create _ _ 1 2)), ⟨rfl, rfl⟩, MadeOf.located madeOf_astray,
    fun hplaced => absurd hplaced.rack (by decide)⟩

/-- A snapshot is read whose halves are in different racks. Its first terminal has other
    identifiers after the record was read back from the older layout. -/
theorem astray_identified_twice :
    let c : TerminalCoordinate := ⟨⟨⟨0, by decide⟩, ⟨0, by decide⟩⟩, ⟨0, by decide⟩⟩
    let names (r : Record) := (r.plannedService c "A").map fun s => (s.nasPortId, s.circuitId)
    Snapshot.read (Snapshot.write astray).toUTF8 = .ok astray ∧
      astray.logical.rack = 9 ∧ astray.physical.rack = 1 ∧
      names astray = .ok ("PON 9/2/1/1:1.1.1", "lab 9/2/1/1:1.1.1") ∧
      ∃ back, Snapshot.read (Snapshot.writeOlder astray.physical).toUTF8 = .ok back ∧
        names back = .ok ("PON 1/2/1/1:1.1.1", "lab 1/2/1/1:1.1.1") := by
  intro c names
  refine ⟨coherent_astray.read_written, rfl, rfl, ?_, _, coherent_astray.read_writeOlder_moved, ?_⟩
  · show (astray.plannedService c "A").map _ = _
    rw [coherent_astray.plannedService_eq]
    decide +kernel
  · show ((astray.moved 1 2).plannedService c "A").map _ = _
    rw [(coherent_astray.moved 1 2).plannedService_eq]
    decide +kernel

end Record

end ChassisRegistry
