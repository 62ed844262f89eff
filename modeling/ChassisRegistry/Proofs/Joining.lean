import ChassisRegistry.Proofs.SnapshotRoundTrip

/-! # What joining accepts

    Two halves that were read from outside are joined when they belong to one
    site, the logical one is laid out as planned, the physical one is numbered
    by position, and there are not too many ports. This is said here by the
    lists of numbers in the trees, for halves of any shape and whatever
    back-references, bindings and cursor they carry. What is refused is
    refused as a bad snapshot, or, when nothing but the number of ports is
    wrong, because the logical ports are used up.

    Main statement: `Record.join_exact`. -/

namespace ChassisRegistry

/-! ## Section 1: Checks over lists -/

section CheckFrom

variable {ε α β : Type} {start : Nat}

/-- A check that fails does so at some item. -/
theorem exists_of_checkFrom_error {check : Nat → α → Except ε Unit} {xs : List α} {e : ε}
    (h : checkFrom check start xs = .error e) :
    ∃ i x, xs[i]? = some x ∧ check (start + i) x = .error e := by
  induction xs generalizing start with
  | nil => cases h
  | cons a rest ih =>
    rw [checkFrom] at h
    cases hcheck : check start a with
    | error e' =>
      simp only [hcheck] at h
      exact ⟨0, a, rfl, by rw [Nat.add_zero, hcheck, h]⟩
    | ok _ =>
      simp only [hcheck] at h
      obtain ⟨i, x, hx, hfail⟩ := ih h
      exact ⟨i + 1, x, hx, by rw [← hfail]; congr 1; omega⟩

/-- Checking changed items is checking the items for what they are changed to. -/
theorem checkFrom_map (check : Nat → β → Except ε Unit) (f : α → β) (xs : List α) :
    checkFrom check start (xs.map f) = checkFrom (fun i x => check i (f x)) start xs := by
  induction xs generalizing start with
  | nil => rfl
  | cons a rest ih => simp only [List.map_cons, checkFrom, ih]

end CheckFrom

/-- Numbered by position: the numbers of the items count from 1. -/
theorem map_eq_range_iff {α : Type} {xs : List α} {number : α → Nat} {n : Nat} :
    xs.map number = (List.range n).map (· + 1) ↔
      xs.length = n ∧ ∀ i x, xs[i]? = some x → number x = i + 1 := by
  constructor
  · intro h
    have hlength : xs.length = n := by simpa using congrArg List.length h
    refine ⟨hlength, ?_⟩
    intro i x hx
    obtain ⟨hi, _⟩ := List.getElem?_eq_some_iff.mp hx
    have hnumber := congrArg (·[i]?) h
    simpa [hx, show i < n by omega] using hnumber
  · rintro ⟨hlength, hnumbers⟩
    apply List.ext_getElem (by simp [hlength])
    intro i hi _
    have hlt : i < xs.length := by simpa using hi
    simpa using hnumbers i xs[i] (List.getElem?_eq_getElem hlt)

/-! ## Section 2: The logical half -/

namespace Logical

/-! ### What a check does not see -/

theorem Port.kept_linked (slot : Nat) (p : Port) : (p.linked slot).kept = p.kept := by
  simp only [Port.kept, Port.linked, List.map_map]
  rfl

theorem Slot.kept_linked (site : Site) (s : Slot) : (s.linked site).kept = s.kept := by
  simp only [Slot.kept, Slot.linked, List.map_map, Function.comp_def, Port.kept_linked]

/-- Linking changes nothing of what is stored. -/
theorem Chassis.kept_linked (c : Chassis) :
    c.linked.kept = c.kept := by
  simp only [Chassis.kept, Chassis.linked, List.map_map, Function.comp_def, Slot.kept_linked]

theorem Port.kept_kept (p : Port) : p.kept.kept = p.kept := by
  simp only [Port.kept, List.map_map]
  rfl

theorem Slot.kept_kept (s : Slot) : s.kept.kept = s.kept := by
  simp only [Slot.kept, List.map_map, Function.comp_def, Port.kept_kept]

theorem Chassis.kept_kept (c : Chassis) : c.kept.kept = c.kept := by
  simp only [Chassis.kept, List.map_map, Function.comp_def, Slot.kept_kept]

theorem Port.linked_kept (slot : Nat) (p : Port) :
    p.kept.linked slot = { p.linked slot with bound := none } := by
  simp only [Port.kept, Port.linked, List.map_map]
  rfl

theorem Slot.linked_kept (site : Site) (s : Slot) :
    s.kept.linked site =
      { s.linked site with ports := (s.linked site).ports.map ({ · with bound := none }) } := by
  simp only [Slot.kept, Slot.linked, List.map_map, Function.comp_def, Port.linked_kept]

/-- Linked and without bindings, a tree is made of what is stored of it. -/
theorem Chassis.linked_kept (c : Chassis) : c.kept.linked = c.linked.unbound := by
  simp only [Chassis.linked, Chassis.kept, Chassis.unbound, List.map_map, Function.comp_def,
    Slot.linked_kept]

theorem checkPort_kept (s : Slot) (i j : Nat) (p : Port) :
    checkPort s.kept i j p.kept = checkPort s i j p := by
  simp only [checkPort, Port.kept, List.length_map, checkFrom_map]
  rfl

theorem checkSlot_kept (i : Nat) (s : Slot) : checkSlot i s.kept = checkSlot i s := by
  have hports : s.kept.ports = s.ports.map Port.kept := rfl
  simp only [checkSlot, hports, List.length_map, checkFrom_map, checkPort_kept]
  rfl

/-- The check reads numbers and tags only. -/
theorem Chassis.check_kept (c : Chassis) : c.kept.check = c.check := by
  simp only [Chassis.check, Chassis.kept, List.length_map, checkFrom_map, checkSlot_kept]

theorem Chassis.check_linked (c : Chassis) : c.linked.check = c.check := by
  rw [← check_kept, kept_linked, check_kept]

/-! ### What a check accepts -/

theorem Slot.kept_unbound (s : Slot) :
    Slot.kept { s with ports := s.ports.map ({ · with bound := none }) } = s.kept := by
  simp only [Slot.kept, List.map_map]
  rfl

theorem Chassis.kept_unbound (c : Chassis) : c.unbound.kept = c.kept := by
  simp only [Chassis.kept, Chassis.unbound, List.map_map, Function.comp_def, Slot.kept_unbound]

/-- A tree fits when what is stored of it is what is stored of the planned one. -/
theorem Chassis.fits_iff {c : Chassis} :
    c.Fits ↔ c.kept = (Chassis.planned c.site c.rack c.shelf).kept := by
  constructor
  · intro h
    rw [← kept_linked, ← kept_unbound, h.linked_unbound, planned_eq_laidOut]
  · intro h
    rw [← fits_kept, h, fits_kept, planned_eq_laidOut]
    exact fits_laidOut _ _ _ _

/-! ### How a check fails -/

theorem exists_fault_of_checkPort {slot : Slot} {c : PortCoordinate} {p : Port} {e : ChassisError}
    (h : checkPort slot c.slotIndex.val c.portIndex.val p = .error e) :
    ∃ fault, e = .snapshot fault := by
  unfold checkPort at h
  split at h
  · cases h
    exact ⟨_, rfl⟩
  · next hshape =>
    -- The number of terminals is right by now, so every index is one of a coordinate.
    rw [not_or, Classical.not_not, Classical.not_not] at hshape
    obtain ⟨k, t, ht, hfail⟩ := exists_of_checkFrom_error h
    obtain ⟨hk, _⟩ := List.getElem?_eq_some_iff.mp ht
    rw [hshape.2] at hk
    rw [Nat.zero_add] at hfail
    unfold checkTerminal at hfail
    split at hfail
    · cases hfail
      exact ⟨_, rfl⟩
    · have hself := ofIndices_self ⟨c, ⟨k, hk⟩⟩
      simp only [hself] at hfail
      split at hfail
      · cases hfail
        exact ⟨_, rfl⟩
      · cases hfail

theorem exists_fault_of_checkSlot {i : Fin slotsPerChassis} {s : Slot} {e : ChassisError}
    (h : checkSlot i.val s = .error e) : ∃ fault, e = .snapshot fault := by
  unfold checkSlot at h
  split at h
  · cases h
    exact ⟨_, rfl⟩
  · next hshape =>
    rw [not_or, Classical.not_not, Classical.not_not] at hshape
    obtain ⟨j, p, hp, hfail⟩ := exists_of_checkFrom_error h
    obtain ⟨hj, _⟩ := List.getElem?_eq_some_iff.mp hp
    rw [hshape.2] at hj
    rw [Nat.zero_add] at hfail
    exact exists_fault_of_checkPort (c := ⟨i, ⟨j, hj⟩⟩) hfail

/-- A tree that fails its check is a bad snapshot. -/
theorem Chassis.exists_fault_of_check {c : Chassis} {e : ChassisError} (h : c.check = .error e) :
    ∃ fault, e = .snapshot fault := by
  unfold Chassis.check at h
  split at h
  · cases h
    exact ⟨_, rfl⟩
  · next hlength =>
    rw [Classical.not_not] at hlength
    obtain ⟨i, s, hs, hfail⟩ := exists_of_checkFrom_error h
    obtain ⟨hi, _⟩ := List.getElem?_eq_some_iff.mp hs
    rw [hlength] at hi
    rw [Nat.zero_add] at hfail
    exact exists_fault_of_checkSlot (i := ⟨i, hi⟩) hfail

end Logical

/-! ## Section 3: The physical half -/

namespace Physical

/-! ### What a check does not see -/

theorem Port.kept_linked (card : Nat) (p : Port) : (p.linked card).kept = p.kept := by
  simp only [Port.kept, Port.linked, List.map_map]
  rfl

theorem Card.kept_linked (site : Site) (c : Card) : (c.linked site).kept = c.kept := by
  simp only [Card.kept, Card.linked, List.map_map, Function.comp_def, Port.kept_linked]

theorem Chassis.kept_linked (c : Chassis) : c.linked.kept = c.kept := by
  simp only [Chassis.kept, Chassis.linked, List.map_map, Function.comp_def, Card.kept_linked]

theorem checkPort_kept (c : Card) (j : Nat) (p : Port) :
    checkPort c.kept j p.kept = checkPort c j p := by
  simp only [checkPort, Port.kept, List.length_map, checkFrom_map]
  rfl

theorem checkCard_kept (i : Nat) (c : Card) : checkCard i c.kept = checkCard i c := by
  have hports : c.kept.ports = c.ports.map Port.kept := rfl
  simp only [checkCard, hports, List.length_map, checkFrom_map, checkPort_kept]
  rfl

/-- The check reads numbers and drivers only. -/
theorem Chassis.check_kept (c : Chassis) : c.kept.check = c.check := by
  simp only [Chassis.check, Chassis.kept, checkFrom_map, checkCard_kept]

theorem Chassis.check_linked (c : Chassis) : c.linked.check = c.check := by
  rw [← check_kept, kept_linked, check_kept]

/-! ### What a check accepts -/

/-- The cards, the ports of each and the terminals of those are numbered from 1 by position, and
    there are as many ports as the driver has and 64 terminals on each. -/
structure Chassis.InOrder (c : Chassis) : Prop where
  cards     : c.cards.map Card.number = (List.range c.cards.length).map (· + 1)
  ports     : ∀ card ∈ c.cards,
    card.ports.map Port.number = (List.range card.driver.portCount).map (· + 1)
  terminals : ∀ card ∈ c.cards, ∀ port ∈ card.ports,
    port.terminals.map Terminal.number = (List.range terminalsPerPort).map (· + 1)

/-- How many ports the cards have. -/
def Chassis.portTotal (c : Chassis) : Nat := (c.cards.map fun card => card.ports.length).sum

theorem Chassis.numbered_iff {c : Chassis} : c.Numbered ↔ c.InOrder := by
  constructor
  · intro h
    refine ⟨map_eq_range_iff.mpr ⟨rfl, fun i card hcard => (h i card hcard).1⟩, ?_, ?_⟩
    · intro card hmem
      obtain ⟨i, hcard⟩ := List.mem_iff_getElem?.mp hmem
      obtain ⟨_, hlength, hports⟩ := h i card hcard
      exact map_eq_range_iff.mpr ⟨hlength, fun j port hport => (hports j port hport).1⟩
    · intro card hmem port hmem'
      obtain ⟨i, hcard⟩ := List.mem_iff_getElem?.mp hmem
      obtain ⟨j, hport⟩ := List.mem_iff_getElem?.mp hmem'
      exact map_eq_range_iff.mpr ((h i card hcard).2.2 j port hport).2
  · intro h i card hcard
    have hmem := List.mem_of_getElem? hcard
    obtain ⟨hlength, hports⟩ := map_eq_range_iff.mp (h.ports card hmem)
    refine ⟨(map_eq_range_iff.mp h.cards).2 i card hcard, hlength, ?_⟩
    intro j port hport
    exact ⟨hports j port hport,
      map_eq_range_iff.mp (h.terminals card hmem port (List.mem_of_getElem? hport))⟩

theorem Chassis.length_devicePorts (c : Chassis) : c.devicePorts.length = c.portTotal :=
  Record.length_devicePorts_eq ⟨.planned c.site c.rack c.shelf, c⟩

/-! ### How a check fails -/

theorem exists_fault_of_checkPort {card : Card} {j : Nat} {p : Port} {e : ChassisError}
    (h : checkPort card j p = .error e) : ∃ fault, e = .snapshot fault := by
  unfold checkPort at h
  split at h
  · cases h
    exact ⟨_, rfl⟩
  · split at h
    · cases h
      exact ⟨_, rfl⟩
    · obtain ⟨k, t, _, hfail⟩ := exists_of_checkFrom_error h
      unfold checkTerminal at hfail
      split at hfail
      · cases hfail
        exact ⟨_, rfl⟩
      · cases hfail

theorem exists_fault_of_checkCard {i : Nat} {c : Card} {e : ChassisError}
    (h : checkCard i c = .error e) : ∃ fault, e = .snapshot fault := by
  unfold checkCard at h
  split at h
  · cases h
    exact ⟨_, rfl⟩
  · split at h
    · cases h
      exact ⟨_, rfl⟩
    · obtain ⟨j, p, _, hfail⟩ := exists_of_checkFrom_error h
      exact exists_fault_of_checkPort hfail

/-- A tree that fails its check is a bad snapshot. -/
theorem Chassis.exists_fault_of_check {c : Chassis} {e : ChassisError} (h : c.check = .error e) :
    ∃ fault, e = .snapshot fault := by
  obtain ⟨i, card, _, hfail⟩ := exists_of_checkFrom_error h
  exact exists_fault_of_checkCard hfail

end Physical

/-! ## Section 4: Joining -/

namespace Record

variable {l : Logical.Chassis} {p : Physical.Chassis}

/-- The halves belong together: all that joining asks of them but the number of ports. -/
structure Matching (l : Logical.Chassis) (p : Physical.Chassis) : Prop where
  sites   : l.site = p.site
  /-- Numbers, sizes and tags are those of the tree that is laid out for the site. -/
  planned : l.kept = (Logical.Chassis.planned l.site l.rack l.shelf).kept
  ordered : p.InOrder

/-- Joining does not see bindings, cursor and back-references. -/
theorem join_kept (l : Logical.Chassis) (p : Physical.Chassis) :
    join l.kept p.kept = join l p := by
  have hunbound : l.kept.linked.unbound = l.linked.unbound := by
    rw [← Logical.Chassis.linked_kept l.kept, Logical.Chassis.kept_kept,
      Logical.Chassis.linked_kept]
  have hrebound : rebound ⟨l.kept.linked, p.kept.linked⟩ = rebound ⟨l.linked, p.linked⟩ := by
    simp only [rebound, hunbound, Physical.Chassis.linked_kept]
  simp only [join, Logical.Chassis.check_linked, Logical.Chassis.check_kept,
    Physical.Chassis.check_linked, Physical.Chassis.check_kept, hrebound]
  rfl

/-- With too many ports, the last of them finds no logical port. -/
theorem join_of_exhausted (h : Matching l p) (hmany : portCapacity < p.portTotal) :
    join l p = .error (.exhausted l.site 1 0) := by
  have hl : l.Fits := Logical.Chassis.fits_iff.mpr h.planned
  have hlcheck : l.linked.check = .ok () :=
    Logical.Chassis.check_eq_ok_iff.mpr (Logical.Chassis.fits_linked.mpr hl)
  have hpcheck : p.linked.check = .ok () :=
    Physical.Chassis.check_eq_ok_iff.mpr
      (Physical.Chassis.numbered_linked.mpr (Physical.Chassis.numbered_iff.mpr h.ordered))
  have hbind := @Logical.Chassis.bindEach_laidOut_of_lt l.site l.rack l.shelf [] p.devicePorts
    (Nat.zero_le _) (by simpa [p.length_devicePorts] using hmany)
  rw [← hl.linked_unbound, ← Physical.Chassis.devicePorts_linked] at hbind
  rw [join, if_neg (not_not_intro h.sites), hlcheck, hpcheck]
  show rebound ⟨l.linked, p.linked⟩ = _
  rw [rebound, hbind]

/-- Halves that do not belong together are a bad snapshot. -/
theorem exists_fault_of_join (h : ¬ Matching l p) :
    ∃ fault, join l p = .error (.snapshot fault) := by
  by_cases hsite : l.site = p.site
  · rw [join, if_neg (not_not_intro hsite)]
    -- One of the checks fails, as both together with the sites make a match.
    cases hlcheck : l.linked.check with
    | error e =>
      obtain ⟨fault, rfl⟩ := Logical.Chassis.exists_fault_of_check hlcheck
      exact ⟨fault, rfl⟩
    | ok _ =>
      cases hpcheck : p.linked.check with
      | error e =>
        obtain ⟨fault, rfl⟩ := Physical.Chassis.exists_fault_of_check hpcheck
        exact ⟨fault, rfl⟩
      | ok _ =>
        have hl : l.Fits :=
          Logical.Chassis.fits_linked.mp (Logical.Chassis.check_eq_ok_iff.mp hlcheck)
        have hp : p.Numbered :=
          Physical.Chassis.numbered_linked.mp (Physical.Chassis.check_eq_ok_iff.mp hpcheck)
        exact absurd ⟨hsite, Logical.Chassis.fits_iff.mp hl, Physical.Chassis.numbered_iff.mp hp⟩ h
  · exact ⟨_, by rw [join, if_pos hsite]⟩

/-- Matching halves without too many ports are joined. -/
theorem exists_join (h : Matching l p) (hfit : p.portTotal ≤ portCapacity) :
    ∃ logical, (Logical.Chassis.planned l.site l.rack l.shelf).bindEach p.devicePorts =
      (.ok (), logical) ∧ join l p = .ok ⟨logical, p.linked⟩ := by
  rw [← Physical.Chassis.length_devicePorts] at hfit
  refine ⟨_, ?_, join_of_fits h.sites (Logical.Chassis.fits_iff.mpr h.planned)
    (Physical.Chassis.numbered_iff.mpr h.ordered) hfit⟩
  rw [Logical.Chassis.planned_eq_laidOut, Logical.Chassis.bindEach_laidOut _ (by simpa using hfit),
    List.nil_append, h.sites]

/-- What joining makes of two halves of any shape. -/
structure JoinsExactly (l : Logical.Chassis) (p : Physical.Chassis) : Prop where
  accepted : (∃ r, join l p = .ok r) ↔ Matching l p ∧ p.portTotal ≤ portCapacity
  /-- The logical half is laid out anew, and its ports are handed out to those of the cards. -/
  logical : ∀ r, join l p = .ok r →
    (Logical.Chassis.planned l.site l.rack l.shelf).bindEach p.devicePorts = (.ok (), r.logical)
  /-- The physical half is linked, and else as it was. -/
  physical : ∀ r, join l p = .ok r → r.physical = p.linked ∧ r.physical.kept = p.kept
  /-- Halves that differ in bindings, cursor and back-references only are joined alike. -/
  transient : ∀ l' p', l'.kept = l.kept → p'.kept = p.kept → join l' p' = join l p
  exhausted : join l p = .error (.exhausted l.site 1 0) ↔
    Matching l p ∧ portCapacity < p.portTotal
  /-- There is no other failure but a bad snapshot. -/
  refused : ∀ e, join l p = .error e → e = .exhausted l.site 1 0 ∨ ∃ fault, e = .snapshot fault

theorem joinsExactly (l : Logical.Chassis) (p : Physical.Chassis) : JoinsExactly l p := by
  have htransient : ∀ l' p', l'.kept = l.kept → p'.kept = p.kept → join l' p' = join l p := by
    intro l' p' hl hp
    rw [← join_kept l' p', hl, hp, join_kept]
  by_cases hmatch : Matching l p
  · by_cases hfit : p.portTotal ≤ portCapacity
    · obtain ⟨logical, hbind, hjoin⟩ := exists_join hmatch hfit
      refine ⟨by simp [hjoin, hmatch, hfit], ?_, ?_, htransient, ?_, ?_⟩
      · intro r hr
        rw [hjoin] at hr
        cases hr
        exact hbind
      · intro r hr
        rw [hjoin] at hr
        cases hr
        exact ⟨rfl, p.kept_linked⟩
      · simp [hjoin, hfit]
      · intro e he
        rw [hjoin] at he
        cases he
    · have hjoin := join_of_exhausted hmatch (Nat.not_le.mp hfit)
      have hnone : ∀ r, join l p ≠ .ok r := by simp [hjoin]
      refine ⟨by simp [hjoin, hfit], fun r hr => absurd hr (hnone r),
        fun r hr => absurd hr (hnone r), htransient, by simp [hjoin, hmatch]; omega, ?_⟩
      intro e he
      rw [hjoin] at he
      cases he
      exact Or.inl rfl
  · obtain ⟨fault, hjoin⟩ := exists_fault_of_join hmatch
    have hnone : ∀ r, join l p ≠ .ok r := by simp [hjoin]
    refine ⟨by simp [hjoin, hmatch], fun r hr => absurd hr (hnone r),
      fun r hr => absurd hr (hnone r), htransient, by simp [hjoin, hmatch], ?_⟩
    intro e he
    rw [hjoin] at he
    cases he
    exact Or.inr ⟨fault, rfl⟩

/-! ## Section 5: Reading -/

/-- A record, or nothing but a bad snapshot or logical ports that are used up. -/
def Settled (result : Except ChassisError Record) : Prop :=
  (∃ r, result = .ok r) ∨ (∃ site, result = .error (.exhausted site 1 0)) ∨
    ∃ fault, result = .error (.snapshot fault)

theorem settled_join (l : Logical.Chassis) (p : Physical.Chassis) : Settled (join l p) := by
  cases hjoin : join l p with
  | ok r => exact Or.inl ⟨r, rfl⟩
  | error e =>
    obtain rfl | ⟨fault, rfl⟩ := (joinsExactly l p).refused e hjoin
    · exact Or.inr (Or.inl ⟨l.site, rfl⟩)
    · exact Or.inr (Or.inr ⟨fault, rfl⟩)

/-- Whatever bytes are read, reading fails in no other way than joining. -/
theorem settled_read (bytes : ByteArray) : Settled (Snapshot.read bytes) := by
  rcases read_cases bytes with ⟨fault, hread⟩ | ⟨l, p, hread⟩
  · rw [hread]
    exact Or.inr (Or.inr ⟨fault, rfl⟩)
  · rw [hread]
    exact settled_join l p

/-- Joining accepts exactly the halves that match and have room, and reading adds no failure. -/
theorem join_exact :
    (∀ l p, JoinsExactly l p) ∧ ∀ bytes, Settled (Snapshot.read bytes) :=
  ⟨joinsExactly, settled_read⟩

end Record
end ChassisRegistry
