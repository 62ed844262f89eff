import ChassisRegistry.Proofs.PhysicalTree
import ChassisRegistry.Registry.Plan
import ChassisRegistry.Snapshot

/-! # Coherent records

    The halves of a record fit when the logical one is the laid out tree with
    the ports of the line cards handed out in their order, and the physical
    one is numbered by position and linked. Every record that is created or
    read from bytes is coherent, and attaching cards, changing the login and
    transitions keep it so.

    Main statement: `Record.Reachable.coherent`. -/

namespace ChassisRegistry.Record

open Physical (Card)

/-! ## Section 1: Reachable records -/

/-- The record after a change was asked of it: a transition is prepared and then committed, and
    what is refused changes nothing further. -/
def after (r : Record) : Change → Record
  | .login user password => r.withCredentials user password
  | .attach driver address hostname => (r.attachCard driver address hostname).2
  | .terminal c request =>
      match r.prepare c request with
      | .ok t => (r.commit t).2
      | .error _ => r

/-- The records that come about by changes to a record that was created or read from bytes. Writing
    a record and reading it again is among them, as any bytes may be read. -/
inductive Reachable : Record → Prop where
  | create (site : Site) (endpoint : Endpoint) (rack shelf : UInt32) :
      Reachable (.create site endpoint rack shelf)
  | read {bytes : ByteArray} {r : Record} (hread : Snapshot.read bytes = .ok r) : Reachable r
  | change {r : Record} (what : Change) (hr : Reachable r) : Reachable (r.after what)

/-- The halves of a record fit. -/
structure Coherent (r : Record) : Prop where
  /-- The logical half has the ports of the cards handed out, in order. -/
  laidOut  : r.logical =
    .laidOut r.physical.site r.logical.rack r.logical.shelf r.physical.devicePorts
  /-- Cards, ports and terminals are numbered by position. -/
  numbered : r.physical.Numbered
  /-- Every back-reference names its parent. -/
  linked   : r.physical.linked = r.physical
  /-- There are no more physical ports than logical ones. -/
  fits     : r.physical.devicePorts.length ≤ portCapacity

/-! ## Section 2: Creating and joining -/

theorem coherent_create (site : Site) (endpoint : Endpoint) (rack shelf : UInt32) :
    Coherent (.create site endpoint rack shelf) where
  laidOut  := Logical.Chassis.planned_eq_laidOut
  numbered := by
    intro i card hcard
    -- There is no card yet, so there is nothing to number.
    simp [create, Physical.Chassis.bare] at hcard
  linked   := rfl
  fits     := Nat.zero_le _

/-- Joining halves of the right numbers and sizes hands out the ports of the cards. -/
theorem join_of_fits {l : Logical.Chassis} {p : Physical.Chassis} (hsite : l.site = p.site)
    (hl : l.Fits) (hp : p.Numbered) (hfit : p.devicePorts.length ≤ portCapacity) :
    join l p = .ok ⟨.laidOut p.site l.rack l.shelf p.devicePorts, p.linked⟩ := by
  have hlcheck : l.linked.check = .ok () :=
    Logical.Chassis.check_eq_ok_iff.mpr (Logical.Chassis.fits_linked.mpr hl)
  have hpcheck : p.linked.check = .ok () :=
    Physical.Chassis.check_eq_ok_iff.mpr (Physical.Chassis.numbered_linked.mpr hp)
  have hbind : l.linked.unbound.bindEach p.linked.devicePorts =
      (.ok (), .laidOut p.site l.rack l.shelf p.devicePorts) := by
    rw [hl.linked_unbound, Physical.Chassis.devicePorts_linked,
      Logical.Chassis.bindEach_laidOut _ (by simpa using hfit), hsite, List.nil_append]
  rw [join, if_neg (not_not_intro hsite), hlcheck, hpcheck]
  show rebound ⟨l.linked, p.linked⟩ = _
  rw [rebound, hbind]

/-- What joining succeeds on. -/
theorem fits_of_join {l : Logical.Chassis} {p : Physical.Chassis} {r : Record}
    (h : join l p = .ok r) :
    l.site = p.site ∧ l.Fits ∧ p.Numbered ∧ p.devicePorts.length ≤ portCapacity := by
  -- Each check that was passed says its part: sites, logical half, physical half, and then the
  -- binder, which gets to the end only when there are not too many ports.
  by_cases hsite : l.site = p.site
  · rw [join, if_neg (not_not_intro hsite)] at h
    obtain ⟨_, hlcheck, hrest⟩ := exists_of_bind h
    obtain ⟨_, hpcheck, hrebound⟩ := exists_of_bind hrest
    have hl : l.Fits :=
      Logical.Chassis.fits_linked.mp (Logical.Chassis.check_eq_ok_iff.mp hlcheck)
    have hp : p.Numbered :=
      Physical.Chassis.numbered_linked.mp (Physical.Chassis.check_eq_ok_iff.mp hpcheck)
    refine ⟨hsite, hl, hp, ?_⟩
    apply Decidable.byContradiction
    intro hmany
    -- With too many ports the last calls of the binder are refused.
    have hbind := @Logical.Chassis.bindEach_laidOut_of_lt l.site l.rack l.shelf []
      p.devicePorts (Nat.zero_le _) (by simpa using hmany)
    rw [← hl.linked_unbound, ← Physical.Chassis.devicePorts_linked] at hbind
    have hfail : rebound ⟨l.linked, p.linked⟩ = .error (.exhausted l.site 1 0) := by
      rw [rebound, hbind]
    exact absurd (hrebound.symm.trans hfail) (by simp)
  · rw [join, if_pos hsite] at h
    cases h

/-- Joined halves are coherent. -/
theorem coherent_of_join {l : Logical.Chassis} {p : Physical.Chassis} {r : Record}
    (h : join l p = .ok r) : r.Coherent := by
  obtain ⟨hsite, hl, hp, hfit⟩ := fits_of_join h
  rw [join_of_fits hsite hl hp hfit] at h
  cases h
  exact {
    laidOut  := by rw [Physical.Chassis.devicePorts_linked]; rfl
    numbered := Physical.Chassis.numbered_linked.mpr hp
    linked   := p.linked_linked
    fits     := by rw [Physical.Chassis.devicePorts_linked]; exact hfit }

/-- Reading a snapshot ends in joining two halves, or the snapshot is a bad one. -/
theorem read_cases (bytes : ByteArray) :
    (∃ fault, Snapshot.read bytes = .error (.snapshot fault)) ∨
      ∃ l p, Snapshot.read bytes = join l p := by
  -- A file with a version and one without are read differently, but both end in `join`.
  have hunversioned : ∀ v, (∃ fault, Snapshot.ofUnversioned v = .error (.snapshot fault)) ∨
      ∃ l p, Snapshot.ofUnversioned v = join l p := by
    intro v
    unfold Snapshot.ofUnversioned
    split
    · exact Or.inl ⟨_, rfl⟩
    · exact Or.inr ⟨_, _, rfl⟩
  unfold Snapshot.read
  split
  · exact Or.inl ⟨_, rfl⟩
  · unfold Snapshot.toRecord
    split
    · split
      · exact hunversioned _
      · split
        · exact Or.inl ⟨_, rfl⟩
        · split
          · exact Or.inl ⟨_, rfl⟩
          · exact Or.inr ⟨_, _, rfl⟩
    · exact hunversioned _

/-- What a snapshot is read from is joined from two halves. -/
theorem join_of_read {bytes : ByteArray} {r : Record} (h : Snapshot.read bytes = .ok r) :
    ∃ l p, join l p = .ok r := by
  rcases read_cases bytes with ⟨fault, hread⟩ | ⟨l, p, hread⟩
  · rw [hread] at h
    cases h
  · exact ⟨l, p, hread ▸ h⟩

/-! ## Section 3: Attaching cards -/

theorem Coherent.remaining {r : Record} (h : r.Coherent) :
    r.logical.remaining + r.physical.devicePorts.length = portCapacity := by
  have hfits := h.fits
  rw [h.laidOut, Logical.Chassis.remaining_laidOut hfits]
  omega

theorem Coherent.cards_linked {r : Record} (h : r.Coherent) :
    r.physical.cards.map (Card.linked r.physical.site) = r.physical.cards :=
  congrArg Physical.Chassis.cards h.linked

/-- The card that is attached next. -/
def nextCard (r : Record) (driver : CardDriver) (address : SocketAddress) (hostname : String) :
    Card :=
  (Card.vacant (r.physical.cards.length + 1) driver address (Text.trim hostname)).linked
    r.physical.site

theorem numbered_vacant (i : Nat) (driver : CardDriver) (address : SocketAddress)
    (hostname : String) : (Card.vacant (i + 1) driver address hostname).Numbered i := by
  refine ⟨rfl, by simp [Card.vacant], ?_⟩
  intro j p hp
  rw [Card.vacant, List.getElem?_map, Option.map_eq_some_iff] at hp
  obtain ⟨j', hj', rfl⟩ := hp
  obtain ⟨_, rfl⟩ := List.getElem?_eq_some_iff.mp hj'
  refine ⟨by simp [Physical.Port.vacant], by simp [Physical.Port.vacant], ?_⟩
  intro k t ht
  rw [Physical.Port.vacant, List.getElem?_map, Option.map_eq_some_iff] at ht
  obtain ⟨k', hk', rfl⟩ := ht
  obtain ⟨_, rfl⟩ := List.getElem?_eq_some_iff.mp hk'
  simp [Physical.Terminal.vacant]

theorem numbered_nextCard (r : Record) (driver : CardDriver) (address : SocketAddress)
    (hostname : String) :
    (r.nextCard driver address hostname).Numbered r.physical.cards.length :=
  (Physical.Card.numbered_linked _).mpr (numbered_vacant _ _ _ _)

/-- The record with the next card attached. -/
def withNextCard (r : Record) (driver : CardDriver) (address : SocketAddress)
    (hostname : String) : Record where
  logical  := .laidOut r.physical.site r.logical.rack r.logical.shelf
    (r.physical.devicePorts ++ (r.nextCard driver address hostname).devicePorts)
  physical := r.physical.withCard (r.nextCard driver address hostname)

/-- A card is refused that does not fit or has a blank host name. -/
theorem describeCard_refused {r : Record} {driver : CardDriver} {hostname : String}
    (h : r.logical.remaining < driver.portCount ∨ Text.allBlank hostname = true)
    (address : SocketAddress) :
    r.describeCard driver address hostname =
      .error (if r.logical.remaining < driver.portCount
        then .exhausted r.site driver.portCount r.logical.remaining else .blank "hostname") := by
  unfold describeCard
  by_cases hfew : r.logical.remaining < driver.portCount
  · rw [if_pos hfew, if_pos hfew]
  · rw [if_neg hfew, if_neg hfew, if_pos (h.resolve_left hfew)]

/-- A card that is described fits and has a name. -/
theorem of_describeCard {r : Record} {driver : CardDriver} {address : SocketAddress}
    {hostname : String} {notice : CardNotice}
    (hdescribe : r.describeCard driver address hostname = .ok notice) :
    driver.portCount ≤ r.logical.remaining ∧ Text.allBlank hostname = false := by
  by_cases hrefused : r.logical.remaining < driver.portCount ∨ Text.allBlank hostname = true
  · rw [describeCard_refused hrefused] at hdescribe
    cases hdescribe
  · rwa [not_or, Nat.not_lt, Bool.not_eq_true] at hrefused

/-- Any other card is attached behind the others, and its ports are bound. -/
theorem Coherent.attachCard_accepted {r : Record} (h : r.Coherent) {driver : CardDriver}
    {hostname : String} (hfit : driver.portCount ≤ r.logical.remaining)
    (hname : Text.allBlank hostname = false) (address : SocketAddress) :
    r.attachCard driver address hostname =
      (.ok (r.physical.cards.length + 1), r.withNextCard driver address hostname) := by
  have hcount := driver.portCount_eq
  have hremaining := h.remaining
  have hlength := h.numbered.length_devicePorts
  -- Sixteen cards use up all logical ports, so numbers do not run out.
  have hnumber : r.physical.nextNumber = .ok (r.physical.cards.length + 1) := by
    rw [Physical.Chassis.nextNumber, if_pos]
    simp only [portCapacity, slotsPerChassis, portsPerSlot, Physical.greatestCard] at *
    omega
  have hdescribe : r.describeCard driver address hostname = .ok {
      site := r.site, number := r.physical.cards.length + 1, driver, address
      hostname  := Text.trim hostname
      portCount := driver.portCount
      endpoint  := r.endpoint } := by
    rw [describeCard, if_neg (by omega), if_neg (by simp [hname]), hnumber]
    rfl
  have hcard : r.physical.nextCard driver address (Text.trim hostname) =
      .ok (r.nextCard driver address hostname) := by
    rw [Physical.Chassis.nextCard, hnumber]
    rfl
  -- The logical ports that are left are those that the binder hands out next.
  have hports := (numbered_nextCard r driver address hostname).length_devicePorts
  have hbind : r.logical.bindEach (r.nextCard driver address hostname).devicePorts =
      (.ok (), .laidOut r.physical.site r.logical.rack r.logical.shelf
        (r.physical.devicePorts ++ (r.nextCard driver address hostname).devicePorts)) := by
    rw [h.laidOut]
    exact Logical.Chassis.bindEach_laidOut _ (by omega)
  have hnumber' : (r.nextCard driver address hostname).number = r.physical.cards.length + 1 := rfl
  rw [attachCard, hdescribe]
  simp only [installCard, ne_eq, not_true_eq_false, if_false, hcard, hnumber', hbind]
  rfl

theorem attachCard_refused {r : Record} {driver : CardDriver} {hostname : String}
    (h : r.logical.remaining < driver.portCount ∨ Text.allBlank hostname = true)
    (address : SocketAddress) :
    r.attachCard driver address hostname =
      (.error (if r.logical.remaining < driver.portCount
        then .exhausted r.site driver.portCount r.logical.remaining else .blank "hostname"), r) := by
  rw [attachCard, describeCard_refused h]

theorem devicePorts_withCard (c : Physical.Chassis) (card : Card) :
    (c.withCard card).devicePorts = c.devicePorts ++ card.devicePorts := by
  simp [Physical.Chassis.devicePorts, Physical.Chassis.withCard]

theorem Coherent.withNextCard {r : Record} (h : r.Coherent) {driver : CardDriver}
    (hfit : driver.portCount ≤ r.logical.remaining) (address : SocketAddress)
    (hostname : String) : (r.withNextCard driver address hostname).Coherent where
  laidOut  := by
    rw [Record.withNextCard, devicePorts_withCard]
    rfl
  numbered := h.numbered.withCard (numbered_nextCard r driver address hostname)
  linked   := Physical.Chassis.linked_withCard h.linked (Card.linked_linked _ _)
  fits     := by
    have hcount := driver.portCount_eq
    have hremaining := h.remaining
    have hports := (numbered_nextCard r driver address hostname).length_devicePorts
    rw [Record.withNextCard, devicePorts_withCard, List.length_append]
    omega

theorem Coherent.attachCard {r : Record} (h : r.Coherent) (driver : CardDriver)
    (address : SocketAddress) (hostname : String) :
    (r.attachCard driver address hostname).2.Coherent := by
  -- The two conditions are those of `describeCard`; nothing later can fail.
  by_cases hrefused : r.logical.remaining < driver.portCount ∨ Text.allBlank hostname = true
  · rw [attachCard_refused hrefused]
    exact h
  · rw [not_or, Nat.not_lt, Bool.not_eq_true] at hrefused
    rw [h.attachCard_accepted hrefused.1 hrefused.2]
    exact h.withNextCard hrefused.1 address hostname

/-! ## Section 4: Changing the login and transitions -/

theorem Coherent.withCredentials {r : Record} (h : r.Coherent) (user password : String) :
    (r.withCredentials user password).Coherent where
  laidOut  := h.laidOut
  numbered := h.numbered
  linked   := by
    have hcards := h.cards_linked
    simp only [Record.withCredentials, Physical.Chassis.linked, hcards]
  fits     := h.fits

/-- A transition changes no number. -/
theorem numbered_apply {c : Physical.Chassis} (h : c.Numbered) (t : Transition) (i j k : Nat) :
    (c.changeTerminal i j k t.apply).Numbered := by
  apply h.changeTerminal
  intro old
  unfold Transition.apply
  split <;> rfl

/-- A transition changes no back-reference. -/
theorem linked_apply {c : Physical.Chassis} (h : c.linked = c) (t : Transition) (i j k : Nat) :
    (c.changeTerminal i j k t.apply).linked = c.changeTerminal i j k t.apply := by
  apply Physical.Chassis.linked_changeTerminal h
  intro old p hp
  have hport : p = old.port := (congrArg Physical.Terminal.port hp)
  unfold Transition.apply
  split <;> rw [hport]

/-- A transition changes the values of one terminal at most. -/
theorem Coherent.changeTerminal {r : Record} (h : r.Coherent) (t : Transition) (i j k : Nat) :
    Coherent { r with physical := r.physical.changeTerminal i j k t.apply } where
  laidOut  := by
    rw [Physical.Chassis.devicePorts_changeTerminal]
    exact h.laidOut
  numbered := numbered_apply h.numbered t i j k
  linked   := linked_apply h.linked t i j k
  fits     := by
    rw [Physical.Chassis.devicePorts_changeTerminal]
    exact h.fits

/-- A transition is refused and changes nothing, or it is applied to the terminal that is found at
    its coordinate. -/
theorem commit_refused_or_applied (r : Record) (t : Transition) :
    (∃ e, r.commit t = (.error e, r)) ∨
      ∃ here old, r.binding? t.coordinate.onPort = some here ∧
        r.physical.terminal? here t.coordinate.terminalIndex.val = some old ∧
        r.commit t = (.ok (if t.action = .activate then .active else .inactive), { r with
          physical := r.physical.changeTerminal (here.card - 1) (here.port - 1)
            t.coordinate.terminalIndex.val t.apply }) := by
  unfold Record.commit
  split
  · exact Or.inl ⟨_, rfl⟩
  · unfold binding
    cases hbound : r.binding? t.coordinate.onPort with
    | none => exact Or.inl ⟨_, rfl⟩
    | some here =>
      dsimp only
      split
      · exact Or.inl ⟨_, rfl⟩
      · next physical hmodify =>
        obtain ⟨⟨old, hold⟩, rfl⟩ := Physical.Chassis.modifyTerminal_eq_some hmodify
        exact Or.inr ⟨here, old, rfl, hold, rfl⟩

/-- Whatever becomes of a transition, it changes one terminal at most. -/
theorem commit_cases (r : Record) (t : Transition) : (r.commit t).2 = r ∨
    ∃ i j k, (r.commit t).2 = { r with physical := r.physical.changeTerminal i j k t.apply } := by
  rcases r.commit_refused_or_applied t with ⟨_, hrefused⟩ | ⟨_, _, _, _, happlied⟩
  · rw [hrefused]
    exact Or.inl rfl
  · rw [happlied]
    exact Or.inr ⟨_, _, _, rfl⟩

theorem Coherent.commit {r : Record} (h : r.Coherent) (t : Transition) :
    (r.commit t).2.Coherent := by
  rcases r.commit_cases t with hsame | ⟨i, j, k, hchanged⟩
  · rw [hsame]
    exact h
  · rw [hchanged]
    exact h.changeTerminal t i j k

theorem Coherent.of_commit {r r' : Record} (h : r.Coherent) {t : Transition}
    {result : Except ChassisError TerminalState} (hcommit : r.commit t = (result, r')) :
    r'.Coherent := by
  have hcoherent := h.commit t
  rw [hcommit] at hcoherent
  exact hcoherent

theorem Coherent.after {r : Record} (h : r.Coherent) (what : Change) :
    (r.after what).Coherent := by
  cases what with
  | login user password => exact h.withCredentials user password
  | attach driver address hostname => exact h.attachCard driver address hostname
  | terminal c request =>
    simp only [Record.after]
    cases r.prepare c request with
    | ok t => exact h.commit t
    | error e => exact h

/-- The halves of every reachable record fit. -/
theorem Reachable.coherent {r : Record} (h : Reachable r) : r.Coherent := by
  -- A record that is read needs no induction: joining makes it coherent whatever was written.
  induction h with
  | create site endpoint rack shelf => exact coherent_create site endpoint rack shelf
  | read hread =>
    obtain ⟨l, p, hjoin⟩ := join_of_read hread
    exact coherent_of_join hjoin
  | change what _ ih => exact ih.after what

/-! ## Section 5: What no change touches -/

/-- Rack, shelf and the address of the endpoint are those of another record. -/
structure InPlace (r s : Record) : Prop where
  logical  : r.logical.rack = s.logical.rack ∧ r.logical.shelf = s.logical.shelf
  physical : r.physical.rack = s.physical.rack ∧ r.physical.shelf = s.physical.shelf
  address  : r.endpoint.address = s.endpoint.address

theorem inPlace_refl (r : Record) : InPlace r r := ⟨⟨rfl, rfl⟩, ⟨rfl, rfl⟩, rfl⟩

theorem inPlace_commit (r : Record) (t : Transition) : InPlace (r.commit t).2 r := by
  rcases r.commit_cases t with hsame | ⟨i, j, k, hchanged⟩
  · rw [hsame]
    exact r.inPlace_refl
  · rw [hchanged]
    exact ⟨⟨rfl, rfl⟩, ⟨rfl, rfl⟩, rfl⟩

theorem Coherent.inPlace_after {r : Record} (h : r.Coherent) (what : Change) :
    InPlace (r.after what) r := by
  cases what with
  | login user password => exact ⟨⟨rfl, rfl⟩, ⟨rfl, rfl⟩, rfl⟩
  | attach driver address hostname =>
    by_cases hrefused : r.logical.remaining < driver.portCount ∨ Text.allBlank hostname = true
    · rw [Record.after, attachCard_refused hrefused]
      exact r.inPlace_refl
    · rw [not_or, Nat.not_lt, Bool.not_eq_true] at hrefused
      rw [Record.after, h.attachCard_accepted hrefused.1 hrefused.2]
      exact ⟨⟨rfl, rfl⟩, ⟨rfl, rfl⟩, rfl⟩
  | terminal c request =>
    simp only [Record.after]
    cases r.prepare c request with
    | ok t => exact r.inPlace_commit t
    | error e => exact r.inPlace_refl

/-! ## Section 6: A record with one card -/

/-- A chassis to which one card was attached. -/
def oneCard : Record :=
  (create ⟨"lab", by decide +kernel, by decide⟩ ⟨.v4 ⟨10, 0, 0, 1⟩ 8080, "olt", "secret"⟩
    1 2).after (.attach .adtran (.v4 ⟨10, 0, 0, 2⟩ 830) " card-1 ")

theorem reachable_oneCard : Reachable oneCard :=
  .change _ (.create _ _ _ _)

end ChassisRegistry.Record
