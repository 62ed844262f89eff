import ChassisRegistry.Proofs.OlderLayout

/-! # Planned tags never collide

    The plan gives every coordinate another pair of tags. Stored tags come
    from it as long as no caller brings its own, but they are stored at a
    physical terminal, behind the bindings, and are kept through
    deactivations, filled in by later activations and read back from
    snapshots. All the while a terminal that has tags has those of the one
    coordinate that it is behind.

    Main statement: `Record.Life.tags_apart`. -/

namespace ChassisRegistry

/-! ## Section 1: The plan -/

namespace TagPair

theorem planned_injective {c d : TerminalCoordinate} (h : planned c = planned d) : c = d := by
  have hservice : serviceNumber c = serviceNumber d := congrArg (fun p => p.service.number) h
  have hcustomer : customerNumber c = customerNumber d := congrArg (fun p => p.customer.number) h
  obtain ⟨⟨⟨i, hi⟩, ⟨j, hj⟩⟩, ⟨k, hk⟩⟩ := c
  obtain ⟨⟨⟨i', hi'⟩, ⟨j', hj'⟩⟩, ⟨k', hk'⟩⟩ := d
  simp only [serviceNumber, customerNumber, TerminalCoordinate.port, PortCoordinate.port,
    slotStride, bandWidth, bandStride, terminalStride, customerSlotStride] at hservice hcustomer
  simp only [slotsPerChassis, portsPerSlot, terminalsPerPort] at hi hj hk hi' hj' hk'
  -- The service tag tells slot and port and the half of the terminals; the customer tag then tells
  -- the terminal.
  have hhalf : k / 32 = k' / 32 := by omega
  have hslot : i = i' := by omega
  have hport : j = j' := by omega
  have hterminal : k = k' := by omega
  subst hslot hport hterminal
  rfl

theorem planned_unreserved (c : TerminalCoordinate) :
    (planned c).service ≠ Vlan.reserved ∧ (planned c).customer ≠ Vlan.reserved := by
  have hservice := serviceNumber_bounds c
  have hcustomer := customerNumber_bounds c
  constructor
  · intro h
    have hnumber : serviceNumber c = 1 := congrArg Vlan.number h
    omega
  · intro h
    have hnumber : customerNumber c = 1 := congrArg Vlan.number h
    omega

end TagPair

/-! ## Section 2: Services with the tags of a coordinate -/

/-- A service has no tags, or both of those that are planned for a coordinate. -/
def Physical.Service.Planned (service : Physical.Service) (c : TerminalCoordinate) : Prop :=
  (service.serviceTag = none ∧ service.customerTag = none) ∨
    (service.serviceTag = some (TagPair.planned c).service ∧
      service.customerTag = some (TagPair.planned c).customer)

/-- Is the choice of tags left to the plan? -/
def TerminalRequest.PlansTags : TerminalRequest → Prop
  | .activateExplicit .. => False
  | .preProvision serviceTag customerTag .. => serviceTag = none ∧ customerTag = none
  | .activate _ | .activateSerial _ | .deactivate => True

/-- Is the choice of tags left to the plan? -/
def Change.PlansTags : Change → Prop
  | .terminal _ request => request.PlansTags
  | .login .. | .attach .. => True

/-- What is filled in beside planned tags is planned. -/
theorem Machine.planned_filled (m : Machine) {c : TerminalCoordinate} (serial : String)
    {staged : Physical.Service} (h : staged.Planned c) : (m.filled c serial staged).Planned c := by
  right
  rcases h with ⟨hservice, hcustomer⟩ | ⟨hservice, hcustomer⟩
  · simp only [filled, hservice, hcustomer, Option.getD_none, and_self]
  · simp only [filled, hservice, hcustomer, Option.getD_some, and_self]

/-- A request that leaves the tags to the plan writes planned tags over planned tags. -/
theorem Machine.planned_of_respond {m : Machine} {c : TerminalCoordinate}
    {request : TerminalRequest} {old cell : Cell} (hold : m.cells c = some old)
    (hplans : request.PlansTags) (h : old.service.Planned c)
    (hrespond : m.respond c request = .ok cell) : cell.service.Planned c := by
  have hactivated : ∀ {serial service}, activated serial service = .ok cell →
      (∀ s, (service s).Planned c) → cell.service.Planned c := by
    intro serial service hok hservice
    unfold activated at hok
    split at hok
    · cases hok
    · cases hok
      exact hservice _
  obtain ⟨active, staged⟩ := old
  cases active with
  | true =>
    cases request with
    | deactivate =>
      simp only [respond, hold, Except.ok.injEq] at hrespond
      rw [← hrespond]
      exact h
    | _ => simp [respond, hold] at hrespond
  | false =>
    cases request with
    | deactivate => simp [respond, hold] at hrespond
    | activateExplicit => cases hplans
    | preProvision =>
      simp only [respond, hold, Except.ok.injEq] at hrespond
      rw [← hrespond]
      exact .inl hplans
    | activate serial =>
      simp only [respond, hold] at hrespond
      exact hactivated hrespond fun _ => .inr ⟨rfl, rfl⟩
    | activateSerial serial =>
      simp only [respond, hold] at hrespond
      exact hactivated hrespond fun s => m.planned_filled s h

/-! ## Section 3: The life of a site -/

namespace Record

variable {r : Record}

/-- Every coordinate has no tags or its planned ones. -/
def Planned (r : Record) : Prop :=
  ∀ c cell, r.cell? c = some cell → cell.service.Planned c

/-- What is prepared on such a record stores planned tags. -/
theorem Coherent.planned_of_prepare (h : r.Coherent) (hplanned : r.Planned)
    {c : TerminalCoordinate} {request : TerminalRequest} {t : Transition}
    (hplans : request.PlansTags) (ht : r.prepare c request = .ok t) :
    t.service.Planned t.coordinate := by
  cases hrespond : r.machine.respond c request with
  | error e =>
    rw [h.prepare_refused hrespond] at ht
    cases ht
  | ok cell =>
    rcases h.terminal_cases c with ⟨_, hnone, _⟩ | ⟨here, old, hbound, _, hcell, _⟩
    · simp [Machine.respond, machine, hnone] at hrespond
    · obtain ⟨notice, _, hprepare⟩ := h.exists_prepared hbound hrespond
      rw [hprepare] at ht
      cases ht
      exact Machine.planned_of_respond hcell hplans (hplanned c _ hcell) hrespond

/-- It may be committed on any other one. -/
theorem Coherent.planned_commit (h : r.Coherent) (hplanned : r.Planned) {t : Transition}
    (ht : t.service.Planned t.coordinate) : (r.commit t).2.Planned := by
  by_cases hsite : t.site = r.site
  · rcases h.terminal_cases t.coordinate with ⟨hunbound, _⟩ | ⟨_, old, _, _, hcell, _⟩
    · have hbinding : r.binding t.coordinate =
          .error (.unprovisionedPort r.site t.coordinate.slot t.coordinate.port) := by
        rw [binding, hunbound]
      simp only [Record.commit, hsite, hbinding, ne_eq, not_true_eq_false, if_false]
      exact hplanned
    · obtain ⟨_, _, hcells⟩ := h.commit_written hsite hcell
      intro d cell hd
      rw [hcells] at hd
      by_cases hdc : d = t.coordinate
      · subst hdc
        rw [Function.update_self, Option.some.injEq] at hd
        rw [← hd]
        -- A deactivation keeps what was there, the other two bring what was prepared.
        have hold := hplanned _ _ hcell
        unfold Transition.written
        split
        · exact ht
        · exact ht
        · exact hold
      · rw [Function.update_of_ne hdc] at hd
        exact hplanned d cell hd
  · simp only [Record.commit, ne_eq, hsite, not_false_eq_true, if_true]
    exact hplanned

theorem Coherent.planned_after (h : r.Coherent) (hplanned : r.Planned) {what : Change}
    (hplans : what.PlansTags) : (r.after what).Planned := by
  cases what with
  | login user password => exact hplanned
  | attach driver address hostname =>
    simp only [Record.after, h.attachCard_eq]
    split
    · next hok =>
      intro c cell hcell
      rw [h.cell?_withNextCard hok.1] at hcell
      split at hcell
      · cases hcell
        exact .inl ⟨rfl, rfl⟩
      · exact hplanned c cell hcell
    · exact hplanned
  | terminal c request =>
    simp only [Record.after]
    cases ht : r.prepare c request with
    | error e => exact hplanned
    | ok t => exact h.planned_commit hplanned (h.planned_of_prepare hplanned hplans ht)

theorem planned_create (site : Site) (endpoint : Endpoint) (rack shelf : UInt32) :
    (create site endpoint rack shelf).Planned := by
  intro c cell hcell
  rw [cell?_create] at hcell
  cases hcell

theorem Life.planned (h : Life Change.PlansTags r) : r.Planned := by
  induction h with
  | create site endpoint rack shelf => exact planned_create site endpoint rack shelf
  | change hplans hr ih => exact hr.coherent.planned_after ih hplans
  | commit hplans hs ht hr ihs ihr =>
    exact hr.coherent.planned_commit ihr (hs.coherent.planned_of_prepare ihs hplans ht)
  | reload hr hread ih =>
    obtain rfl := hr.eq_of_reload hread
    exact ih

end Record

/-! ## Section 4: Tags at the terminals -/

/-- A terminal that is found is on a listed port, and its index is one of a coordinate. -/
theorem Physical.Chassis.Numbered.of_terminal? {c : Chassis} (h : c.Numbered) {here : DevicePort}
    {index : Nat} {t : Terminal} (ht : c.terminal? here index = some t) :
    here ∈ c.devicePorts ∧ index < terminalsPerPort := by
  obtain ⟨i, j, card, port, rfl, hcard, hport, hterminal⟩ := exists_of_terminal? ht
  obtain ⟨hcardNumber, _, hports⟩ := h i card hcard
  obtain ⟨hportNumber, hlength, _⟩ := hports j port hport
  obtain ⟨hindex, _⟩ := List.getElem?_eq_some_iff.mp hterminal
  exact ⟨h.mem_devicePorts_iff.mpr ⟨card, port, hcard, hport, hcardNumber, hportNumber⟩,
    hlength ▸ hindex⟩

namespace Record

variable {r : Record}

/-- The coordinate that leads to a terminal of the cards. -/
def Behind (r : Record) (c : TerminalCoordinate) (here : DevicePort) (index : Nat) : Prop :=
  r.binding? c.onPort = some here ∧ c.terminalIndex.val = index

theorem Behind.cell? {c : TerminalCoordinate} {here : DevicePort} {index : Nat}
    {t : Physical.Terminal} (h : r.Behind c here index)
    (ht : r.physical.terminal? here index = some t) : r.cell? c = some (.ofTerminal t) := by
  rw [Record.cell?, h.1, h.2, Option.bind_some, ht, Option.map_some]

/-- Every terminal of the cards is behind one coordinate. -/
theorem Coherent.existsUnique_behind (h : r.Coherent) {here : DevicePort} {index : Nat}
    {t : Physical.Terminal} (ht : r.physical.terminal? here index = some t) :
    ∃! c, r.Behind c here index := by
  obtain ⟨hmem, hindex⟩ := h.numbered.of_terminal? ht
  obtain ⟨p, hp, hunique⟩ := h.existsUnique_binding? hmem
  refine ⟨⟨p, ⟨index, hindex⟩⟩, ⟨hp, rfl⟩, ?_⟩
  rintro ⟨q, k⟩ ⟨hq, hk⟩
  obtain rfl := hunique q hq
  rw [TerminalCoordinate.mk.injEq]
  exact ⟨rfl, Fin.ext hk⟩

/-- The tags of the terminals of a record are told apart. -/
structure TagsApart (r : Record) : Prop where
  /-- A terminal is behind one coordinate and has its planned tags, if it has any. -/
  planned : ∀ here index t, r.physical.terminal? here index = some t →
    ∃ c, (∀ d, r.Behind d here index ↔ d = c) ∧ t.service.Planned c
  /-- No two terminals that have tags have the same. -/
  distinct : ∀ here index t there index' t' service customer,
    r.physical.terminal? here index = some t → r.physical.terminal? there index' = some t' →
    t.service.serviceTag = some service → t.service.customerTag = some customer →
    t'.service.serviceTag = some service → t'.service.customerTag = some customer →
    here = there ∧ index = index'
  /-- No terminal has the reserved VLAN for a tag. -/
  unreserved : ∀ here index t, r.physical.terminal? here index = some t →
    t.service.serviceTag ≠ some .reserved ∧ t.service.customerTag ≠ some .reserved

theorem Coherent.planned_terminal (h : r.Coherent) (hplanned : r.Planned) {here : DevicePort}
    {index : Nat} {t : Physical.Terminal} (ht : r.physical.terminal? here index = some t) :
    ∃ c, (∀ d, r.Behind d here index ↔ d = c) ∧ t.service.Planned c := by
  obtain ⟨c, hc, hunique⟩ := h.existsUnique_behind ht
  refine ⟨c, ?_, hplanned c _ (hc.cell? ht)⟩
  intro d
  exact ⟨hunique d, fun hd => hd ▸ hc⟩

/-- **Planned tags never collide** in the life of a site whose callers leave them to the plan. -/
theorem Life.tags_apart (h : Life Change.PlansTags r) : TagsApart r := by
  have hcoherent := h.coherent
  refine {
    planned    := fun here index t ht => hcoherent.planned_terminal h.planned ht
    distinct   := ?_
    unreserved := ?_ }
  · intro here index t there index' t' service customer ht ht' hservice hcustomer hservice' hcustomer'
    -- Both have the planned pair of their coordinates, so these are one, and what is behind it is.
    have hpair : ∀ {here index t}, r.physical.terminal? here index = some t →
        t.service.serviceTag = some service → t.service.customerTag = some customer →
        ∃ c, r.Behind c here index ∧ TagPair.planned c = ⟨service, customer⟩ := by
      intro here index t ht hservice hcustomer
      obtain ⟨c, hbehind, ⟨hnone, _⟩ | ⟨hs, hc⟩⟩ := hcoherent.planned_terminal h.planned ht
      · rw [hservice] at hnone
        cases hnone
      · rw [hservice, Option.some.injEq] at hs
        rw [hcustomer, Option.some.injEq] at hc
        exact ⟨c, (hbehind c).mpr rfl, by rw [hs, hc]⟩
    obtain ⟨c, hc, hplanned⟩ := hpair ht hservice hcustomer
    obtain ⟨d, hd, hplanned'⟩ := hpair ht' hservice' hcustomer'
    obtain rfl := TagPair.planned_injective (hplanned.trans hplanned'.symm)
    exact ⟨Option.some.inj (hc.1.symm.trans hd.1), hc.2.symm.trans hd.2⟩
  · intro here index t ht
    obtain ⟨c, _, ⟨hs, hc⟩ | ⟨hs, hc⟩⟩ := hcoherent.planned_terminal h.planned ht
    · rw [hs, hc]
      exact ⟨nofun, nofun⟩
    · rw [hs, hc]
      have hplan := TagPair.planned_unreserved c
      exact ⟨fun heq => hplan.1 (Option.some.inj heq), fun heq => hplan.2 (Option.some.inj heq)⟩

/-- One terminal is activated and deactivated, another one is activated over nothing that was
    provided. -/
def twoTerminals (c d : TerminalCoordinate) : Record :=
  ((oneCard.after (.terminal c (.activate "sn-1"))).after (.terminal c .deactivate)).after
    (.terminal d (.activateSerial "sn-2"))

/-- The first two terminals of a card have tags, which are those of their coordinates. -/
theorem tags_apart_twoTerminals :
    let r := twoTerminals ⟨⟨⟨0, by decide⟩, ⟨0, by decide⟩⟩, ⟨0, by decide⟩⟩
      ⟨⟨⟨0, by decide⟩, ⟨0, by decide⟩⟩, ⟨1, by decide⟩⟩
    TagsApart r ∧
      ((r.physical.terminal? ⟨1, 1⟩ 0).map fun t =>
        (t.service.serviceTag.map Vlan.number, t.service.customerTag.map Vlan.number)) =
          some (some 2, some 2) ∧
      ((r.physical.terminal? ⟨1, 1⟩ 1).map fun t =>
        (t.service.serviceTag.map Vlan.number, t.service.customerTag.map Vlan.number)) =
          some (some 2, some 122) := by
  intro r
  have hcard : Life Change.PlansTags oneCard := .change (by trivial) (.create _ _ _ _)
  have hlife : Life Change.PlansTags r :=
    .change (by trivial) (.change (by trivial) (.change (by trivial) hcard))
  exact ⟨Life.tags_apart hlife, by decide +kernel, by decide +kernel⟩

end Record

end ChassisRegistry
