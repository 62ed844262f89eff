import ChassisRegistry.Proofs.ActiveTerminals
import ChassisRegistry.Proofs.Chronicle

/-! # What an active terminal stores

    Values for later may leave anything blank, a deactivation keeps what was
    there, and an activation by serial number mixes what was provided with what
    is planned. Still every active terminal has a trimmed serial number and
    both tags, and an identifier that is blank was given so with the activation
    itself.

    So a notice of an activation or a deactivation tells of tags that are
    stored, and never falls back on the planned ones.

    Main statements: `Record.Led.complete` and
    `Record.Complete.exists_told`. -/

namespace ChassisRegistry

/-! ## Section 1: Texts that are not blank -/

namespace Text

theorem allBlank_trim (s : String) : allBlank (trim s) = allBlank s := by
  rw [allBlank, trim_trim, allBlank]

theorem allBlank_of_mem {s : String} {c : Char} (hmem : c ∈ s.toList) (hc : isBlank c = false) :
    allBlank s = false := by
  by_contra hblank
  have hempty : trim s = "" := by simpa [allBlank] using hblank
  have hnil : trimChars s.toList = [] := by rw [← toList_trim, hempty, String.toList_empty]
  have hchar := trimChars_eq_nil_iff.mp hnil c hmem
  rw [hc] at hchar
  cases hchar

/-- A text is not blank if its end is not. -/
theorem allBlank_append_of_mem (front : String) {back : String} {c : Char}
    (hmem : c ∈ back.toList) (hc : isBlank c = false) : allBlank (front ++ back) = false := by
  apply allBlank_of_mem _ hc
  rw [String.toList_append]
  exact List.mem_append_right _ hmem

end Text

namespace Identifier

theorem nasPort_not_blank (rack shelf : UInt32) (c : TerminalCoordinate) :
    Text.allBlank (nasPort rack shelf c) = false := by
  show Text.allBlank (_ ++ ".1.1") = false
  exact Text.allBlank_append_of_mem _ (c := '1') (by decide) (by decide)

theorem circuit_not_blank (site : Site) (rack shelf : UInt32) (c : TerminalCoordinate) :
    Text.allBlank (circuit site rack shelf c) = false := by
  show Text.allBlank (_ ++ ".1.1") = false
  exact Text.allBlank_append_of_mem _ (c := '1') (by decide) (by decide)

end Identifier

/-! ## Section 2: Complete services -/

/-- A service that can be told of as it is: its serial number is trimmed and not blank, and both
    tags are VLANs. -/
structure Physical.Service.Complete (s : Physical.Service) : Prop where
  serial      : Text.allBlank s.serial = false
  trimmed     : Text.trim s.serial = s.serial
  serviceTag  : ∃ v, s.serviceTag = some v ∧ 1 ≤ v.number ∧ v.number ≤ 4094
  customerTag : ∃ v, s.customerTag = some v ∧ 1 ≤ v.number ∧ v.number ≤ 4094

/-- Identifiers are blank only if the request was an explicit activation that brought them so. -/
structure TerminalRequest.Identifies (request : TerminalRequest) (s : Physical.Service) : Prop where
  nasPortId : Text.allBlank s.nasPortId = true →
    ∃ serial tags circuitId, request = .activateExplicit serial tags s.nasPortId circuitId
  circuitId : Text.allBlank s.circuitId = true →
    ∃ serial tags nasPortId, request = .activateExplicit serial tags nasPortId s.circuitId

/-- A serial number that was trimmed, with any tags. -/
theorem Physical.Service.complete_of_tags {s : Physical.Service} {serial : String}
    (hserial : Text.allBlank serial = false) (htrimmed : s.serial = Text.trim serial)
    (hservice : s.serviceTag.isSome) (hcustomer : s.customerTag.isSome) : s.Complete := by
  obtain ⟨service, hservice⟩ := Option.isSome_iff_exists.mp hservice
  obtain ⟨customer, hcustomer⟩ := Option.isSome_iff_exists.mp hcustomer
  exact {
    serial      := by rw [htrimmed, Text.allBlank_trim, hserial]
    trimmed     := by rw [htrimmed, Text.trim_trim]
    serviceTag  := ⟨service, hservice, service.positive, service.bounded⟩
    customerTag := ⟨customer, hcustomer, customer.positive, customer.bounded⟩ }

/-- Identifiers that are not blank say nothing of the request. -/
theorem TerminalRequest.identifies_of_not_blank {request : TerminalRequest} {s : Physical.Service}
    (hnasPort : Text.allBlank s.nasPortId = false) (hcircuit : Text.allBlank s.circuitId = false) :
    request.Identifies s where
  nasPortId hblank := by
    rw [hnasPort] at hblank
    cases hblank
  circuitId hblank := by
    rw [hcircuit] at hblank
    cases hblank

namespace Machine

variable {m : Machine} {c : TerminalCoordinate} {request : TerminalRequest} {cell : Cell}

theorem of_activated {serial : String} {service : String → Physical.Service}
    (h : activated serial service = .ok cell) :
    Text.allBlank serial = false ∧ cell = ⟨true, service (Text.trim serial)⟩ := by
  unfold activated at h
  split at h
  · cases h
  · next hserial =>
    cases h
    exact ⟨by simpa using hserial, rfl⟩

/-- An activation stores a complete service. -/
theorem complete_of_respond (hrespond : m.respond c request = .ok cell)
    (haction : request.action = .activate) :
    cell.service.Complete ∧ request.Identifies cell.service := by
  obtain ⟨⟨active, staged⟩, hold, hstate⟩ := state_of_respond hrespond
  rw [haction] at hstate
  cases active with
  | true => cases hstate
  | false =>
    -- By the three ways to activate: planned, explicit, or over what was provided.
    cases request with
    | preProvision => cases haction
    | deactivate => cases haction
    | activate serial =>
      simp only [respond, hold] at hrespond
      obtain ⟨hserial, rfl⟩ := of_activated hrespond
      refine ⟨Physical.Service.complete_of_tags hserial rfl rfl rfl, ?_⟩
      apply TerminalRequest.identifies_of_not_blank
      · exact Identifier.nasPort_not_blank m.rack m.shelf c
      · exact Identifier.circuit_not_blank m.site m.rack m.shelf c
    | activateExplicit serial tags nasPortId circuitId =>
      simp only [respond, hold] at hrespond
      obtain ⟨hserial, rfl⟩ := of_activated hrespond
      refine ⟨Physical.Service.complete_of_tags hserial rfl rfl rfl, ?_, ?_⟩
      · intro _
        exact ⟨serial, tags, circuitId, rfl⟩
      · intro _
        exact ⟨serial, tags, nasPortId, rfl⟩
    | activateSerial serial =>
      simp only [respond, hold] at hrespond
      obtain ⟨hserial, rfl⟩ := of_activated hrespond
      refine ⟨Physical.Service.complete_of_tags hserial rfl rfl rfl, ?_⟩
      apply TerminalRequest.identifies_of_not_blank
      · simp only [filled]
        split
        · exact Identifier.nasPort_not_blank m.rack m.shelf c
        · next hstaged => simpa using hstaged
      · simp only [filled]
        split
        · exact Identifier.circuit_not_blank m.site m.rack m.shelf c
        · next hstaged => simpa using hstaged

end Machine

/-! ## Section 3: Deeds -/

/-- The activation of a terminal that a change asks for. -/
def Change.activation? (c : TerminalCoordinate) : Change → Option TerminalRequest
  | .terminal d request => if d = c ∧ request.action = .activate then some request else none
  | _ => none

/-- The last activation of a terminal among changes that were carried out. -/
def Change.lastActivation? (c : TerminalCoordinate) (deeds : List Change) :
    Option TerminalRequest :=
  (deeds.filterMap (activation? c)).getLast?

theorem Change.lastActivation?_concat (c : TerminalCoordinate) (deeds : List Change)
    (what : Change) :
    lastActivation? c (deeds ++ [what]) = (what.activation? c).or (lastActivation? c deeds) := by
  unfold lastActivation?
  rw [List.filterMap_append]
  cases hwhat : what.activation? c with
  | none => simp [hwhat]
  | some request => simp [hwhat]

/-- What a site has come to from its creation on, by the changes that were carried out. -/
inductive Record.Led (site : Site) : List Change → Option Record → Prop where
  | absent : Led site [] none
  | created (endpoint : Endpoint) (rack shelf : UInt32) :
      Led site [] (some (.create site endpoint rack shelf))
  | carriedOut {deeds : List Change} {r : Record} {what : Change} {plan : Plan}
      (h : Led site deeds (some r)) (hplan : r.plan what = .ok plan) :
      Led site (deeds ++ [what]) (some (r.after what))

namespace Record

variable {r : Record} {c : TerminalCoordinate} {service : Physical.Service} {site : Site}
  {deeds : List Change}

/-- A terminal that is active after a change was so before, or the change has activated it. -/
theorem Coherent.active_after (h : r.Coherent) {what : Change} {plan : Plan}
    (hplan : r.plan what = .ok plan) (hcell : (r.after what).cell? c = some ⟨true, service⟩) :
    (r.cell? c = some ⟨true, service⟩ ∧ what.activation? c = none) ∨
      ∃ request, what.activation? c = some request ∧ service.Complete ∧
        request.Identifies service := by
  cases what with
  | login user password => exact Or.inl ⟨hcell, rfl⟩
  | attach driver address hostname =>
    refine Or.inl ⟨?_, rfl⟩
    simp only [Record.after, h.attachCard_eq] at hcell
    split at hcell
    · next hok =>
      -- What a card brings with it is vacant.
      rw [h.cell?_withNextCard hok.1] at hcell
      split at hcell
      · cases hcell
      · exact hcell
    · exact hcell
  | terminal d request =>
    obtain ⟨here, t, cell, _, _, hbound, _, _, hrespond, hafter⟩ := h.written_of_plan hplan
    rw [hafter, h.cell?_writeCell hbound] at hcell
    by_cases hcd : c = d
    · subst hcd
      right
      rw [Function.update_self, Option.some.injEq] at hcell
      subst hcell
      obtain ⟨_, hold, _⟩ := Machine.state_of_respond hrespond
      have haction : request.action = .activate := by
        have hactive := (respond_ok hold hrespond).1
        simpa using hactive.symm
      exact ⟨request, by simp [Change.activation?, haction],
        Machine.complete_of_respond hrespond haction⟩
    · rw [Function.update_of_ne hcd] at hcell
      exact Or.inl ⟨hcell, by simp [Change.activation?, Ne.symm hcd]⟩

/-- At a site that is not there nothing was done. -/
theorem Led.eq_nil (h : Led site deeds none) : deeds = [] := by
  generalize hnone : none = r? at h
  cases h with
  | absent => rfl
  | created endpoint rack shelf => cases hnone
  | carriedOut h hplan => cases hnone

theorem Led.coherent (h : Led site deeds (some r)) : r.Coherent := by
  generalize hr : some r = r? at h
  induction h generalizing r with
  | absent => cases hr
  | created endpoint rack shelf =>
    cases hr
    exact coherent_create site endpoint rack shelf
  | carriedOut _ _ ih =>
    cases hr
    exact (ih rfl).after _

/-- **Active terminals are complete**: whatever changes have led to a record, with no blanks but
    those of the last activation. -/
theorem Led.complete (h : Led site deeds (some r)) (hcell : r.cell? c = some ⟨true, service⟩) :
    service.Complete ∧
      ∃ request, Change.lastActivation? c deeds = some request ∧ request.Identifies service := by
  generalize hr : some r = r? at h
  -- By what was done last: it has left the terminal alone, or it has activated it.
  induction h generalizing r with
  | absent => cases hr
  | created endpoint rack shelf =>
    cases hr
    rw [cell?_create] at hcell
    cases hcell
  | carriedOut hbefore hplan ih =>
    cases hr
    rw [Change.lastActivation?_concat]
    rcases hbefore.coherent.active_after hplan hcell with
      ⟨hold, hnone⟩ | ⟨request, hrequest, hcomplete, hidentifies⟩
    · rw [hnone, Option.none_or]
      exact ih hold rfl
    · rw [hrequest, Option.some_or]
      exact ⟨hcomplete, request, rfl, hidentifies⟩

/-! ## Section 4: Notices of complete services -/

/-- Every active terminal stores a complete service. -/
def Complete (r : Record) : Prop :=
  ∀ c service, r.cell? c = some ⟨true, service⟩ → service.Complete

/-- The terminal that a notice is about is active, and stores what the notice tells. -/
def Stores (r : Record) (n : TerminalNotice) : Prop :=
  ∃ t, r.terminal n.coordinate = .ok t ∧ t.active = true ∧ t.service = n.service

theorem Led.complete_record (h : Led site deeds (some r)) : r.Complete :=
  fun _ _ hcell => (h.complete hcell).1

/-- A cell is what the terminal of its coordinate is seen as. -/
theorem Coherent.terminal_of_cell (h : r.Coherent) {cell : Cell} (hcell : r.cell? c = some cell) :
    ∃ t, r.terminal c = .ok t ∧ Cell.ofTerminal t = cell := by
  rcases h.terminal_cases c with ⟨_, hnone, _⟩ | ⟨_, t, _, _, hsome, hterminal⟩
  · rw [hnone] at hcell
    cases hcell
  · exact ⟨t, hterminal, Option.some.inj (hsome.symm.trans hcell)⟩

theorem Coherent.cell_of_terminal (h : r.Coherent) {t : Physical.Terminal}
    (hterminal : r.terminal c = .ok t) : r.cell? c = some (.ofTerminal t) := by
  rcases h.terminal_cases c with ⟨_, _, hnone⟩ | ⟨_, t', _, _, hsome, hterminal'⟩
  · rw [hnone] at hterminal
    cases hterminal
  · rw [hsome, Except.ok.inj (hterminal'.symm.trans hterminal)]

theorem Coherent.stores_of_cell (h : r.Coherent) {n : TerminalNotice}
    (hcell : r.cell? n.coordinate = some ⟨true, n.service⟩) : r.Stores n := by
  obtain ⟨t, hterminal, hseen⟩ := h.terminal_of_cell hcell
  rw [Cell.ofTerminal, Cell.mk.injEq] at hseen
  exact ⟨t, hterminal, hseen.1, hseen.2⟩

/-- The notice of a complete service takes nothing from the plan. -/
theorem service_of_noticeFor {n : TerminalNotice} (hn : r.noticeFor c service = .ok n)
    (hcomplete : service.Complete) : n.service = service := by
  obtain ⟨s, hs, _⟩ := hcomplete.serviceTag
  obtain ⟨k, hk, _⟩ := hcomplete.customerTag
  unfold noticeFor at hn
  obtain ⟨device, _, hcard⟩ := exists_of_bind hn
  split at hcard
  · cases hcard
  · obtain ⟨tags, _, hresult⟩ := exists_of_bind hcard
    cases hresult
    obtain ⟨serial, serviceTag, customerTag, nasPortId, circuitId, tech, speed⟩ := service
    obtain rfl : serviceTag = some s := hs
    obtain rfl : customerTag = some k := hk
    rfl

/-- A transition that is told of tells of what is stored: an activation of what it will store, a
    deactivation of what was stored before it. -/
theorem Complete.exists_told (hall : r.Complete) (h : r.Coherent) {request : TerminalRequest}
    {t : Transition} (hprepare : r.prepare c request = .ok t)
    (htold : t.action ≠ .preProvision) :
    ∃ n, t.notice = some n ∧ n.site = r.site ∧ n.coordinate = c ∧ n.service = t.service ∧
      t.service.Complete ∧ (t.action = .activate → (r.after (.terminal c request)).Stores n) ∧
      (t.action = .deactivate → r.Stores n) := by
  have hplan : r.plan (.terminal c request) = .ok (.transition t) := by
    simp only [Record.plan, hprepare, Except.map]
  obtain ⟨here, t', cell, htransition, haction, hbound, _, hservice, hrespond, hafter⟩ :=
    h.written_of_plan hplan
  obtain rfl : t = t' := Plan.transition.inj htransition
  obtain ⟨old, hold, hstate⟩ := Machine.state_of_respond hrespond
  obtain ⟨hactive, hkept⟩ := respond_ok hold hrespond
  have hcomplete : t.service.Complete := by
    rw [hservice]
    cases hrequest : request.action with
    | activate => exact (Machine.complete_of_respond hrespond hrequest).1
    | preProvision => exact absurd (haction.trans hrequest) htold
    | deactivate =>
      rw [hkept hrequest]
      obtain ⟨active, stored⟩ := old
      rw [hrequest] at hstate
      cases active with
      | false => cases hstate
      | true => exact hall c stored hold
  obtain ⟨n, hn, hsite, hcoordinate, _⟩ := h.exists_shown_notice hbound t.service
  have hsame := service_of_noticeFor hn hcomplete
  refine ⟨n, notice_of_prepare hprepare hn htold, hsite, hcoordinate, hsame, hcomplete, ?_, ?_⟩
  · intro hactivates
    apply (h.after _).stores_of_cell
    have hon : cell = ⟨true, n.service⟩ := by
      obtain ⟨active, stored⟩ := cell
      rw [hsame, hservice, Cell.mk.injEq]
      refine ⟨?_, rfl⟩
      simpa [← haction, hactivates] using hactive
    rw [hafter, h.cell?_writeCell hbound, hcoordinate, Function.update_self, hon]
  · intro hdeactivates
    apply h.stores_of_cell
    obtain ⟨active, stored⟩ := old
    rw [← haction, hdeactivates] at hstate
    cases active with
    | false => cases hstate
    | true =>
      rw [hcoordinate, hsame, hservice, hkept (haction.symm.trans hdeactivates)]
      exact hold

/-- What is told of an active terminal anew is what it stores. -/
theorem Complete.stores_of_activation? (hall : r.Complete) (h : r.Coherent) {n : TerminalNotice}
    (hn : r.activation? c = some n) : n.site = r.site ∧ n.service.Complete ∧ r.Stores n := by
  unfold activation? at hn
  cases hterminal : r.terminal c with
  | error e => simp [hterminal] at hn
  | ok t =>
    rw [hterminal] at hn
    simp only [Option.ite_none_right_eq_some] at hn
    obtain ⟨hactive, hn⟩ := hn
    have hcell := h.cell_of_terminal hterminal
    rw [Cell.ofTerminal, hactive] at hcell
    have hcomplete := hall c t.service hcell
    cases hnotice : r.noticeFor c t.service with
    | error e =>
      rw [hnotice] at hn
      cases hn
    | ok m =>
      rw [hnotice] at hn
      obtain rfl : m = n := Option.some.inj hn
      obtain ⟨hsite, hcoordinate, _⟩ := of_noticeFor hnotice
      have hsame := service_of_noticeFor hnotice hcomplete
      refine ⟨hsite, hsame ▸ hcomplete, h.stores_of_cell ?_⟩
      rw [hcoordinate, hsame]
      exact hcell

end Record

end ChassisRegistry
