import ChassisRegistry.Proofs.TerminalMachine
import ChassisRegistry.Registry.Plan

/-! # What notices tell of a record

    The provisioning system sees of an active terminal what its notice tells:
    the service, and the physical port with its card. `Record.shown` is the
    same read off a record. Here it is said for every change what becomes of
    it, and which call goes out for the change.

    Main statements: `Record.Coherent.card_plan` and
    `Record.Coherent.terminal_plan`, all that the plans for a card and for a
    terminal can be. -/

namespace ChassisRegistry

/-! ## Section 1: What is shown -/

/-- What can be seen of an active terminal. -/
structure Shown where
  service  : Physical.Service
  device   : DevicePort
  address  : SocketAddress
  hostname : String
  driver   : CardDriver
  deriving DecidableEq

/-- The service that a notice tells of. -/
def TerminalNotice.service (n : TerminalNotice) : Physical.Service :=
  ⟨n.serial, some n.serviceTag, some n.customerTag, n.nasPortId, n.circuitId, n.techProfile,
    n.speedProfile⟩

/-- What a notice shows. -/
def TerminalNotice.shown (n : TerminalNotice) : Shown :=
  ⟨n.service, n.device, n.deviceAddress, n.deviceHostname, n.driver⟩

/-- A notice of a card, with another login. -/
def CardNotice.under (endpoint : Endpoint) (n : CardNotice) : CardNotice := { n with endpoint }

/-- What is shown of a cell behind a port, when the cards are these. -/
def Shown.of (cards : List CardNotice) : Option Cell → Option DevicePort → Option Shown
  | some ⟨true, service⟩, some here =>
      (numbered? cards here.card).map fun card =>
        ⟨service, here, card.address, card.hostname, card.driver⟩
  | _, _ => none

theorem Shown.of_inactive (cards : List CardNotice) (service : Physical.Service)
    (here : Option DevicePort) : Shown.of cards (some ⟨false, service⟩) here = none := by
  cases here <;> rfl

theorem Shown.service_of {cards : List CardNotice} {service : Physical.Service}
    {here : Option DevicePort} {view : Shown}
    (hview : Shown.of cards (some ⟨true, service⟩) here = some view) : view.service = service := by
  cases here with
  | none => cases hview
  | some here =>
    obtain ⟨card, _, rfl⟩ := Option.map_eq_some_iff.mp hview
    rfl

theorem numbered?_map {α β : Type} (f : α → β) (xs : List α) (number : Nat) :
    numbered? (xs.map f) number = (numbered? xs number).map f := by
  cases number with
  | zero => rfl
  | succ n => simp

/-- Logins of cards are not shown. -/
theorem Shown.of_under (endpoint : Endpoint) (cards : List CardNotice) (cell : Option Cell)
    (here : Option DevicePort) :
    Shown.of (cards.map (·.under endpoint)) cell here = Shown.of cards cell here := by
  unfold Shown.of
  split
  · rw [numbered?_map, Option.map_map]
    rfl
  · rfl

namespace Record

variable {r : Record} {c : TerminalCoordinate} {here : DevicePort}

/-- What is shown at a coordinate of a record. -/
def shown (r : Record) (c : TerminalCoordinate) : Option Shown :=
  Shown.of r.cardNotices (r.cell? c) (r.binding? c.onPort)

theorem shown_of_inactive {service : Physical.Service} (hcell : r.cell? c = some ⟨false, service⟩) :
    r.shown c = none := by
  rw [shown, hcell, Shown.of_inactive]

theorem shown_of_unbound (hcell : r.cell? c = none) : r.shown c = none := by
  rw [shown, hcell]
  rfl

/-- Behind a bound port is a card. -/
theorem Coherent.exists_card (h : r.Coherent) (hbound : r.binding? c.onPort = some here) :
    ∃ card, r.physical.card? here.card = some card ∧
      ∀ service, Shown.of r.cardNotices (some ⟨true, service⟩) (some here) =
        some ⟨service, here, card.address, card.hostname, card.driver⟩ := by
  obtain ⟨⟨card, hcard⟩, _⟩ := h.exists_terminal hbound
  have hnumbered : numbered? r.physical.cards here.card = some card := hcard
  refine ⟨card, hcard, ?_⟩
  intro service
  simp only [Shown.of, cardNotices, numbered?_map, hnumbered]
  rfl

/-- Something is shown exactly where a terminal is active. -/
theorem Coherent.shown_isSome_iff (h : r.Coherent) (c : TerminalCoordinate) :
    (r.shown c).isSome ↔ r.terminalState c = .active := by
  rw [h.terminalState_eq]
  rcases h.terminal_cases c with ⟨_, hcell, _⟩ | ⟨here, t, hbound, _, hcell, _⟩
  · rw [shown_of_unbound hcell, hcell]
    simp
  · obtain ⟨card, _, hshown⟩ := h.exists_card hbound
    rw [hcell]
    obtain ⟨number, active, service, port⟩ := t
    cases active with
    | true =>
      rw [shown, hcell, hbound]
      have hactive := hshown service
      simp [Cell.ofTerminal, hactive, Cell.state]
    | false =>
      rw [shown_of_inactive hcell]
      simp [Cell.ofTerminal, Cell.state]

/-- What is shown is stored with the terminal, and belongs to the card behind it. -/
theorem Coherent.of_shown (h : r.Coherent) {view : Shown} (hshown : r.shown c = some view) :
    (∃ t, r.terminal c = .ok t ∧ t.active = true ∧ t.service = view.service) ∧
      r.binding? c.onPort = some view.device ∧
      ∃ card, r.physical.card? view.device.card = some card ∧ card.address = view.address ∧
        card.hostname = view.hostname ∧ card.driver = view.driver := by
  rcases h.terminal_cases c with ⟨_, hcell, _⟩ | ⟨here, t, hbound, _, hcell, hterminal⟩
  · rw [shown_of_unbound hcell] at hshown
    cases hshown
  · obtain ⟨card, hcard, hview⟩ := h.exists_card hbound
    obtain ⟨number, active, service, port⟩ := t
    cases active with
    | false =>
      rw [shown_of_inactive hcell] at hshown
      cases hshown
    | true =>
      have hactive := hview service
      rw [shown, hcell, hbound] at hshown
      obtain rfl : _ = view := Option.some.inj (hactive.symm.trans hshown)
      exact ⟨⟨_, hterminal, rfl, rfl⟩, hbound, card, hcard, rfl, rfl, rfl⟩

/-! ## Section 2: Notices -/

/-- The notice of a service that has both tags shows it on the card behind the port. -/
theorem Coherent.exists_shown_notice (h : r.Coherent) (hbound : r.binding? c.onPort = some here)
    (service : Physical.Service) :
    ∃ n, r.noticeFor c service = .ok n ∧ n.site = r.site ∧ n.coordinate = c ∧
      (service.serviceTag.isSome ∧ service.customerTag.isSome →
        Shown.of r.cardNotices (some ⟨true, service⟩) (some here) = some n.shown) := by
  obtain ⟨card, hcard, hshown⟩ := h.exists_card hbound
  simp only [noticeFor, binding_of_some hbound, h.backed.plannedTags, bind, Except.bind, hcard]
  refine ⟨_, rfl, rfl, rfl, ?_⟩
  rintro ⟨hservice, hcustomer⟩
  -- Only a tag that is missing is told of as the planned one.
  obtain ⟨serial, serviceTag, customerTag, nasPortId, circuitId, tech, speed⟩ := service
  obtain ⟨service, rfl⟩ := Option.isSome_iff_exists.mp hservice
  obtain ⟨customer, rfl⟩ := Option.isSome_iff_exists.mp hcustomer
  exact hshown _

/-- The provisioning system is told of what is stored. -/
theorem notice_of_prepare {request : TerminalRequest} {t : Transition} {n : TerminalNotice}
    (hprepare : r.prepare c request = .ok t) (hnotice : r.noticeFor c t.service = .ok n)
    (htold : t.action ≠ .preProvision) : t.notice = some n := by
  obtain ⟨_, _, ⟨hstaged, _⟩ | ⟨_, n', hnoticed, hcarried⟩⟩ := of_prepare hprepare
  · exact absurd hstaged htold
  · rw [hnoticed, Except.ok.injEq] at hnotice
    rw [hcarried, hnotice]

/-- An activation stores a service with both tags. -/
theorem tags_of_respond {m : Machine} {request : TerminalRequest} {cell : Cell}
    (hrespond : m.respond c request = .ok cell) (haction : request.action = .activate) :
    cell.service.serviceTag.isSome ∧ cell.service.customerTag.isSome := by
  have hactivated : ∀ {serial service}, Machine.activated serial service = .ok cell →
      (∀ s, (service s).serviceTag.isSome ∧ (service s).customerTag.isSome) →
      cell.service.serviceTag.isSome ∧ cell.service.customerTag.isSome := by
    intro serial service hok htags
    unfold Machine.activated at hok
    split at hok
    · cases hok
    · cases hok
      exact htags _
  obtain ⟨old, hold, hstate⟩ := Machine.state_of_respond hrespond
  obtain ⟨active, staged⟩ := old
  rw [haction] at hstate
  cases active with
  | true => cases hstate
  | false =>
    -- What an activation fills in is planned or given by the caller.
    cases request with
    | preProvision => cases haction
    | deactivate => cases haction
    | _ =>
      simp only [Machine.respond, hold] at hrespond
      exact hactivated hrespond fun _ => ⟨rfl, rfl⟩

/-! ## Section 3: Changes -/

theorem cardNotices_withCredentials (user password : String) :
    (r.withCredentials user password).cardNotices =
      r.cardNotices.map (·.under (r.withCredentials user password).endpoint) := by
  simp only [cardNotices, List.map_map]
  rfl

/-- Another login is not shown. -/
theorem shown_withCredentials (user password : String) :
    (r.withCredentials user password).shown = r.shown := by
  funext c
  rw [shown, cardNotices_withCredentials, Shown.of_under]
  rfl

/-- A card is told of with its number, and as it is installed. -/
theorem cardNotices_withNextCard {driver : CardDriver} {address : SocketAddress} {hostname : String}
    {notice : CardNotice} (hdescribe : r.describeCard driver address hostname = .ok notice) :
    (r.withNextCard driver address hostname).cardNotices = r.cardNotices ++ [notice] := by
  unfold describeCard Physical.Chassis.nextNumber at hdescribe
  split at hdescribe
  · cases hdescribe
  · split at hdescribe
    · cases hdescribe
    · split at hdescribe
      · cases hdescribe
        simp [cardNotices, withNextCard, Physical.Chassis.withCard, nextCard, Physical.Card.linked,
          Physical.Card.vacant]
        exact ⟨fun _ _ => ⟨rfl, rfl⟩, rfl, rfl⟩
      · cases hdescribe

theorem numbered?_append_of_some {α : Type} {xs ys : List α} {number : Nat} {x : α}
    (hx : numbered? xs number = some x) : numbered? (xs ++ ys) number = some x := by
  cases number with
  | zero => cases hx
  | succ n =>
    rw [numbered?_succ] at hx ⊢
    obtain ⟨hn, _⟩ := List.getElem?_eq_some_iff.mp hx
    rw [List.getElem?_append_left hn, hx]

/-- A card that is attached shows nothing, and hides nothing. -/
theorem Coherent.shown_withNextCard (h : r.Coherent) {driver : CardDriver} {address : SocketAddress}
    {hostname : String} {notice : CardNotice}
    (hdescribe : r.describeCard driver address hostname = .ok notice)
    (hfit : driver.portCount ≤ r.logical.remaining) :
    (r.withNextCard driver address hostname).shown = r.shown := by
  funext c
  have hcell := h.cell?_withNextCard hfit address hostname c
  have hnew := (h.withNextCard hfit address hostname).binding?_eq c.onPort
  rcases h.terminal_cases c with ⟨hunbound, hnone, _⟩ | ⟨here, t, hbound, _, hsome, _⟩
  · -- Here a new terminal may stand, which is vacant.
    rw [shown_of_unbound hnone]
    rw [hnone] at hcell
    split at hcell
    · exact shown_of_inactive hcell
    · exact shown_of_unbound hcell
  · have hold := hbound
    rw [h.binding?_eq] at hold
    obtain ⟨hlt, _⟩ := List.getElem?_eq_some_iff.mp hold
    have hbound' : (r.withNextCard driver address hostname).binding? c.onPort = some here := by
      rw [hnew, Record.withNextCard, devicePorts_withCard]
      exact (List.getElem?_append_left hlt).trans hold
    rw [if_neg (by omega)] at hcell
    obtain ⟨card, _, hshown⟩ := h.exists_card hbound
    rw [shown, shown, hcell, hbound', hbound, hsome, cardNotices_withNextCard hdescribe]
    obtain ⟨number, active, service, port⟩ := t
    cases active with
    | false => rw [Cell.ofTerminal, Shown.of_inactive, Shown.of_inactive]
    | true =>
      obtain ⟨notice', hnotice, _⟩ := Option.map_eq_some_iff.mp (hshown service)
      simp only [Cell.ofTerminal, Shown.of, hnotice, numbered?_append_of_some hnotice]

theorem cardNotices_writeCell (r : Record) (here : DevicePort) (index : Nat) (cell : Cell) :
    (r.writeCell here index cell).cardNotices = r.cardNotices := by
  apply map_modify_of_eq
  intro card
  simp only [List.length_modify]

/-- Writing a cell changes what is shown at its coordinate, and nowhere else. -/
theorem Coherent.shown_writeCell (h : r.Coherent) (hbound : r.binding? c.onPort = some here)
    (cell : Cell) :
    (r.writeCell here c.terminalIndex.val cell).shown =
      Function.update r.shown c (Shown.of r.cardNotices (some cell) (some here)) := by
  have hcells := h.cell?_writeCell hbound cell
  have hbindings : (r.writeCell here c.terminalIndex.val cell).binding? = r.binding? := rfl
  funext d
  rw [shown, cardNotices_writeCell, hcells, hbindings]
  by_cases hdc : d = c
  · rw [hdc, Function.update_self, Function.update_self, hbound]
  · rw [Function.update_of_ne hdc, Function.update_of_ne hdc]
    rfl

/-! ## Section 4: Plans -/

/-- The plan for a card tells of the card that is installed, and changes nothing that is shown. -/
theorem Coherent.card_plan (h : r.Coherent) {driver : CardDriver} {address : SocketAddress}
    {hostname : String} {plan : Plan}
    (hplan : r.plan (.attach driver address hostname) = .ok plan) :
    ∃ notice, plan = .card notice ∧ notice.site = r.site ∧
      (r.after (.attach driver address hostname)).cardNotices = r.cardNotices ++ [notice] ∧
      (r.after (.attach driver address hostname)).shown = r.shown := by
  cases hdescribe : r.describeCard driver address hostname with
  | error e => simp [Record.plan, hdescribe, Except.map] at hplan
  | ok notice =>
    obtain ⟨hfit, hname⟩ := of_describeCard hdescribe
    have hafter : r.after (.attach driver address hostname) =
        r.withNextCard driver address hostname := by
      rw [Record.after, h.attachCard_accepted hfit hname]
    have hcards := cardNotices_withNextCard hdescribe
    have hsite : notice.site = r.site := by
      have hmem : notice ∈ (r.withNextCard driver address hostname).cardNotices := by
        simp [hcards]
      obtain ⟨card, _, rfl⟩ := List.mem_map.mp hmem
      rfl
    simp only [Record.plan, hdescribe, Except.map, Except.ok.injEq] at hplan
    rw [hafter]
    exact ⟨notice, hplan.symm, hsite, hcards, h.shown_withNextCard hdescribe hfit⟩

/-- All that the plan for a terminal can be, by its call and by what is shown after it. -/
inductive TerminalPlan (r : Record) (c : TerminalCoordinate) (plan : Plan) (after : Record) :
    Prop where
  /-- Values for later are told to nobody. -/
  | staged (hcall : plan.call? = none) (hshown : after.shown = r.shown)
  | activated (n : TerminalNotice) (hcall : plan.call? = some (.activate n))
      (hsite : n.site = r.site) (hcoordinate : n.coordinate = c) (hbefore : r.shown c = none)
      (hshown : after.shown = Function.update r.shown c (some n.shown))
  /-- If what was shown is what a notice told, the deactivation tells of the same service. -/
  | deactivated (n : TerminalNotice) (hcall : plan.call? = some (.deactivate n))
      (hsite : n.site = r.site) (hcoordinate : n.coordinate = c) (hbefore : (r.shown c).isSome)
      (hsame : ∀ m : TerminalNotice, r.shown c = some m.shown → n.service = m.service)
      (hshown : after.shown = Function.update r.shown c none)

/-- A plan for a terminal is carried out by writing a cell. -/
theorem Coherent.written_of_plan (h : r.Coherent) {request : TerminalRequest} {plan : Plan}
    (hplan : r.plan (.terminal c request) = .ok plan) :
    ∃ here t cell, plan = .transition t ∧ t.action = request.action ∧
      r.binding? c.onPort = some here ∧ r.prepare c request = .ok t ∧ t.service = cell.service ∧
      r.machine.respond c request = .ok cell ∧
      r.after (.terminal c request) = r.writeCell here c.terminalIndex.val cell := by
  cases hrespond : r.machine.respond c request with
  | error e => simp [Record.plan, h.prepare_refused hrespond, Except.map] at hplan
  | ok cell =>
    obtain ⟨here, t, hbound, haction, _, hprepare, hcommit⟩ := h.prepare_commit hrespond
    obtain ⟨_, _, hprepared⟩ := h.exists_prepared hbound hrespond
    have hservice : t.service = cell.service := by
      rw [hprepare, Except.ok.injEq] at hprepared
      rw [hprepared]
    simp only [Record.plan, hprepare, Except.map, Except.ok.injEq] at hplan
    exact ⟨here, t, cell, hplan.symm, haction, hbound, hprepare, hservice, rfl,
      by simp only [Record.after, hprepare, hcommit]⟩

theorem Coherent.terminal_plan (h : r.Coherent) {request : TerminalRequest} {plan : Plan}
    (hplan : r.plan (.terminal c request) = .ok plan) :
    (r.after (.terminal c request)).cardNotices = r.cardNotices ∧
      TerminalPlan r c plan (r.after (.terminal c request)) := by
  obtain ⟨here, t, ⟨isActive, service⟩, rfl, haction, hbound, hprepare, hservice, hrespond,
    hafter⟩ := h.written_of_plan hplan
  obtain ⟨⟨wasActive, oldService⟩, hold, hstate⟩ := Machine.state_of_respond hrespond
  obtain ⟨hactive, hkept⟩ := respond_ok hold hrespond
  have hcell : r.cell? c = some ⟨wasActive, oldService⟩ := hold
  obtain ⟨n, hnotice, hsite, hcoordinate, hview⟩ := h.exists_shown_notice hbound service
  have htold := notice_of_prepare hprepare (by rw [hservice]; exact hnotice)
  rw [hafter]
  refine ⟨cardNotices_writeCell .., ?_⟩
  have hwritten := h.shown_writeCell hbound ⟨isActive, service⟩
  -- One case for each action; the state before and after is the one that belongs to the action.
  cases hrequest : request.action with
  | preProvision =>
    rw [hrequest] at hstate haction hactive
    obtain rfl : isActive = false := hactive
    cases wasActive with
    | true => cases hstate
    | false =>
      have hbefore : r.shown c = none := shown_of_inactive hcell
      refine .staged (by simp only [Plan.call?, haction]) ?_
      rw [hwritten, Shown.of_inactive, ← hbefore, Function.update_eq_self]
  | activate =>
    rw [hrequest] at hstate haction hactive
    obtain rfl : isActive = true := hactive
    cases wasActive with
    | true => cases hstate
    | false =>
      have hnoticed : t.notice = some n := htold (by simp [haction])
      refine .activated n ?_ hsite hcoordinate (shown_of_inactive hcell) ?_
      · simp only [Plan.call?, haction, hnoticed, Option.map_some]
      · rw [hwritten, hview (tags_of_respond hrespond hrequest)]
  | deactivate =>
    rw [hrequest] at hstate haction hactive
    obtain rfl : isActive = false := hactive
    obtain rfl : service = oldService := hkept hrequest
    cases wasActive with
    | false => cases hstate
    | true =>
      have hnoticed : t.notice = some n := htold (by simp [haction])
      have hbefore : r.shown c = Shown.of r.cardNotices (some ⟨true, service⟩) (some here) := by
        rw [shown, hcell, hbound]
      obtain ⟨card, _, hcard⟩ := h.exists_card hbound
      refine .deactivated n ?_ hsite hcoordinate ?_ ?_ ?_
      · simp only [Plan.call?, haction, hnoticed, Option.map_some]
      · rw [hbefore, hcard]
        rfl
      · intro m hm
        -- What a notice told has both tags, so the new notice takes nothing from the plan.
        rw [hbefore] at hm
        have hsame : m.service = service := Shown.service_of hm
        have hn := hview (by rw [← hsame]; exact ⟨rfl, rfl⟩)
        exact (Shown.service_of hn).trans hsame.symm
      · rw [hwritten, Shown.of_inactive]

end Record

end ChassisRegistry
