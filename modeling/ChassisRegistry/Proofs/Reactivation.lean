import ChassisRegistry.Proofs.CompleteServices
import ChassisRegistry.Proofs.Inventories

/-! # Out of service and back

    A deactivation keeps what is stored, and an activation by serial number
    fills in what is missing. Where nothing is missing it has nothing to fill
    in, and so it undoes the deactivation: the record is again what it was,
    and the provisioning system is told the same three times. Under another
    serial number the record differs in that number only.

    What an activation leaves has no gaps, unless it was an explicit one that
    brought blank identifiers.

    Main statement: `Record.Handled.reactivates`. -/

namespace ChassisRegistry

/-! ## Section 1: Services without gaps -/

/-- A service in which nothing is missing that an activation by serial number could fill in. -/
structure Physical.Service.Whole (s : Physical.Service) : Prop extends s.Complete where
  nasPortId : Text.allBlank s.nasPortId = false
  circuitId : Text.allBlank s.circuitId = false

/-- Is this an activation that leaves no identifier blank? An explicit one has to bring both. -/
def TerminalRequest.Identifying : TerminalRequest → Prop
  | activate _ | activateSerial _ => True
  | activateExplicit _ _ nasPortId circuitId =>
      Text.allBlank nasPortId = false ∧ Text.allBlank circuitId = false
  | preProvision .. | deactivate => False

namespace Record

open Physical (Service)

variable {r : Record} {c : TerminalCoordinate} {given serial : String} {planned staged : Service}

theorem of_requireSerial (hserial : requireSerial given = .ok serial) :
    Text.allBlank given = false ∧ serial = Text.trim given := by
  unfold requireSerial at hserial
  split at hserial
  · cases hserial
  · next hblank => exact ⟨by simpa using hblank, (Except.ok.inj hserial).symm⟩

theorem serial_of_plannedService (hplanned : r.plannedService c serial = .ok planned) :
    planned.serial = serial := by
  unfold plannedService at hplanned
  obtain ⟨_, _, hservice⟩ := exists_of_bind hplanned
  cases hservice
  rfl

theorem whole_of_plannedService (hserial : requireSerial given = .ok serial)
    (hplanned : r.plannedService c serial = .ok planned) : planned.Whole := by
  obtain ⟨hblank, htrimmed⟩ := of_requireSerial hserial
  unfold plannedService at hplanned
  obtain ⟨_, _, hservice⟩ := exists_of_bind hplanned
  cases hservice
  exact {
    toComplete := Service.complete_of_tags hblank htrimmed rfl rfl
    nasPortId  := Identifier.nasPort_not_blank _ _ _
    circuitId  := Identifier.circuit_not_blank _ _ _ _ }

theorem unlessBlank_not_blank {fallback : String} (value : String)
    (hfallback : Text.allBlank fallback = false) :
    Text.allBlank (unlessBlank value fallback) = false := by
  unfold unlessBlank
  split
  · exact hfallback
  · next hvalue => simpa using hvalue

/-- What is completed by a service without gaps has none. -/
theorem whole_completed (h : planned.Whole) (staged : Service) :
    (completed staged planned).Whole := by
  obtain ⟨service, hservice, _⟩ := h.serviceTag
  obtain ⟨customer, hcustomer, _⟩ := h.customerTag
  have htags : (completed staged planned).serviceTag.isSome ∧
      (completed staged planned).customerTag.isSome := by
    simp [completed, hservice, hcustomer]
  refine {
    toComplete := Service.complete_of_tags h.serial h.trimmed.symm htags.1 htags.2
    nasPortId  := ?_
    circuitId  := ?_ }
  · simp only [completed]
    exact unlessBlank_not_blank _ h.nasPortId
  · simp only [completed]
    exact unlessBlank_not_blank _ h.circuitId

/-- In a service without gaps nothing is completed, but it gets the planned serial number. -/
theorem completed_of_whole (h : staged.Whole) (planned : Service) :
    completed staged planned = { staged with serial := planned.serial } := by
  obtain ⟨service, hservice, _⟩ := h.serviceTag
  obtain ⟨customer, hcustomer, _⟩ := h.customerTag
  simp [completed, unlessBlank, h.nasPortId, h.circuitId, hservice, hcustomer]

/-- Such an activation stores a service without gaps. -/
theorem whole_of_resolve {request : TerminalRequest} {action : Action} {service : Service}
    (hidentifying : request.Identifying) (hresolve : r.resolve c request = .ok (action, service)) :
    action = .activate ∧ service.Whole := by
  have hfilled : request.FillsIn → action = .activate ∧ service.Whole := by
    intro hfills
    obtain ⟨haction, _, _, _, hserial, hplanned, hservice⟩ := of_resolve hfills hresolve
    have hwhole := whole_of_plannedService hserial hplanned
    rcases hservice with rfl | ⟨staged, rfl⟩
    · exact ⟨haction, hwhole⟩
    · exact ⟨haction, whole_completed hwhole staged⟩
  cases request with
  | preProvision => exact hidentifying.elim
  | deactivate => exact hidentifying.elim
  | activate given => exact hfilled ⟨given, Or.inl rfl⟩
  | activateSerial given => exact hfilled ⟨given, Or.inr rfl⟩
  | activateExplicit given tags nasPortId circuitId =>
    obtain ⟨_, _, hresolve⟩ := exists_of_bind hresolve
    obtain ⟨_, hserial, hresult⟩ := exists_of_bind hresolve
    obtain ⟨hblank, htrimmed⟩ := of_requireSerial hserial
    cases hresult
    exact ⟨rfl, {
      toComplete := Service.complete_of_tags hblank htrimmed rfl rfl
      nasPortId  := hidentifying.1
      circuitId  := hidentifying.2 }⟩

/-! ## Section 2: Writing and writing again -/

variable {here : DevicePort} {old : Physical.Terminal}

/-- The record with another serial number at a coordinate. -/
def withSerial (r : Record) (c : TerminalCoordinate) (serial : String) : Record :=
  match r.binding? c.onPort with
  | none => r
  | some here =>
      { r with
        physical := r.physical.changeTerminal (here.card - 1) (here.port - 1)
          c.terminalIndex.val fun t => { t with service := { t.service with serial } } }

theorem writeCell_writeCell (here : DevicePort) (index : Nat) (cell cell' : Cell) :
    (r.writeCell here index cell).writeCell here index cell' = r.writeCell here index cell' := by
  have hput : cell'.put ∘ cell.put = cell'.put := rfl
  simp only [writeCell, Physical.Chassis.changeTerminal_changeTerminal, hput]

/-- Writing what is there changes nothing. -/
theorem writeCell_self {index : Nat} (hold : r.physical.terminal? here index = some old) :
    r.writeCell here index (.ofTerminal old) = r := by
  have hput : (Cell.ofTerminal old).put old = id old := rfl
  rw [writeCell, Physical.Chassis.changeTerminal_congr hold hput,
    Physical.Chassis.changeTerminal_id]

theorem writeCell_serial (hbound : r.binding? c.onPort = some here)
    (hold : r.physical.terminal? here c.terminalIndex.val = some old) (serial : String) :
    r.writeCell here c.terminalIndex.val ⟨old.active, { old.service with serial }⟩ =
      r.withSerial c serial := by
  simp only [writeCell, withSerial, hbound]
  rw [Physical.Chassis.changeTerminal_congr hold]
  rfl

/-- The terminal at a coordinate after a cell was written there. -/
theorem terminal?_writeCell (hold : r.physical.terminal? here c.terminalIndex.val = some old)
    (cell : Cell) : (r.writeCell here c.terminalIndex.val cell).physical.terminal? here
      c.terminalIndex.val = some (cell.put old) := by
  rw [writeCell, Physical.Chassis.terminal?_changeTerminal,
    Physical.Chassis.succ_pred_of_terminal? hold, if_pos ⟨rfl, rfl⟩, hold, Option.map_some]

/-- What terminals store is told of in their own notices only. -/
theorem noticeFor_writeCell (here : DevicePort) (index : Nat) (cell : Cell) (service : Service) :
    (r.writeCell here index cell).noticeFor c service = r.noticeFor c service := by
  have hbinding : (r.writeCell here index cell).binding c = r.binding c := rfl
  have htags : (r.writeCell here index cell).plannedTags c = r.plannedTags c := rfl
  have hcard : ∀ number, ∃ ports : Physical.Card → List Physical.Port,
      (r.writeCell here index cell).physical.card? number =
        (r.physical.card? number).map fun card => { card with ports := ports card } :=
    r.physical.exists_card?_changeTerminal _ _ _ _
  simp only [noticeFor, hbinding, htags]
  cases r.binding c with
  | error e => rfl
  | ok device =>
    obtain ⟨ports, hports⟩ := hcard device.card
    simp only [bind, Except.bind, hports]
    cases r.physical.card? device.card <;> rfl

theorem noticeFor_serial {service : Service} {n : TerminalNotice}
    (hn : r.noticeFor c service = .ok n) (serial : String) :
    r.noticeFor c { service with serial } = .ok { n with serial } := by
  unfold noticeFor at hn ⊢
  obtain ⟨device, hdevice, hcard⟩ := exists_of_bind hn
  split at hcard
  · cases hcard
  · next card hfound =>
    obtain ⟨tags, htags, hresult⟩ := exists_of_bind hcard
    cases hresult
    simp only [hdevice, htags, hfound, bind, Except.bind]
    rfl

/-! ## Section 3: Requests that are carried out -/

/-- A request is prepared with a notice and committed at once, and the record is another one
    then. -/
def Performs (r : Record) (c : TerminalCoordinate) (request : TerminalRequest) (n : TerminalNotice)
    (state : TerminalState) (after : Record) : Prop :=
  ∃ t, r.prepare c request = .ok t ∧ t.notice = some n ∧ r.commit t = (.ok state, after)

/-- A terminal is active and stores this. -/
def InService (r : Record) (c : TerminalCoordinate) (service : Service) : Prop :=
  ∃ t, r.terminal c = .ok t ∧ t.active = true ∧ t.service = service

/-- A request that the present state allows is carried out. -/
theorem performs_of_resolve (hbound : r.binding? c.onPort = some here)
    (hold : r.physical.terminal? here c.terminalIndex.val = some old) {request : TerminalRequest}
    {action : Action} {service : Service} {n : TerminalNotice}
    (hresolve : r.resolve c request = .ok (action, service)) (htold : action ≠ .preProvision)
    (hn : r.noticeFor c service = .ok n) :
    r.Performs c request n action.target (r.writeCell here c.terminalIndex.val
      (Transition.written ⟨r.site, c, action, service, some n⟩ (.ofTerminal old))) := by
  refine ⟨⟨r.site, c, action, service, some n⟩, ?_, rfl, commit_of_terminal rfl hbound hold⟩
  cases action with
  | preProvision => exact absurd rfl htold
  | _ =>
    simp only [prepare, hresolve, bind, Except.bind, hn, Except.map]
    rfl

/-- A terminal that is active is deactivated, and keeps what it stores. -/
theorem performs_deactivate (hbound : r.binding? c.onPort = some here)
    (hold : r.physical.terminal? here c.terminalIndex.val = some old) (hactive : old.active = true)
    {n : TerminalNotice} (hn : r.noticeFor c old.service = .ok n) :
    r.Performs c .deactivate n .inactive
      (r.writeCell here c.terminalIndex.val ⟨false, old.service⟩) := by
  have hresolve : r.resolve c .deactivate = .ok (.deactivate, old.service) := by
    simp only [resolve, activeTerminal, terminal_of_some hbound hold, hactive, if_true]
    rfl
  exact performs_of_resolve hbound hold hresolve (by decide) hn

/-- A terminal that is not active, and stores a service without gaps, is activated with it. -/
theorem performs_activateSerial (hbound : r.binding? c.onPort = some here)
    (hold : r.physical.terminal? here c.terminalIndex.val = some old)
    (hactive : old.active = false) (hwhole : old.service.Whole)
    (hplanned : r.plannedService c (Text.trim given) = .ok planned)
    (hgiven : Text.allBlank given = false) {n : TerminalNotice}
    (hn : r.noticeFor c old.service = .ok n) :
    r.Performs c (.activateSerial given) { n with serial := Text.trim given } .active
      (r.writeCell here c.terminalIndex.val
        ⟨true, { old.service with serial := Text.trim given }⟩) := by
  have hresolve : r.resolve c (.activateSerial given) =
      .ok (.activate, { old.service with serial := Text.trim given }) := by
    simp only [resolve, inactiveTerminal, terminal_of_some hbound hold, hactive, requireSerial,
      hgiven, hplanned, bind, Except.bind, Bool.false_eq_true, if_false]
    rw [completed_of_whole hwhole, serial_of_plannedService hplanned]
    rfl
  exact performs_of_resolve hbound hold hresolve (by decide) (noticeFor_serial hn _)

/-- A blank serial number is refused. -/
theorem prepare_of_blank (hterminal : r.terminal c = .ok old) (hactive : old.active = false)
    (hgiven : Text.allBlank given = true) :
    r.prepare c (.activateSerial given) = .error (.blank "serial") := by
  have hresolve : r.resolve c (.activateSerial given) = .error (.blank "serial") := by
    simp only [resolve, inactiveTerminal, hterminal, hactive, requireSerial, hgiven, bind,
      Except.bind, Bool.false_eq_true, if_false, if_true]
  rw [prepare, hresolve]
  rfl

theorem site_of_prepare {request : TerminalRequest} {t : Transition}
    (hprepare : r.prepare c request = .ok t) : t.site = r.site := by
  unfold prepare at hprepare
  obtain ⟨⟨action, _⟩, _, hnotice⟩ := exists_of_bind hprepare
  cases action with
  | preProvision =>
    cases hnotice
    rfl
  | _ =>
    obtain ⟨_, _, hresult⟩ := exists_of_bind hnotice
    cases hresult
    rfl

theorem exists_terminal_of_resolve {request : TerminalRequest} {action : Action} {service : Service}
    (hresolve : r.resolve c request = .ok (action, service)) : ∃ t, r.terminal c = .ok t := by
  cases hterminal : r.terminal c with
  | ok t => exact ⟨t, rfl⟩
  | error e =>
    cases request <;> simp [resolve, inactiveTerminal, activeTerminal, hterminal, bind, Except.bind]
      at hresolve

/-- What an activation that brings its identifiers leaves is active and has no gaps. -/
theorem whole_of_prepare {request : TerminalRequest} {t : Transition}
    (hidentifying : request.Identifying) (hprepare : r.prepare c request = .ok t) :
    ∃ service after, r.commit t = (.ok .active, after) ∧ after.InService c service ∧
      service.Whole := by
  obtain ⟨hcoordinate, hresolve, _⟩ := of_prepare hprepare
  obtain ⟨haction, hwhole⟩ := whole_of_resolve hidentifying hresolve
  have hsite : t.site = r.site := site_of_prepare hprepare
  obtain ⟨old, hterminal⟩ := exists_terminal_of_resolve hresolve
  obtain ⟨here, hbound, hold⟩ := terminal_eq_ok_iff.mp hterminal
  rw [← hcoordinate] at hbound hold
  have hcommit := commit_of_terminal hsite hbound hold
  have hwritten : t.written (.ofTerminal old) = ⟨true, t.service⟩ := by
    simp only [Transition.written, haction]
  rw [haction, hwritten] at hcommit
  refine ⟨t.service, _, hcommit, ⟨Cell.put ⟨true, t.service⟩ old, ?_, rfl, rfl⟩, hwhole⟩
  rw [← hcoordinate]
  exact terminal_of_some hbound (terminal?_writeCell hold ⟨true, t.service⟩)

/-! ## Section 4: There and back -/

/-- A terminal that is active with this service can be deactivated with this notice, and comes back
    from the record in between. -/
structure Returns (r : Record) (c : TerminalCoordinate) (service : Service) (n : TerminalNotice)
    (between : Record) : Prop where
  leaves  : r.Performs c .deactivate n .inactive between
  /-- By its own serial number it comes back into the very same record, with the same notice. -/
  back    : between.Performs c (.activateSerial service.serial) n .active r
  /-- The notices of all active terminals have this notice too, and no other of the terminal. -/
  told    : ∃ notices, r.activeNotices = .ok notices ∧
    notices.filter (fun m => m.coordinate = c) = [n]
  /-- By another serial number it comes back with that one, and all else is as it was. -/
  renamed : ∀ given, Text.allBlank given = false →
    between.Performs c (.activateSerial given) { n with serial := Text.trim given } .active
      (r.withSerial c (Text.trim given))
  refused : ∀ given, Text.allBlank given = true →
    between.prepare c (.activateSerial given) = .error (.blank "serial")

/-- The terminals of a record can be taken out of service and back. -/
structure Reactivates (r : Record) : Prop where
  returns : ∀ c service, r.InService c service → service.Whole →
    ∃ n between, r.Returns c service n between
  /-- Whatever an activation leaves can be, unless an explicit one has brought blank identifiers. -/
  left    : ∀ c request t, request.Identifying → r.prepare c request = .ok t →
    ∃ service after, r.commit t = (.ok .active, after) ∧ after.InService c service ∧ service.Whole

variable {targets : List DevicePort} {n : TerminalNotice}

theorem Backed.performs_back (h : r.Backed targets) (hbound : r.binding? c.onPort = some here)
    (hold : r.physical.terminal? here c.terminalIndex.val = some old) (hactive : old.active = true)
    (hwhole : old.service.Whole) (hn : r.noticeFor c old.service = .ok n)
    (hgiven : Text.allBlank given = false) :
    (r.writeCell here c.terminalIndex.val ⟨false, old.service⟩).Performs c
      (.activateSerial given) { n with serial := Text.trim given } .active
      (r.withSerial c (Text.trim given)) := by
  have hperforms := performs_activateSerial
    (r := r.writeCell here c.terminalIndex.val ⟨false, old.service⟩) hbound
    (terminal?_writeCell hold _) rfl hwhole (h.plannedService_eq c (Text.trim given)) hgiven
    ((noticeFor_writeCell here c.terminalIndex.val _ _).trans hn)
  rw [writeCell_writeCell] at hperforms
  rw [← writeCell_serial hbound hold, hactive]
  exact hperforms

/-- Its own serial number is no other one. -/
theorem withSerial_self (hbound : r.binding? c.onPort = some here)
    (hold : r.physical.terminal? here c.terminalIndex.val = some old) :
    r.withSerial c old.service.serial = r := by
  rw [← writeCell_serial hbound hold]
  exact writeCell_self hold

theorem activation?_of_active (hterminal : r.terminal c = .ok old) (hactive : old.active = true)
    (hn : r.noticeFor c old.service = .ok n) : r.activation? c = some n := by
  simp only [activation?, hterminal, hactive, if_true, hn]
  rfl

theorem coordinate_of_activation? (hn : r.activation? c = some n) : n.coordinate = c := by
  unfold activation? at hn
  split at hn
  · cases hn
  · next t _ =>
    rw [Option.ite_none_right_eq_some] at hn
    obtain ⟨_, hn⟩ := hn
    cases hnotice : r.noticeFor c t.service with
    | error e =>
      rw [hnotice] at hn
      cases hn
    | ok m =>
      rw [hnotice] at hn
      cases hn
      exact (of_noticeFor hnotice).2.1

theorem Backed.returns (h : r.Backed targets) {service : Service}
    (hservice : r.InService c service) (hwhole : service.Whole) :
    ∃ n between, r.Returns c service n between := by
  obtain ⟨old, hterminal, hactive, rfl⟩ := hservice
  obtain ⟨here, hbound, hold⟩ := terminal_eq_ok_iff.mp hterminal
  obtain ⟨n, hn⟩ := h.exists_notice hbound old.service
  have hback := fun given (hgiven : Text.allBlank given = false) =>
    h.performs_back hbound hold hactive hwhole hn hgiven
  refine ⟨n, r.writeCell here c.terminalIndex.val ⟨false, old.service⟩, {
    leaves  := performs_deactivate hbound hold hactive hn
    back    := ?_
    told    := ⟨_, h.activeNotices_eq, ?_⟩
    renamed := hback
    refused := ?_ }⟩
  · have hserial : n.serial = old.service.serial :=
      congrArg Service.serial (service_of_noticeFor hn hwhole.toComplete)
    have hkept : { n with serial := old.service.serial } = n := by rw [← hserial]
    have hsame := hback old.service.serial hwhole.serial
    rw [hwhole.trimmed, hkept, withSerial_self hbound hold] at hsame
    exact hsame
  · have hnotice := activation?_of_active hterminal hactive hn
    refine (filter_filterMap_key Function.injective_id TerminalCoordinate.nodup_all c.mem_all
      fun _ _ hm => coordinate_of_activation? hm).trans ?_
    rw [id, hnotice, Option.toList_some]
  · intro given hgiven
    exact prepare_of_blank (terminal_of_some hbound (terminal?_writeCell hold _)) rfl hgiven

/-! ## Section 5: Every record -/

theorem Assembled.backed {mounted : List Nat} (h : r.Assembled mounted) :
    r.Backed (mounted.flatMap cardPorts) where
  laidOut   := h.laidOut
  terminals := fun hbound k => h.numbered.exists_terminal (h.mem_devicePorts hbound) k

/-- **Out of service and back**: what an activation leaves can be deactivated and activated again
    by its serial number, and the record is what it was. -/
theorem Handled.reactivates (hr : Handled r) : Reactivates r := by
  obtain ⟨mounted, h⟩ := hr.assembled
  exact {
    returns := fun _ _ hservice hwhole => h.backed.returns hservice hwhole
    left    := fun _ _ _ hidentifying hprepare => whole_of_prepare hidentifying hprepare }

/-- The record `oneCard` with a terminal activated for which a profile was provided before. -/
def oneProfiled : Record :=
  (oneCard.after (.terminal onTwelfth (.preProvision none none "" " " (some "gold") none))).after
    (.terminal onTwelfth (.activateSerial " sn-45 "))

/-- What this terminal stores: all but the profile was filled in. -/
def profiledService : Service :=
  ⟨"sn-45", some ⟨301, by decide, by decide⟩, some ⟨1453, by decide, by decide⟩,
    "PON 1/2/1/12:45.1.1", "lab 1/2/1/12:45.1.1", some "gold", none⟩

theorem reactivates_oneProfiled :
    Handled oneProfiled ∧ Reactivates oneProfiled ∧
      oneProfiled.InService onTwelfth profiledService ∧ profiledService.Whole := by
  have hr : Handled oneProfiled := .reached (.change _ (.change _ reachable_oneCard))
  have hterminal : oneProfiled.terminal onTwelfth =
      .ok ⟨45, true, profiledService, some ⟨1, 12⟩⟩ := by decide +kernel
  exact ⟨hr, Handled.reactivates hr, ⟨_, hterminal, rfl, rfl⟩, {
    serial      := by decide +kernel
    trimmed     := by decide +kernel
    serviceTag  := ⟨_, rfl, by decide, by decide⟩
    customerTag := ⟨_, rfl, by decide, by decide⟩
    nasPortId   := by decide +kernel
    circuitId   := by decide +kernel }⟩

end Record

end ChassisRegistry
