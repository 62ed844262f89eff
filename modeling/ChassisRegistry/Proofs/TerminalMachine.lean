import ChassisRegistry.Proofs.Bindings
import ChassisRegistry.Transition
import Mathlib.Logic.Function.Basic

/-! # A record as a machine over coordinates

    Of the trees, the binder and the two halves of a record nothing is seen
    from a terminal coordinate but a cell: there is none while the port is
    unbound, and later one that holds whether the terminal is active and what
    it is provisioned with. `Machine` is a record as it is seen so, with the
    rules of the five requests written over a single cell.

    Main statement: in every reachable record a request is answered as the
    machine answers it, and preparing and committing it writes the cell of
    its coordinate and nothing else (`Record.Reachable.runs_machine`). -/

namespace ChassisRegistry

/-! ## Section 1: The machine -/

/-- What a coordinate with a bound port holds. -/
structure Cell where
  active  : Bool
  service : Physical.Service
  deriving DecidableEq

namespace Cell

/-- The cell of a terminal that was never provisioned. -/
def vacant : Cell := ⟨false, .empty⟩

/-- The state that a cell stands for. -/
def state (cell : Cell) : TerminalState :=
  if cell.active then .active else .inactive

/-- What is seen of a terminal. -/
def ofTerminal (t : Physical.Terminal) : Cell := ⟨t.active, t.service⟩

/-- The terminal with the values of a cell. -/
def put (cell : Cell) (t : Physical.Terminal) : Physical.Terminal :=
  { t with active := cell.active, service := cell.service }

end Cell

/-- A record as it is seen from the coordinates. -/
structure Machine where
  site  : Site
  rack  : UInt32
  shelf : UInt32
  /-- How many ports are bound, counted from the first. -/
  bound : Nat
  cells : TerminalCoordinate → Option Cell

/-- The action that a request asks for. -/
def TerminalRequest.action : TerminalRequest → Action
  | activate .. | activateExplicit .. | activateSerial .. => .activate
  | preProvision .. => .preProvision
  | deactivate => .deactivate

/-- The state that an action starts from. -/
def Action.source : Action → TerminalState
  | activate | preProvision => .inactive
  | deactivate => .active

/-- The state that an action leads to. -/
def Action.target : Action → TerminalState
  | activate => .active
  | preProvision | deactivate => .inactive

namespace Machine

/-- Planned tags and generated identifiers under a serial number. -/
def generated (m : Machine) (c : TerminalCoordinate) (serial : String) : Physical.Service where
  serial       := serial
  serviceTag   := some (TagPair.planned c).service
  customerTag  := some (TagPair.planned c).customer
  nasPortId    := Identifier.nasPort m.rack m.shelf c
  circuitId    := Identifier.circuit m.site m.rack m.shelf c
  techProfile  := none
  speedProfile := none

/-- What was provided before, with the gaps filled by planned tags and generated identifiers. -/
def filled (m : Machine) (c : TerminalCoordinate) (serial : String) (staged : Physical.Service) :
    Physical.Service where
  serial       := serial
  serviceTag   := some (staged.serviceTag.getD (TagPair.planned c).service)
  customerTag  := some (staged.customerTag.getD (TagPair.planned c).customer)
  nasPortId    :=
    if Text.allBlank staged.nasPortId then Identifier.nasPort m.rack m.shelf c
    else staged.nasPortId
  circuitId    :=
    if Text.allBlank staged.circuitId then Identifier.circuit m.site m.rack m.shelf c
    else staged.circuitId
  techProfile  := staged.techProfile
  speedProfile := staged.speedProfile

/-- Activation under a serial number, unless that is blank. -/
def activated (serial : String) (service : String → Physical.Service) :
    Except ChassisError Cell :=
  if Text.allBlank serial then .error (.invalid "serial" "must not be empty")
  else .ok ⟨true, service (Text.trim serial)⟩

/-- The cell after a request. -/
def respond (m : Machine) (c : TerminalCoordinate) (request : TerminalRequest) :
    Except ChassisError Cell :=
  match m.cells c, request with
  -- The port comes first, then the state that the action needs, then the serial number.
  | none, _ => .error (.unprovisionedPort m.site c.slot c.port)
  | some ⟨true, service⟩, .deactivate => .ok ⟨false, service⟩
  | some ⟨true, _⟩, _ => .error (.alreadyActive m.site c)
  | some ⟨false, _⟩, .deactivate => .error (.alreadyInactive m.site c)
  | some ⟨false, _⟩, .activate serial => activated serial (m.generated c)
  | some ⟨false, _⟩, .activateExplicit serial tags nasPortId circuitId =>
      activated serial fun serial =>
        ⟨serial, some tags.service, some tags.customer, nasPortId, circuitId, none, none⟩
  | some ⟨false, staged⟩, .activateSerial serial =>
      activated serial fun serial => m.filled c serial staged
  | some ⟨false, _⟩, .preProvision serviceTag customerTag nasPortId circuitId tech speed =>
      .ok ⟨false, ⟨"", serviceTag, customerTag, nasPortId, circuitId, tech, speed⟩⟩

/-- The machine after a change: a request writes one cell, and a card that is attached makes the
    next ports bound. -/
def after (m : Machine) : Change → Machine
  | .login _ _ => m
  | .attach driver _ hostname =>
      if m.bound + driver.portCount ≤ portCapacity ∧ Text.allBlank hostname = false then
        { m with
          bound := m.bound + driver.portCount
          cells := fun c =>
            if m.bound ≤ Logical.position c.onPort ∧
                Logical.position c.onPort < m.bound + driver.portCount
            then some .vacant else m.cells c }
      else m
  | .terminal c request =>
      match m.respond c request with
      | .error _ => m
      | .ok cell => { m with cells := Function.update m.cells c (some cell) }

/-- A request is allowed in the state that its action starts from. -/
theorem state_of_respond {m : Machine} {c : TerminalCoordinate} {request : TerminalRequest}
    {cell : Cell} (hrespond : m.respond c request = .ok cell) :
    ∃ old, m.cells c = some old ∧ old.state = request.action.source := by
  cases hcell : m.cells c with
  | none => simp [respond, hcell] at hrespond
  | some old =>
    refine ⟨old, rfl, ?_⟩
    obtain ⟨active, staged⟩ := old
    cases active with
    | true =>
      cases request with
      | deactivate => rfl
      | _ => simp [respond, hcell] at hrespond
    | false =>
      cases request with
      | deactivate => simp [respond, hcell] at hrespond
      | _ => rfl

end Machine

/-- The cell that a transition leaves where `old` was. -/
def Transition.written (t : Transition) (old : Cell) : Cell :=
  match t.action with
  | .activate     => ⟨true, t.service⟩
  | .preProvision => ⟨false, t.service⟩
  | .deactivate   => { old with active := false }

theorem Transition.apply_eq_put (t : Transition) (old : Physical.Terminal) :
    t.apply old = (t.written (.ofTerminal old)).put old := by
  obtain ⟨_, _, action, _, _⟩ := t
  cases action <;> rfl

@[simp] theorem Transition.state_written (t : Transition) (old : Cell) :
    (t.written old).state = t.action.target := by
  obtain ⟨_, _, action, _, _⟩ := t
  cases action <;> rfl

/-- Coordinates on one port with one index are the same. -/
theorem TerminalCoordinate.eq_of_parts {c d : TerminalCoordinate} (hport : c.onPort = d.onPort)
    (hindex : c.terminalIndex.val = d.terminalIndex.val) : c = d := by
  obtain ⟨cport, cindex⟩ := c
  obtain ⟨dport, dindex⟩ := d
  rw [TerminalCoordinate.mk.injEq]
  exact ⟨hport, Fin.ext hindex⟩

namespace Record

/-- What a coordinate of a record holds. -/
def cell? (r : Record) (c : TerminalCoordinate) : Option Cell :=
  (r.binding? c.onPort).bind fun here =>
    (r.physical.terminal? here c.terminalIndex.val).map Cell.ofTerminal

/-- A record as a machine. -/
def machine (r : Record) : Machine where
  site  := r.site
  rack  := r.logical.rack
  shelf := r.logical.shelf
  bound := portCapacity - r.logical.remaining
  cells := r.cell?

/-- The record with the values of a cell written behind a port. -/
def writeCell (r : Record) (here : DevicePort) (index : Nat) (cell : Cell) : Record :=
  { r with
    physical := r.physical.changeTerminal (here.card - 1) (here.port - 1) index cell.put }

/-! ## Section 2: Looking up -/

open Logical (boundIn)

variable {r : Record} {c : TerminalCoordinate}

/-- The logical half is laid out with some ports handed out, and behind each of these there are the
    terminals of a port. There may be other cards, of which nothing is handed out. -/
structure Backed (r : Record) (targets : List DevicePort) : Prop where
  laidOut   : r.logical = .laidOut r.physical.site r.logical.rack r.logical.shelf targets
  terminals : ∀ {p here}, r.binding? p = some here → ∀ k : Fin terminalsPerPort,
    ∃ t, r.physical.terminal? here k.val = some t

variable {targets : List DevicePort}

theorem Coherent.backed (h : r.Coherent) : r.Backed r.physical.devicePorts where
  laidOut   := h.laidOut
  terminals := fun hbound k => h.numbered.exists_terminal (h.mem_devicePorts hbound) k

theorem Backed.plannedTags (h : r.Backed targets) (c : TerminalCoordinate) :
    r.plannedTags c = .ok (TagPair.planned c) := by
  have hterminal : r.logical.terminal? c = some (.laidOut c) := by
    rw [h.laidOut, Logical.Chassis.terminal?, Logical.Chassis.port?_laidOut, Option.bind_some,
      Logical.Port.laidOut_terminals, Logical.getElem?_map_finRange]
  rw [Record.plannedTags, hterminal]
  rfl

/-- Behind a bound port there is a card with the terminal. -/
theorem Backed.exists_terminal (h : r.Backed targets) {here : DevicePort}
    (hbound : r.binding? c.onPort = some here) :
    (∃ card, r.physical.card? here.card = some card) ∧
      ∃ t, r.physical.terminal? here c.terminalIndex.val = some t := by
  obtain ⟨t, ht⟩ := h.terminals hbound c.terminalIndex
  obtain ⟨i, j, card, _, rfl, hcard, _⟩ := Physical.Chassis.exists_of_terminal? ht
  exact ⟨⟨card, hcard⟩, t, ht⟩

theorem Coherent.exists_terminal (h : r.Coherent) {here : DevicePort}
    (hbound : r.binding? c.onPort = some here) :
    (∃ card, r.physical.card? here.card = some card) ∧
      ∃ t, r.physical.terminal? here c.terminalIndex.val = some t :=
  h.backed.exists_terminal hbound

theorem binding_of_some {here : DevicePort} (hbound : r.binding? c.onPort = some here) :
    r.binding c = .ok here := by
  rw [binding, hbound]

theorem terminal_of_some {here : DevicePort} {t : Physical.Terminal}
    (hbound : r.binding? c.onPort = some here)
    (ht : r.physical.terminal? here c.terminalIndex.val = some t) : r.terminal c = .ok t := by
  rw [terminal, binding_of_some hbound]
  simp only [ht]

/-- A terminal is found at a coordinate behind the port of the coordinate. -/
theorem terminal_eq_ok_iff {t : Physical.Terminal} :
    r.terminal c = .ok t ↔ ∃ here, r.binding? c.onPort = some here ∧
      r.physical.terminal? here c.terminalIndex.val = some t := by
  constructor
  · intro hterminal
    unfold terminal binding at hterminal
    cases hbound : r.binding? c.onPort with
    | none => simp [hbound] at hterminal
    | some here =>
      simp only [hbound] at hterminal
      cases ht : r.physical.terminal? here c.terminalIndex.val with
      | none => simp [ht] at hterminal
      | some found =>
        simp only [ht, Except.ok.injEq] at hterminal
        exact ⟨here, rfl, by rw [ht, hterminal]⟩
  · rintro ⟨here, hbound, ht⟩
    exact terminal_of_some hbound ht

/-- A coordinate is looked up in a coherent record in one of two ways. -/
theorem Coherent.terminal_cases (h : r.Coherent) (c : TerminalCoordinate) :
    (r.binding? c.onPort = none ∧ r.cell? c = none ∧
      r.terminal c = .error (.unprovisionedPort r.site c.slot c.port)) ∨
    ∃ here t, r.binding? c.onPort = some here ∧
      r.physical.terminal? here c.terminalIndex.val = some t ∧
      r.cell? c = some (.ofTerminal t) ∧ r.terminal c = .ok t := by
  -- A bound port has a card and a terminal, so the two later refusals of the look-up never come.
  cases hbound : r.binding? c.onPort with
  | none =>
    left
    refine ⟨rfl, by rw [cell?, hbound, Option.bind_none], ?_⟩
    rw [terminal, binding, hbound]
  | some here =>
    right
    obtain ⟨_, t, ht⟩ := h.exists_terminal hbound
    refine ⟨here, t, rfl, ht, ?_, terminal_of_some hbound ht⟩
    rw [cell?, hbound, Option.bind_some, ht, Option.map_some]

/-- Where no card was attached yet, no coordinate holds anything. -/
theorem cell?_create (site : Site) (endpoint : Endpoint) (rack shelf : UInt32)
    (c : TerminalCoordinate) : (create site endpoint rack shelf).cell? c = none := by
  have hunbound : (create site endpoint rack shelf).binding? c.onPort = none := by
    rw [(coherent_create site endpoint rack shelf).binding?_eq]
    rfl
  rw [cell?, hunbound, Option.bind_none]

/-- The state of a coordinate is the one that its cell stands for. -/
theorem Coherent.terminalState_eq (h : r.Coherent) (c : TerminalCoordinate) :
    r.terminalState c = ((r.cell? c).map Cell.state).getD .unbound := by
  rcases h.terminal_cases c with ⟨_, hcell, hterminal⟩ | ⟨_, t, _, _, hcell, hterminal⟩
  · rw [terminalState, hterminal, hcell]
    rfl
  · rw [terminalState, hterminal, hcell]
    rfl

/-! ## Section 3: Preparing -/

theorem activated_eq (serial : String) (service : String → Physical.Service) :
    Machine.activated serial service =
      (requireSerial serial).map fun serial => ⟨true, service serial⟩ := by
  rw [Machine.activated, requireSerial]
  split <;> rfl

theorem Backed.plannedService_eq (h : r.Backed targets) (c : TerminalCoordinate)
    (serial : String) : r.plannedService c serial = .ok (r.machine.generated c serial) := by
  rw [plannedService, h.plannedTags]
  rfl

theorem Coherent.plannedService_eq (h : r.Coherent) (c : TerminalCoordinate) (serial : String) :
    r.plannedService c serial = .ok (r.machine.generated c serial) :=
  h.backed.plannedService_eq c serial

theorem completed_generated (m : Machine) (c : TerminalCoordinate) (serial : String)
    (staged : Physical.Service) :
    completed staged (m.generated c serial) = m.filled c serial staged := by
  have hor : ∀ (tag : Option Vlan) (planned : Vlan),
      tag.or (some planned) = some (tag.getD planned) := by
    intro tag planned
    cases tag <;> rfl
  simp only [completed, Machine.generated, Machine.filled, hor]
  rfl

/-- Preparing resolves to what the machine writes. -/
theorem Coherent.resolve_eq (h : r.Coherent) (c : TerminalCoordinate)
    (request : TerminalRequest) :
    r.resolve c request =
      (r.machine.respond c request).map fun cell => (request.action, cell.service) := by
  -- The cases are those of `Machine.respond`: unbound, active, and inactive for each request.
  have hplanned := h.plannedService_eq c
  rcases h.terminal_cases c with ⟨_, hcell, hterminal⟩ | ⟨_, t, _, _, hcell, hterminal⟩
  · have hrespond : r.machine.respond c request =
        .error (.unprovisionedPort r.site c.slot c.port) := by
      simp only [Machine.respond, machine, hcell]
    have hinactive : r.inactiveTerminal c = .error (.unprovisionedPort r.site c.slot c.port) := by
      simp only [inactiveTerminal, hterminal]
    have hactive : r.activeTerminal c = .error (.unprovisionedPort r.site c.slot c.port) := by
      simp only [activeTerminal, hterminal]
    rw [hrespond]
    cases request <;> simp only [resolve, hinactive, hactive] <;> rfl
  · obtain ⟨number, active, staged, port⟩ := t
    have hcells : r.machine.cells c = some ⟨active, staged⟩ := hcell
    cases active with
    | true =>
      have hinactive : r.inactiveTerminal c = .error (.alreadyActive r.site c) := by
        simp only [inactiveTerminal, hterminal]
        rfl
      have hactive : r.activeTerminal c = .ok ⟨number, true, staged, port⟩ := by
        simp only [activeTerminal, hterminal]
        rfl
      cases request <;> simp only [resolve, hinactive, hactive, Machine.respond, hcells] <;> rfl
    | false =>
      have hinactive : r.inactiveTerminal c = .ok ⟨number, false, staged, port⟩ := by
        simp only [inactiveTerminal, hterminal]
        rfl
      have hactive : r.activeTerminal c = .error (.alreadyInactive r.site c) := by
        simp only [activeTerminal, hterminal]
        rfl
      -- What is left to fail is the serial number.
      cases request with
      | activate serial =>
        simp only [resolve, hinactive, hplanned, Machine.respond, hcells, activated_eq]
        cases requireSerial serial <;> rfl
      | activateExplicit serial tags nasPortId circuitId =>
        simp only [resolve, hinactive, Machine.respond, hcells, activated_eq]
        cases requireSerial serial <;> rfl
      | preProvision serviceTag customerTag nasPortId circuitId tech speed =>
        simp only [resolve, hinactive, Machine.respond, hcells]
        rfl
      | activateSerial serial =>
        simp only [resolve, hinactive, hplanned, Machine.respond, hcells, activated_eq,
          ← completed_generated]
        cases requireSerial serial <;> rfl
      | deactivate =>
        simp only [resolve, hactive, Machine.respond, hcells]
        rfl

/-- A notice can be made of every bound coordinate. -/
theorem Backed.exists_notice (h : r.Backed targets) {here : DevicePort}
    (hbound : r.binding? c.onPort = some here) (service : Physical.Service) :
    ∃ notice, r.noticeFor c service = .ok notice := by
  obtain ⟨⟨card, hcard⟩, _⟩ := h.exists_terminal hbound
  simp only [noticeFor, binding_of_some hbound, h.plannedTags, bind, Except.bind, hcard]
  exact ⟨_, rfl⟩

theorem Coherent.exists_notice (h : r.Coherent) {here : DevicePort}
    (hbound : r.binding? c.onPort = some here) (service : Physical.Service) :
    ∃ notice, r.noticeFor c service = .ok notice :=
  h.backed.exists_notice hbound service

/-- A transition that the machine allows is prepared, with a notice unless nobody is told. -/
theorem Coherent.exists_prepared (h : r.Coherent) {here : DevicePort}
    (hbound : r.binding? c.onPort = some here) {request : TerminalRequest} {cell : Cell}
    (hrespond : r.machine.respond c request = .ok cell) :
    ∃ notice, (request.action ≠ .preProvision → notice.isSome) ∧
      r.prepare c request = .ok ⟨r.site, c, request.action, cell.service, notice⟩ := by
  have hresolve := h.resolve_eq c request
  rw [hrespond] at hresolve
  obtain ⟨notice, hnotice⟩ := h.exists_notice hbound cell.service
  rw [prepare, hresolve]
  cases haction : request.action with
  -- The line card is not told of a service that is only staged.
  | preProvision =>
    refine ⟨none, fun hne => absurd rfl hne, ?_⟩
    simp only [Except.map, bind, Except.bind]
    rfl
  | _ =>
    refine ⟨some notice, fun _ => rfl, ?_⟩
    simp only [Except.map, bind, Except.bind, hnotice]
    rfl

/-- What is prepared has what its request resolves to, and a notice of it unless nobody is told. -/
theorem of_prepare {request : TerminalRequest} {t : Transition}
    (hprepare : r.prepare c request = .ok t) :
    t.coordinate = c ∧ r.resolve c request = .ok (t.action, t.service) ∧
      (t.action = .preProvision ∧ t.notice = none ∨
        t.action ≠ .preProvision ∧ ∃ n, r.noticeFor c t.service = .ok n ∧ t.notice = some n) := by
  unfold prepare at hprepare
  obtain ⟨⟨action, service⟩, hresolve, hnotice⟩ := exists_of_bind hprepare
  cases action with
  | preProvision =>
    cases hnotice
    exact ⟨rfl, hresolve, Or.inl ⟨rfl, rfl⟩⟩
  | _ =>
    obtain ⟨notice, htold, hresult⟩ := exists_of_bind hnotice
    cases hnoticed : r.noticeFor c service with
    | error e =>
      rw [hnoticed] at htold
      cases htold
    | ok n =>
      rw [hnoticed] at htold
      cases htold
      cases hresult
      exact ⟨rfl, hresolve, Or.inr ⟨nofun, n, hnoticed, rfl⟩⟩

/-- A transition that the machine refuses is not prepared, for the same reason. -/
theorem Coherent.prepare_refused (h : r.Coherent) {request : TerminalRequest} {e : ChassisError}
    (hrespond : r.machine.respond c request = .error e) : r.prepare c request = .error e := by
  rw [prepare, h.resolve_eq, hrespond]
  rfl

/-! ## Section 4: Committing -/

/-- What the machine writes agrees with what is done to the terminal. -/
theorem respond_ok {m : Machine} {request : TerminalRequest} {old cell : Cell}
    (hold : m.cells c = some old) (hrespond : m.respond c request = .ok cell) :
    cell.active = decide (request.action = .activate) ∧
      (request.action = .deactivate → cell.service = old.service) := by
  have hactivated : ∀ {serial service}, Machine.activated serial service = .ok cell →
      cell.active = true := by
    intro serial service hok
    unfold Machine.activated at hok
    split at hok
    · cases hok
    · cases hok
      rfl
  obtain ⟨active, staged⟩ := old
  -- Of the ten cases the machine allows five; only deactivation keeps what was there.
  cases active with
  | true =>
    cases request with
    | deactivate =>
      simp only [Machine.respond, hold, Except.ok.injEq] at hrespond
      rw [← hrespond]
      exact ⟨rfl, fun _ => rfl⟩
    | _ => simp [Machine.respond, hold] at hrespond
  | false =>
    cases request with
    | deactivate => simp [Machine.respond, hold] at hrespond
    | preProvision =>
      simp only [Machine.respond, hold, Except.ok.injEq] at hrespond
      rw [← hrespond]
      exact ⟨rfl, fun heq => by cases heq⟩
    | _ =>
      simp only [Machine.respond, hold] at hrespond
      exact ⟨hactivated hrespond, fun heq => by cases heq⟩

/-- Whatever transition of the site is committed at a bound coordinate, it writes its cell. -/
theorem commit_of_terminal {t : Transition} {here : DevicePort} {old : Physical.Terminal}
    (hsite : t.site = r.site) (hbound : r.binding? t.coordinate.onPort = some here)
    (hold : r.physical.terminal? here t.coordinate.terminalIndex.val = some old) :
    r.commit t = (.ok t.action.target,
      r.writeCell here t.coordinate.terminalIndex.val (t.written (.ofTerminal old))) := by
  have hmodify := Physical.Chassis.modifyTerminal_of_terminal? hold t.apply
  -- `Transition.apply` and `Cell.put` agree on this terminal, though not on every terminal.
  rw [Physical.Chassis.changeTerminal_congr hold (t.apply_eq_put old)] at hmodify
  have htarget : (if t.action = .activate then TerminalState.active else .inactive) =
      t.action.target := by
    cases t.action <;> rfl
  simp only [commit, hsite, binding_of_some hbound, hmodify, htarget, ne_eq, not_true_eq_false,
    if_false]
  rfl

/-- Committing what was prepared writes the cell. -/
theorem commit_eq {here : DevicePort} {t : Physical.Terminal} {request : TerminalRequest}
    {cell : Cell} (hbound : r.binding? c.onPort = some here)
    (ht : r.physical.terminal? here c.terminalIndex.val = some t)
    (hactive : cell.active = decide (request.action = .activate))
    (hkept : request.action = .deactivate → cell.service = t.service)
    (notice : Option TerminalNotice) :
    r.commit ⟨r.site, c, request.action, cell.service, notice⟩ =
      (.ok cell.state, r.writeCell here c.terminalIndex.val cell) := by
  have hwritten : Transition.written ⟨r.site, c, request.action, cell.service, notice⟩
      (.ofTerminal t) = cell := by
    obtain ⟨active, service⟩ := cell
    simp only at hactive hkept
    unfold Transition.written
    rw [hactive]
    cases haction : request.action with
    | activate => rfl
    | preProvision => rfl
    | deactivate =>
      rw [hkept haction]
      rfl
  have hcommit := commit_of_terminal
    (t := ⟨r.site, c, request.action, cell.service, notice⟩) rfl hbound ht
  rw [hwritten] at hcommit
  rw [hcommit, ← hwritten, Transition.state_written]

/-- What the machine allows is prepared and committed, and writes the cell. -/
theorem Coherent.prepare_commit (h : r.Coherent) {request : TerminalRequest} {cell : Cell}
    (hrespond : r.machine.respond c request = .ok cell) :
    ∃ here t, r.binding? c.onPort = some here ∧ t.action = request.action ∧
      (request.action ≠ .preProvision → t.notice.isSome) ∧ r.prepare c request = .ok t ∧
      r.commit t = (.ok cell.state, r.writeCell here c.terminalIndex.val cell) := by
  rcases h.terminal_cases c with ⟨_, hcell, _⟩ | ⟨here, old, hbound, hold, hcell, _⟩
  · simp [Machine.respond, machine, hcell] at hrespond
  · obtain ⟨notice, htold, hprepare⟩ := h.exists_prepared hbound hrespond
    obtain ⟨hactive, hkept⟩ := respond_ok hcell hrespond
    exact ⟨here, _, hbound, rfl, htold, hprepare, commit_eq hbound hold hactive hkept notice⟩

/-! ## Section 5: Cells after a change -/

/-- Writing a cell is seen from its own coordinate and from no other. -/
theorem Coherent.cell?_writeCell (h : r.Coherent) {here : DevicePort}
    (hbound : r.binding? c.onPort = some here) (cell : Cell) :
    (r.writeCell here c.terminalIndex.val cell).cell? =
      Function.update r.cell? c (some cell) := by
  obtain ⟨_, t, ht⟩ := h.exists_terminal hbound
  have hhere : (⟨here.card - 1 + 1, here.port - 1 + 1⟩ : DevicePort) = here :=
    Physical.Chassis.succ_pred_of_terminal? ht
  funext d
  have hbinding : ∀ p, (r.writeCell here c.terminalIndex.val cell).binding? p = r.binding? p :=
    fun _ => rfl
  have hread : ∀ there, (r.writeCell here c.terminalIndex.val cell).physical.terminal? there
      d.terminalIndex.val = if there = here ∧ d.terminalIndex.val = c.terminalIndex.val
        then (r.physical.terminal? there d.terminalIndex.val).map cell.put
        else r.physical.terminal? there d.terminalIndex.val := by
    intro there
    rw [writeCell, Physical.Chassis.terminal?_changeTerminal, hhere]
  by_cases hdc : d = c
  · subst hdc
    rw [Function.update_self, cell?, hbinding, hbound, Option.bind_some, hread,
      if_pos ⟨rfl, rfl⟩, ht]
    rfl
  · rw [Function.update_of_ne hdc, cell?, hbinding, cell?]
    cases hthere : r.binding? d.onPort with
    | none => rfl
    | some there =>
      -- Another coordinate is on another port, or it is another one on the same port.
      have hother : ¬ (there = here ∧ d.terminalIndex.val = c.terminalIndex.val) := by
        rintro ⟨rfl, hindex⟩
        have hport : d.onPort = c.onPort := h.binding?_injective hthere hbound
        exact hdc (TerminalCoordinate.eq_of_parts hport hindex)
      rw [Option.bind_some, Option.bind_some, hread, if_neg hother]

theorem Coherent.bound_eq (h : r.Coherent) :
    r.machine.bound = r.physical.devicePorts.length := by
  have hremaining := h.remaining
  simp only [machine]
  omega

/-- Every terminal of the card that is attached next is vacant. -/
theorem terminal_nextCard (driver : CardDriver) (address : SocketAddress) (hostname : String)
    {j : Nat} (hj : j < driver.portCount) (k : Fin terminalsPerPort) :
    ((r.nextCard driver address hostname).ports[j]?.bind (·.terminals[k.val]?)).map
      Cell.ofTerminal = some .vacant := by
  have hport : (r.nextCard driver address hostname).ports[j]? =
      some ((Physical.Port.vacant (j + 1)).linked (r.physical.cards.length + 1)) := by
    simp [nextCard, Physical.Card.linked, Physical.Card.vacant, hj]
  rw [hport, Option.bind_some]
  simp [Physical.Port.linked, Physical.Port.vacant, k.isLt]
  rfl

/-- A card that is attached makes its ports bound and vacant, and no other cell is changed. -/
theorem Coherent.cell?_withNextCard (h : r.Coherent) {driver : CardDriver}
    (hfit : driver.portCount ≤ r.logical.remaining) (address : SocketAddress)
    (hostname : String) (c : TerminalCoordinate) :
    (r.withNextCard driver address hostname).cell? c =
      if r.physical.devicePorts.length ≤ Logical.position c.onPort ∧
          Logical.position c.onPort < r.physical.devicePorts.length + driver.portCount
      then some .vacant else r.cell? c := by
  have hports : (r.nextCard driver address hostname).devicePorts =
      (List.range driver.portCount).map fun j => ⟨r.physical.cards.length + 1, j + 1⟩ :=
    (numbered_nextCard r driver address hostname).devicePorts
  have hnew := (h.withNextCard hfit address hostname).binding?_eq c.onPort
  rw [Record.withNextCard, devicePorts_withCard, boundIn, List.getElem?_append,
    ← Record.withNextCard, hports] at hnew
  have hold := h.binding?_eq c.onPort
  rw [boundIn] at hold
  -- By position: a port of the old cards, a port of the new card, or one that is still unbound.
  rw [cell?, hnew]
  by_cases hlt : Logical.position c.onPort < r.physical.devicePorts.length
  · have hbound : r.binding? c.onPort =
        some r.physical.devicePorts[Logical.position c.onPort] := by
      rw [hold, List.getElem?_eq_getElem hlt]
    obtain ⟨_, t, ht⟩ := h.exists_terminal hbound
    rw [if_pos hlt, if_neg (by omega), cell?, hbound, List.getElem?_eq_getElem hlt,
      Option.bind_some, Option.bind_some, ht, Record.withNextCard,
      Physical.Chassis.terminal?_withCard_of_some ht]
  · rw [if_neg hlt]
    by_cases hin : Logical.position c.onPort <
        r.physical.devicePorts.length + driver.portCount
    · have hj : Logical.position c.onPort - r.physical.devicePorts.length < driver.portCount := by
        omega
      rw [if_pos ⟨by omega, hin⟩, List.getElem?_map, List.getElem?_range hj, Option.map_some,
        Option.bind_some, Record.withNextCard, Physical.Chassis.terminal?_withCard_last]
      exact terminal_nextCard driver address hostname hj c.terminalIndex
    · rw [if_neg (by omega), cell?, hold]
      simp [hlt, show driver.portCount ≤
        Logical.position c.onPort - r.physical.devicePorts.length by omega]

/-- A record changes as its machine does. -/
theorem Coherent.machine_after (h : r.Coherent) (what : Change) :
    (r.after what).machine = r.machine.after what := by
  cases what with
  | login user password => rfl
  | attach driver address hostname =>
    have hbound := h.bound_eq
    have hremaining := h.remaining
    -- The machine counts the ports that are bound, the record those that are left.
    by_cases hok : driver.portCount ≤ r.logical.remaining ∧ Text.allBlank hostname = false
    · have hroom : r.machine.bound + driver.portCount ≤ portCapacity := by omega
      have hgrown := h.withNextCard hok.1 address hostname
      have hbound' := hgrown.bound_eq
      have hlength : (r.withNextCard driver address hostname).physical.devicePorts.length =
          r.physical.devicePorts.length + driver.portCount := by
        rw [Record.withNextCard, devicePorts_withCard, List.length_append,
          (numbered_nextCard r driver address hostname).devicePorts, List.length_map,
          List.length_range]
        rfl
      simp only [Record.after, h.attachCard_eq, if_pos hok, Machine.after,
        if_pos (And.intro hroom hok.2)]
      rw [Machine.mk.injEq]
      refine ⟨rfl, rfl, rfl, by omega, ?_⟩
      funext c
      rw [hbound]
      exact h.cell?_withNextCard hok.1 address hostname c
    · have hroom : ¬ (r.machine.bound + driver.portCount ≤ portCapacity ∧
          Text.allBlank hostname = false) := by
        rintro ⟨hle, hname⟩
        exact hok ⟨by omega, hname⟩
      simp only [Record.after, h.attachCard_eq, if_neg hok, Machine.after, if_neg hroom]
  | terminal c request =>
    simp only [Record.after, Machine.after]
    cases hrespond : r.machine.respond c request with
    | error e => rw [h.prepare_refused hrespond]
    | ok cell =>
      obtain ⟨here, t, hbound, _, _, hprepare, hcommit⟩ := h.prepare_commit hrespond
      rw [hprepare]
      simp only [hcommit]
      rw [Machine.mk.injEq]
      exact ⟨rfl, rfl, rfl, rfl, h.cell?_writeCell hbound cell⟩

/-! ## Section 6: Every reachable record -/

theorem Coherent.machine_foldl (h : r.Coherent) (changes : List Change) :
    (changes.foldl Record.after r).machine = changes.foldl Machine.after r.machine := by
  -- The step lemma wants a coherent record, and every change leaves one.
  induction changes generalizing r with
  | nil => rfl
  | cons what rest ih =>
    rw [List.foldl_cons, List.foldl_cons, ih (h.after what), h.machine_after]

/-- A record does what its machine does. -/
structure RunsMachine (r : Record) : Prop where
  /-- A coordinate holds a cell when its port is bound. -/
  bound : ∀ c, (r.cell? c).isSome ↔ (r.binding? c.onPort).isSome
  /-- The state of a coordinate is read off its cell. -/
  state : ∀ c, r.terminalState c = ((r.cell? c).map Cell.state).getD .unbound
  /-- What the machine refuses is refused for the same reason. -/
  refused : ∀ c request e, r.machine.respond c request = .error e →
    r.prepare c request = .error e
  /-- What the machine allows is prepared, and committing it answers with the new state and
      writes the cell, behind the port of the coordinate and to be seen nowhere else. -/
  granted : ∀ c request cell, r.machine.respond c request = .ok cell →
    ∃ here t, r.binding? c.onPort = some here ∧ r.prepare c request = .ok t ∧
      r.commit t = (.ok cell.state, r.writeCell here c.terminalIndex.val cell) ∧
      (r.writeCell here c.terminalIndex.val cell).terminalState c = cell.state ∧
      ∀ d, (r.writeCell here c.terminalIndex.val cell).cell? d =
        if d = c then some cell else r.cell? d
  /-- The record and its machine stay together through any changes. -/
  run : ∀ changes : List Change,
    (changes.foldl Record.after r).machine = changes.foldl Machine.after r.machine

/-- **Refinement**: every reachable record behaves, at every coordinate and for every request, as
    the machine over single cells. -/
theorem Reachable.runs_machine (hr : Reachable r) : RunsMachine r := by
  have h := hr.coherent
  refine {
    bound   := ?_
    state   := h.terminalState_eq
    refused := fun c request e hrespond => h.prepare_refused hrespond
    granted := ?_
    run     := h.machine_foldl }
  · intro c
    rcases h.terminal_cases c with ⟨hbound, hcell, _⟩ | ⟨here, t, hbound, _, hcell, _⟩
    · rw [hbound, hcell]
      rfl
    · rw [hbound, hcell]
      rfl
  · intro c request cell hrespond
    obtain ⟨here, t, hbound, _, _, hprepare, hcommit⟩ := h.prepare_commit hrespond
    have hcells := h.cell?_writeCell hbound cell
    -- The new state is read in the record after the commit, which is coherent as well.
    have hwritten := h.of_commit hcommit
    refine ⟨here, t, hbound, hprepare, hcommit, ?_, ?_⟩
    · rw [hwritten.terminalState_eq, hcells, Function.update_self]
      rfl
    · intro d
      rw [hcells, Function.update_apply]

/-- The first terminal of the card of `oneCard` is activated under a trimmed serial number. -/
theorem runs_machine_oneCard :
    Reachable oneCard ∧ RunsMachine oneCard ∧
      oneCard.machine.respond ⟨⟨⟨0, by decide⟩, ⟨0, by decide⟩⟩, ⟨0, by decide⟩⟩
          (.activateExplicit " sn-1 " ⟨.reserved, .reserved⟩ "nas" "circuit") =
        .ok ⟨true, ⟨"sn-1", some .reserved, some .reserved, "nas", "circuit", none, none⟩⟩ :=
  ⟨reachable_oneCard, Reachable.runs_machine reachable_oneCard, by decide +kernel⟩

end Record

end ChassisRegistry
