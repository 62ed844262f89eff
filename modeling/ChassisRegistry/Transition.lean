import ChassisRegistry.Identifier
import ChassisRegistry.Record
import ChassisRegistry.Text.Blank

/-! # Terminal transitions

    A terminal position is unbound until a card stands behind its port, then
    inactive, then active, and inactive again:

        unbound --attach card--> inactive --activate--> active
                                    ^                     |
                                    +-----deactivate------+

    A transition is first prepared, which checks the request against the
    present state and works out what will be stored, and then committed, which
    stores it. In between the provisioning system is told, so a transition is
    a value, and a record that has changed since it was prepared takes it as
    it is. -/

namespace ChassisRegistry

/-! ## States and requests -/

/-- The state of a terminal position. -/
inductive TerminalState where
  | unbound
  | inactive
  | active
  deriving DecidableEq, Repr

/-- The name of a state. -/
def TerminalState.name : TerminalState → String
  | unbound  => "unbound"
  | inactive => "inactive"
  | active   => "active"

/-- What a transition does when it is committed. -/
inductive Action where
  | activate
  | preProvision
  | deactivate
  deriving DecidableEq, Repr

/-- The name of an action. -/
def Action.name : Action → String
  | activate     => "activate"
  | preProvision => "pre_provision"
  | deactivate   => "deactivate"

/-- What is asked of a terminal. -/
inductive TerminalRequest where
  /-- Activation with the planned tags and generated identifiers. -/
  | activate (serial : String)
  /-- Activation with the caller's tags and identifiers. -/
  | activateExplicit (serial : String) (tags : TagPair) (nasPortId circuitId : String)
  /-- Values for a later activation. -/
  | preProvision (serviceTag customerTag : Option Vlan) (nasPortId circuitId : String)
      (techProfile speedProfile : Option String)
  /-- Activation with the values provided before; what was not provided is planned or generated. -/
  | activateSerial (serial : String)
  /-- Deactivation, which keeps all values. -/
  | deactivate
  deriving DecidableEq

/-! ## Notices and transitions -/

/-- What the provisioning system is told of a terminal. -/
structure TerminalNotice where
  site           : Site
  coordinate     : TerminalCoordinate
  subscriber     : String
  device         : DevicePort
  deviceAddress  : SocketAddress
  deviceHostname : String
  driver         : CardDriver
  serial         : String
  serviceTag     : Vlan
  customerTag    : Vlan
  nasPortId      : String
  circuitId      : String
  techProfile    : Option String
  speedProfile   : Option String
  endpoint       : Endpoint
  deriving DecidableEq

/-- A transition that waits to be committed. -/
structure Transition where
  site       : Site
  coordinate : TerminalCoordinate
  action     : Action
  service    : Physical.Service
  /-- What the provisioning system has to be told before. -/
  notice     : Option TerminalNotice
  deriving DecidableEq

/-- What a transition makes of a terminal. -/
def Transition.apply (t : Transition) (old : Physical.Terminal) :
    Physical.Terminal :=
  match t.action with
  | .activate     => { old with service := t.service, active := true }
  | .preProvision => { old with service := t.service, active := false }
  | .deactivate   => { old with active := false }

namespace Record

/-! ## The present state -/

/-- The state of a terminal position. -/
def terminalState (r : Record) (c : TerminalCoordinate) : TerminalState :=
  match r.terminal c with
  | .ok t => if t.active then .active else .inactive
  | .error _ => .unbound

/-- The tags laid out for a position. -/
def plannedTags (r : Record) (c : TerminalCoordinate) : Except ChassisError TagPair :=
  match r.logical.terminal? c with
  | some t => .ok t.tags
  | none => .error (.internal (.noTerminal c))

/-- The terminal behind a position, which has to be inactive. -/
def inactiveTerminal (r : Record) (c : TerminalCoordinate) :
    Except ChassisError Physical.Terminal :=
  match r.terminal c with
  | .error e => .error e
  | .ok t => if t.active then .error (.alreadyActive r.site c) else .ok t

/-- The terminal behind a position, which has to be active. -/
def activeTerminal (r : Record) (c : TerminalCoordinate) :
    Except ChassisError Physical.Terminal :=
  match r.terminal c with
  | .error e => .error e
  | .ok t => if t.active then .ok t else .error (.alreadyInactive r.site c)

/-! ## What will be stored -/

/-- A serial number, which must not be blank. -/
def requireSerial (serial : String) : Except ChassisError String :=
  if Text.allBlank serial then .error (.blank "serial") else .ok (Text.trim serial)

/-- A value, unless it is blank. -/
def unlessBlank (value fallback : String) : String :=
  if Text.allBlank value then fallback else value

/-- Planned tags and generated identifiers. -/
def plannedService (r : Record) (c : TerminalCoordinate) (serial : String) :
    Except ChassisError Physical.Service := do
  let tags ← r.plannedTags c
  return {
    serial
    serviceTag   := some tags.service
    customerTag  := some tags.customer
    nasPortId    := Identifier.nasPort r.logical.rack r.logical.shelf c
    circuitId    := Identifier.circuit r.site r.logical.rack r.logical.shelf c
    techProfile  := none
    speedProfile := none }

/-- Values provided before, completed by the planned ones; the serial number is the planned one. -/
def completed (staged planned : Physical.Service) : Physical.Service where
  serial       := planned.serial
  serviceTag   := staged.serviceTag.or planned.serviceTag
  customerTag  := staged.customerTag.or planned.customerTag
  nasPortId    := unlessBlank staged.nasPortId planned.nasPortId
  circuitId    := unlessBlank staged.circuitId planned.circuitId
  techProfile  := staged.techProfile
  speedProfile := staged.speedProfile

/-- The action that a request asks for and the values that it stores, if the present state allows
    it. -/
def resolve (r : Record) (c : TerminalCoordinate) :
    TerminalRequest → Except ChassisError (Action × Physical.Service)
  | .activate serial => do
      let _ ← r.inactiveTerminal c
      let serial ← requireSerial serial
      return (.activate, ← r.plannedService c serial)
  | .activateExplicit serial tags nasPortId circuitId => do
      let _ ← r.inactiveTerminal c
      let serial ← requireSerial serial
      return (.activate,
        ⟨serial, some tags.service, some tags.customer, nasPortId, circuitId, none, none⟩)
  | .preProvision serviceTag customerTag nasPortId circuitId techProfile speedProfile => do
      let _ ← r.inactiveTerminal c
      return (.preProvision,
        ⟨"", serviceTag, customerTag, nasPortId, circuitId, techProfile, speedProfile⟩)
  | .activateSerial serial => do
      let staged ← r.inactiveTerminal c
      let serial ← requireSerial serial
      return (.activate, completed staged.service (← r.plannedService c serial))
  | .deactivate => do
      let present ← r.activeTerminal c
      return (.deactivate, present.service)

/-! ## Preparing and committing -/

/-- The notice of a position with these values. Tags that are not among them are the planned
    ones. -/
def noticeFor (r : Record) (c : TerminalCoordinate) (service : Physical.Service) :
    Except ChassisError TerminalNotice := do
  let device ← r.binding c
  match r.physical.card? device.card with
  | none => .error (.internal (.noCard device))
  | some card => do
      let tags ← r.plannedTags c
      return {
        site           := r.site
        coordinate     := c
        subscriber     := Identifier.subscriber r.site c
        device         := device
        deviceAddress  := card.address
        deviceHostname := card.hostname
        driver         := card.driver
        serial         := service.serial
        serviceTag     := service.serviceTag.getD tags.service
        customerTag    := service.customerTag.getD tags.customer
        nasPortId      := service.nasPortId
        circuitId      := service.circuitId
        techProfile    := service.techProfile
        speedProfile   := service.speedProfile
        endpoint       := r.endpoint }

/-- Prepares a transition. The provisioning system is not told of values for a later activation. -/
def prepare (r : Record) (c : TerminalCoordinate) (request : TerminalRequest) :
    Except ChassisError Transition := do
  let (action, service) ← r.resolve c request
  let notice ← match action with
    | .preProvision => .ok none
    | .activate | .deactivate => (r.noticeFor c service).map some
  return { site := r.site, coordinate := c, action, service, notice }

/-- Commits a transition; the answer is the state that the terminal is in then. -/
def commit (r : Record) (t : Transition) : Except ChassisError TerminalState × Record :=
  if t.site ≠ r.site then
    (.error (.internal (.transitionElsewhere t.site r.site)), r)
  else
    match r.binding t.coordinate with
    | .error e => (.error e, r)
    | .ok here =>
        match r.physical.modifyTerminal here t.coordinate.terminalIndex.val t.apply with
        | none => (.error (.internal (.dangling t.coordinate here)), r)
        | some physical =>
            (.ok (if t.action = .activate then .active else .inactive), { r with physical })

/-! ## Every active terminal -/

/-- The notice of a terminal position, if the terminal is active. Its coordinate is made from the
    numbers in the tree. -/
def activeNotice (r : Record) (slot port terminal : Nat) :
    Except ChassisError (Option TerminalNotice) :=
  match TerminalCoordinate.ofNumbers slot port terminal with
  | .error e => .error (.ofInput e)
  | .ok c =>
      match r.terminal c with
      | .error e => .error e
      | .ok t => if t.active then (r.noticeFor c t.service).map some else .ok none

/-- The positions whose port is bound, as the tree numbers them. -/
def boundPositions (r : Record) : List (Nat × Nat × Nat) :=
  r.logical.slots.flatMap fun slot =>
    (slot.ports.filter fun port => port.bound.isSome).flatMap fun port =>
      port.terminals.map fun t => (slot.number, port.number, t.number)

/-- The notices of these positions, up to the first failure. -/
def noticesOf (r : Record) : List (Nat × Nat × Nat) → Except ChassisError (List TerminalNotice)
  | [] => .ok []
  | (slot, port, terminal) :: rest =>
      match r.activeNotice slot port terminal with
      | .error e => .error e
      | .ok notice =>
          match r.noticesOf rest with
          | .error e => .error e
          | .ok notices => .ok (notice.toList ++ notices)

/-- The notices of all active terminals, in the order of their positions. -/
def activeNotices (r : Record) : Except ChassisError (List TerminalNotice) :=
  r.noticesOf r.boundPositions

end Record

end ChassisRegistry
