import ChassisRegistry.Provisioner

/-! # Changes to a record

    A change to the record of a site is planned against the present record,
    which makes every check; then the provisioning system is asked, if the
    plan has a call; and only when the call is accepted is the plan carried
    out. -/

namespace ChassisRegistry

/-- What is asked of an existing site. -/
inductive Change where
  /-- Another login at the same address. -/
  | login (user password : String)
  | attach (driver : CardDriver) (address : SocketAddress) (hostname : String)
  | terminal (coordinate : TerminalCoordinate) (request : TerminalRequest)
  deriving DecidableEq

/-- What a change comes down to. -/
inductive Plan where
  | login (endpoint : Endpoint)
  | card (notice : CardNotice)
  | transition (t : Transition)
  deriving DecidableEq

/-- The answer to a request. -/
inductive Answer where
  | site (s : Site)
  | done
  | card (number : Nat)
  | state (s : TerminalState)
  deriving DecidableEq

/-- The call that has to be accepted before the plan is carried out. -/
def Plan.call? : Plan → Option Call
  | .login endpoint => some (.login endpoint)
  | .card notice => some (.addCard notice)
  | .transition t =>
      match t.action with
      | .activate => t.notice.map .activate
      | .deactivate => t.notice.map .deactivate
      | .preProvision => none

namespace Record

/-- Plans a change. -/
def plan (r : Record) : Change → Except ChassisError Plan
  | .login user password => .ok (.login { r.endpoint with user, password })
  | .attach driver address hostname => (r.describeCard driver address hostname).map .card
  | .terminal c request => (r.prepare c request).map .transition

/-- Carries a plan out. -/
def carryOut (r : Record) : Plan → Except ChassisError Answer × Record
  | .login endpoint => (.ok .done, r.withCredentials endpoint.user endpoint.password)
  | .card notice =>
      let (result, r) := r.installCard notice
      (result.map .card, r)
  | .transition t =>
      let (result, r) := r.commit t
      (result.map .state, r)

end Record

end ChassisRegistry
