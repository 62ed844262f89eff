import ChassisRegistry.CardNotice
import ChassisRegistry.Transition

/-! # The provisioning system

    What the outside is told, and what it may answer. Only the answer counts:
    accepted, or refused for a reason. -/

namespace ChassisRegistry

/-- What the provisioning system is asked or told. -/
inductive Call where
  /-- Does the endpoint accept this login? -/
  | login (endpoint : Endpoint)
  | addCard (notice : CardNotice)
  | activate (notice : TerminalNotice)
  | deactivate (notice : TerminalNotice)
  deriving DecidableEq

/-- The name of the operation. -/
def Call.operation : Call → String
  | .login _      => "validate_login"
  | .addCard _    => "add_line_card"
  | .activate _   => "activate"
  | .deactivate _ => "deactivate"

/-- Why a call is refused. -/
inductive ProvisionerError where
  | loginRejected (user : String) (address : SocketAddress)
  | rejected (why : String)
  deriving DecidableEq

/-- The wording. -/
def ProvisionerError.message : ProvisionerError → String
  | .loginRejected user address => s!"Login rejected for user '{user}' at {address}"
  | .rejected why               => s!"Provisioning request rejected: {why}"

/-- A provisioning system with a state of its own answers each call and moves to a new state. -/
abbrev Provisioner (σ : Type) := Call → σ → Except ProvisionerError Unit × σ

/-- A refused call as an error of the chassis. -/
def ChassisError.ofRefusal (call : Call) (e : ProvisionerError) : ChassisError :=
  .external call.operation e.message

end ChassisRegistry
