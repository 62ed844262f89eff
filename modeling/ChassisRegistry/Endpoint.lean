import ChassisRegistry.SocketAddress
import ChassisRegistry.Text.Quoted

/-! # Provisioning endpoints

    Where the provisioning system of a site is reached, and as whom. The
    display form, which may end up in a log, hides the password. -/

namespace ChassisRegistry

/-- An address with a login. -/
structure Endpoint where
  address  : SocketAddress
  user     : String
  password : String
  deriving DecidableEq

namespace Endpoint

/-- The endpoint for display. -/
def display (e : Endpoint) : String :=
  s!"ProvisioningEndpoint \x7b address: {e.address}, user: {Text.quoted e.user}, password: "
    ++ "\"<redacted>\" \x7d"

end Endpoint

end ChassisRegistry
