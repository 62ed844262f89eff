import ChassisRegistry.Registry.Plan
import ChassisRegistry.RegistryError
import ChassisRegistry.SiteMap

/-! # The registry

    The records of all sites, each with a mark that tells whether it has
    changed since a sink took it. A request goes through three steps:

    1. it is screened: its login must not be blank, and its site has to be
       there, or, for a creation, must not be;
    2. it is started: its plan is made, and if the provisioning system has to
       be asked, the request waits;
    3. it is resumed with the reply. Refused, it changes nothing; accepted, it
       is carried out and marks its site.

    Between the steps other requests may have changed other sites. The steps
    of requests on one site do not overlap. -/

namespace ChassisRegistry

/-- The record of a site, and whether it has changes that no sink has taken yet. -/
structure Entry where
  record : Record
  dirty  : Bool
  deriving DecidableEq

/-- The sites known to the daemon. -/
structure Registry where
  entries : SiteMap Entry

/-- What is asked of the registry. -/
inductive Request where
  | create (site : Site) (endpoint : Endpoint) (rack shelf : UInt32)
  | change (site : Site) (what : Change)
  deriving DecidableEq

/-- The site whose record no other request may touch while this one runs. -/
def Request.held? : Request → Option Site
  | .create _ _ _ _ => none
  | .change site _ => some site

/-- A request that waits for the provisioning system. -/
inductive Pending where
  | create (site : Site) (endpoint : Endpoint) (rack shelf : UInt32)
  | change (site : Site) (plan : Plan)
  deriving DecidableEq

/-- The site whose record no other request may touch while this one waits. -/
def Pending.held? : Pending → Option Site
  | .create _ _ _ _ => none
  | .change site _ => some site

/-- How far a request gets on its own. -/
inductive Stage where
  | settled (result : Except RegistryError Answer) (after : Registry)
  | waiting (call : Call) (rest : Pending)

/-- A login has a user that is not blank and a password that is not empty. -/
def requireLogin (user password : String) : Except RegistryError Unit :=
  if Text.allBlank user ∨ password = "" then
    .error (.chassis (.invalid "credentials" "user and password must not be empty"))
  else .ok ()

namespace Entry

/-- The entry after the reply to a plan's call. -/
def resume (e : Entry) (plan : Plan) :
    Except ChassisError Unit → Except ChassisError Answer × Entry
  | .error x => (.error x, e)
  | .ok () =>
      match e.record.carryOut plan with
      -- What was done before the failure stays, but it does not mark the site.
      | (.error x, record) => (.error x, { e with record })
      | (.ok answer, record) => (.ok answer, { record, dirty := true })

end Entry

namespace Registry

/-- No sites. -/
def empty : Registry := ⟨.empty⟩

instance : Inhabited Registry := ⟨empty⟩

/-- The entry of a site, which has to be there. -/
def entry (g : Registry) (site : Site) : Except RegistryError Entry :=
  match g.entries.find? site with
  | some e => .ok e
  | none => .error (.unknownSite site)

/-- The registry with an entry for a site. -/
def put (g : Registry) (site : Site) (e : Entry) : Registry :=
  ⟨g.entries.insert site e⟩

/-! ## The steps of a request -/

/-- Screens a request. The answer is there at once for a creation of a site that is there. -/
def screen (g : Registry) : Request → Except RegistryError (Option Answer)
  | .create site endpoint _ _ => do
      requireLogin endpoint.user endpoint.password
      return if g.entries.contains site then some (.site site) else none
  | .change site (.login user password) => do
      requireLogin user password
      let _ ← g.entry site
      return none
  | .change site _ => do
      let _ ← g.entry site
      return none

/-- The reply to a call, as an error of the chassis if it is a refusal. -/
def replyTo (call : Call) (reply : Except ProvisionerError Unit) : Except ChassisError Unit :=
  reply.mapError (.ofRefusal call)

/-- Settles a plan on a site. -/
def settle (g : Registry) (site : Site) (plan : Plan) (reply : Except ChassisError Unit) :
    Except RegistryError Answer × Registry :=
  match g.entry site with
  | .error e => (.error e, g)
  | .ok e =>
      let (result, e) := e.resume plan reply
      (result.mapError .chassis, g.put site e)

/-- Starts a request that was screened. -/
def start (g : Registry) : Request → Stage
  | .create site endpoint rack shelf =>
      .waiting (.login endpoint) (.create site endpoint rack shelf)
  | .change site what =>
      match g.entry site with
      | .error e => .settled (.error e) g
      | .ok e =>
          match e.record.plan what with
          | .error x => .settled (.error (.chassis x)) g
          | .ok plan =>
              match plan.call? with
              | some call => .waiting call (.change site plan)
              | none =>
                  let (result, g) := g.settle site plan (.ok ())
                  .settled result g

/-- Resumes a request with the reply to its call. A site that was created in the meantime stays. -/
def resume (g : Registry) (p : Pending) (reply : Except ChassisError Unit) :
    Except RegistryError Answer × Registry :=
  match p with
  | .create site endpoint rack shelf =>
      match reply with
      | .error x => (.error (.chassis x), g)
      | .ok () =>
          if g.entries.contains site then (.ok (.site site), g)
          else (.ok (.site site), g.put site ⟨.create site endpoint rack shelf, true⟩)
  | .change site plan => g.settle site plan reply

/-! ## Whole requests -/

variable {σ : Type}

/-- Starts a request and resumes it with the reply of the provisioning system. -/
def finish (g : Registry) (request : Request) (p : Provisioner σ) (s : σ) :
    Except RegistryError Answer × Registry × σ :=
  match g.start request with
  | .settled result g => (result, g, s)
  | .waiting call rest =>
      let (reply, s) := p call s
      let (result, g) := g.resume rest (replyTo call reply)
      (result, g, s)

/-- Serves a request. -/
def serve (g : Registry) (request : Request) (p : Provisioner σ) (s : σ) :
    Except RegistryError Answer × Registry × σ :=
  match g.screen request with
  | .error e => (.error e, g, s)
  | .ok (some answer) => (.ok answer, g, s)
  | .ok none => g.finish request p s

end Registry

end ChassisRegistry
