import ChassisRegistry.FileSystem
import ChassisRegistry.Provisioner
import ChassisRegistry.Registry.Overlap
import ChassisRegistry.Request.Values

/-! # Requests to the registry -/

namespace ChassisRegistry.Request

open Json (Value)

/-- A value, or an error of the registry. -/
def registry {α : Type} (x : Except RegistryError α) : Outcome α := x.mapError .registry

/-- A value, or a failure of a sink. -/
def sink {α : Type} (x : Except SinkError α) : Outcome α := x.mapError .sink

/-- The operation of a name on the registry. -/
def operation (req : Value) (name : String) : Outcome Operation := do
  let site ← siteAt req "site"
  match name with
  | "create" =>
      let e ← endpoint req
      return .request (.create site e (← word req "rack") (← word req "shelf"))
  | "update_credentials" =>
      let user ← textOr req "user" "admin"
      return .request (.change site (.login user (← textOr req "password" "secret")))
  | "attach" =>
      let d ← driver req
      let a ← cardAddress req
      return .request (.change site (.attach d a (← textOr req "hostname" "")))
  | "terminal_state" => return .query (.terminalState site (← coordinate req))
  | "line_card" => return .query (.card site (← nat req "number"))
  | "inventory" => return .query (.inventory site)
  | "snapshot" => return .query (.snapshot site)
  | name =>
      let c ← coordinate req
      return .request (.change site (.terminal c (← terminalRequest req name)))

/-- The refusal that every call gets from now on; none clears it. -/
def failure? (req : Value) : Outcome (Option ProvisionerError) := do
  match ← text? req "rejected", ← text? req "login" with
  | some why, _ => return some (.rejected why)
  | none, some user =>
      return some (.loginRejected user (← addressOf (← textOr req "address" "10.0.0.1:9000")))
  | none, none => return none

/-! ## Records and files -/

/-- Attaches cards with numbered hosts. -/
def attachNumbered : Nat → Nat → Record → Outcome Record
  | 0, _, r => .ok r
  | n + 1, i, r => do
      let address ← addressOf "10.0.1.1:9191"
      match r.attachCard .edgecore address s!"olt{i}" with
      | (.ok _, r) => attachNumbered n (i + 1) r
      | (.error e, _) => .error (.chassis e)

/-- Activates a terminal with a serial number made from its coordinate. -/
def activateOne (r : Record) (c : TerminalCoordinate) : Outcome Record := do
  let t ← chassis (r.prepare c (.activate ("SN-" ++ c.text)))
  match r.commit t with
  | (.ok _, r) => return r
  | (.error e, _) => .error (.chassis e)

/-- A new record with some cards and some active terminals. -/
def describedRecord (req : Value) : Outcome Record := do
  let site ← siteAt req "site"
  let e ← endpoint req
  let bare := Record.create site e (← word req "rack") (← word req "shelf")
  let r ← attachNumbered (← natOr req "cards" 0) 1 bare
  (← (← sequence req "active").mapM asCoordinate).foldlM activateOne r

/-- Bytes, or the snapshot of a described record. -/
def content (req : Value) : Outcome ByteArray := do
  match given? req "record" with
  | some described => return (Snapshot.write (← describedRecord described)).toUTF8
  | none => bytes req

/-- The changes that make a file or a directory below a directory, with those above it. -/
def fileActions (below : Path) (req : Value) : Outcome (List FileSystem.Action) := do
  let name ← match ← text? req "name_hex" with
    | some digits => do pure (← hexBytes digits.toList ByteArray.empty)
    | none => do pure (← text req "name").toUTF8
  let path := below.join ⟨name.toList⟩
  if ← flag req "dir" then return [.makeDirectory path]
  else
    let above := path.ancestors.head?.map .makeDirectory
    return above.toList ++ [.write path (← content req)]

/-- The files with those that a request puts below a directory. -/
def withFiles (below : Path) (req : Value) (fs : FileSystem) : Outcome FileSystem := do
  let actions ← (← sequence req "files").mapM (fileActions below)
  return (fs.performEach actions.flatten).2

end ChassisRegistry.Request
