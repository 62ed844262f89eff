import ChassisRegistry.Json.Patch
import ChassisRegistry.Json.Reader
import ChassisRegistry.Physical.Edit
import ChassisRegistry.Request.Arguments
import ChassisRegistry.SocketAddress.Reader

/-! # Arguments of the domain

    Sites, coordinates, cards, endpoints and what is asked of a terminal, as
    requests give them, with the defaults of what is not given. -/

namespace ChassisRegistry.Request

open Json (Value PathStep)

/-- A value, or refused input. -/
def input {α : Type} (x : Except InputError α) : Outcome α := x.mapError .input

/-- A value, or an error of a chassis. -/
def chassis {α : Type} (x : Except ChassisError α) : Outcome α := x.mapError .chassis

/-- A site. -/
def siteAt (req : Value) (name : String) : Outcome Site := do
  input (Site.parse (← text req name))

/-- Three numbers as a coordinate. -/
def asCoordinate : Value → Outcome TerminalCoordinate
  | .sequence [s, p, t] => do
      input (TerminalCoordinate.ofNumbers (← asNat s) (← asNat p) (← asNat t))
  | _ => malformed "at"

/-- A terminal coordinate. -/
def coordinate (req : Value) : Outcome TerminalCoordinate := do
  asCoordinate ((given? req "at").getD .null)

/-- A port coordinate. -/
def portCoordinate (req : Value) : Outcome PortCoordinate := do
  input (PortCoordinate.ofNumbers (← nat req "slot") (← nat req "port"))

/-- A text as a socket address. -/
def addressOf (given : String) : Outcome SocketAddress :=
  match SocketAddress.parse? given with
  | some a => .ok a
  | none => .error .address

/-- A driver. -/
def driver (req : Value) : Outcome CardDriver := do
  input (CardDriver.parse (← textOr req "driver" "edgecore"))

/-- The address of a card. -/
def cardAddress (req : Value) : Outcome SocketAddress := do
  addressOf (← textOr req "address" "10.0.1.1:9191")

/-- An endpoint. -/
def endpoint (req : Value) : Outcome Endpoint := do
  let address ← addressOf (← textOr req "endpoint" "10.0.0.1:9000")
  return ⟨address, ← textOr req "user" "admin", ← textOr req "password" "secret"⟩

/-- The number of a rack or shelf. -/
def word (req : Value) (name : String) : Outcome UInt32 := do
  return (← natOr req name 1).toUInt32

/-- A VLAN. -/
def vlan (req : Value) (name : String) : Outcome Vlan := do
  input (Vlan.ofNumber (← nat req name))

/-- A VLAN that may be absent. -/
def vlan? (req : Value) (name : String) : Outcome (Option Vlan) := do
  (← nat? req name).mapM fun n => input (Vlan.ofNumber n)

/-- A physical port. -/
def devicePort (req : Value) : Outcome DevicePort := do
  return ⟨← nat req "card", ← nat req "port"⟩

/-- A physical port that may be absent. -/
def devicePort? (req : Value) : Outcome (Option DevicePort) := do
  match ← nat? req "card", ← nat? req "port" with
  | some card, some port => return some ⟨card, port⟩
  | _, _ => return none

/-- What is asked of a terminal, by the name of the operation. -/
def terminalRequest (req : Value) (operation : String) : Outcome TerminalRequest := do
  let serial ← textOr req "serial" ""
  let nasPortId ← textOr req "nas_port_id" ""
  let circuitId ← textOr req "circuit_id" ""
  match operation with
  | "activate" => return .activate serial
  | "activate_serial" => return .activateSerial serial
  | "deactivate" => return .deactivate
  | "activate_explicit" =>
      let service ← vlan req "s_vlan"
      let customer ← vlan req "c_vlan"
      return .activateExplicit serial { service, customer } nasPortId circuitId
  | "pre_provision" =>
      let service ← vlan? req "s_vlan"
      let customer ← vlan? req "c_vlan"
      return .preProvision service customer nasPortId circuitId
        (← text? req "tech_profile") (← text? req "speed_profile")
  | _ => malformed "operation"

/-! ## Edits -/

/-- A change to a list. -/
def listEdit (req : Value) : Outcome ListEdit := do
  match ← textOr req "edit" "truncate" with
  | "truncate" => return .truncate (← nat req "to")
  | "clear" => return .clear
  | "reverse" => return .reverse
  | "dup_last" => return .repeatLast (← natOr req "times" 1)
  | _ => malformed "edit"

/-- A change to a logical tree. -/
def logicalEdit (req : Value) : Outcome Logical.Edit := do
  match ← text req "level" with
  | "site" => return .site (← siteAt req "site")
  | "slots" => return .slots (← listEdit req)
  | level =>
      let i ← nat req "slot_index"
      match level with
      | "ports" => return .ports i (← listEdit req)
      | "slot" => return .slotNumber i (← nat req "to")
      | _ =>
          let j ← nat req "port_index"
          match level with
          | "terminals" => return .terminals i j (← listEdit req)
          | "port" => return .portNumber i j (← nat req "to")
          | "terminal" =>
              let k ← nat req "terminal_index"
              match ← text req "edit" with
              | "number" => return .terminalNumber i j k (← nat req "to")
              | "s_vlan" => return .serviceTag i j k (← vlan req "to")
              | "c_vlan" => return .customerTag i j k (← vlan req "to")
              | _ => malformed "edit"
          | _ => malformed "level"

/-- A change to a physical tree. -/
def physicalEdit (req : Value) : Outcome Physical.Edit := do
  match ← text req "level" with
  | "site" => return .site (← siteAt req "site")
  | "cards" => return .cards (← listEdit req)
  | level =>
      let i ← nat req "card_index"
      match level with
      | "driver" => return .driver i (← driver req)
      | "card" => return .cardNumber i (← nat req "to")
      | "ports" => return .ports i (.truncate (← nat req "to"))
      | _ =>
          let j ← nat req "port_index"
          match level with
          | "port" => return .portNumber i j (← nat req "to")
          | "terminals" => return .terminals i j (.truncate (← nat req "to"))
          | "terminal" =>
              return .terminalNumber i j (← nat req "terminal_index") (← nat req "to")
          | _ => malformed "level"

/-! ## Patches -/

/-- A step of a path. -/
def asPathStep : Value → Outcome PathStep
  | .text name => .ok (.member name)
  | v => return .index (← asNat v)

/-- A path. -/
def path (req : Value) (name : String) : Outcome (List PathStep) := do
  (← sequence req name).mapM asPathStep

/-- An argument that is a JSON text. -/
def jsonText (req : Value) (name : String) : Outcome Value := do
  match Json.read? (← text req name).toList with
  | some v => return v
  | none => malformed name

/-- A change to a JSON value. -/
def patch (req : Value) : Outcome Json.Patch := do
  let edit : Json.Edit ← match ← text req "edit" with
    | "set" => pure (.set (← jsonText req "json").sorted)
    | "remove" => pure .remove
    | "append" => pure (.append (← jsonText req "json").sorted)
    | "copy" => pure (.copy (← path req "from"))
    | "truncate" => pure (.truncate (← nat req "to"))
    | "strip" => pure (.strip (← (← sequence req "keys").mapM asText))
    | _ => malformed "edit"
  return ⟨← path req "path", edit⟩

end ChassisRegistry.Request
