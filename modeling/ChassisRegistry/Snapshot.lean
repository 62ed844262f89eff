import ChassisRegistry.Json.Reader
import ChassisRegistry.Record
import ChassisRegistry.Snapshot.PhysicalForm

/-! # Snapshots

    A record as bytes: a JSON object with a version and the stored forms of
    the two halves. An older layout has the physical half alone and no
    version; its logical half is laid out anew. Reading joins the halves, so
    the bindings are those of the line cards in their order. -/

namespace ChassisRegistry.Snapshot

open Json (Value)

/-- The version that is written, and the only one that is read. -/
def version : Nat := 1

/-! ## Writing -/

/-- A record as a JSON value. -/
def ofRecord (r : Record) : Value :=
  .object [("version", Json.natural version), ("logical", r.logical.stored),
    ("physical", r.physical.stored)]

/-- A record as text. -/
def write (r : Record) : String :=
  (ofRecord r).compact

/-! ## Reading -/

/-- Is it the version that is read? -/
def isKnown : Value → Bool
  | .integer n => n == version
  | _ => false

/-- The halves of a snapshot with a version. A half that is there but ill-shaped is reported before
    one that is missing. -/
def halves (members : List (String × Value)) :
    Except DataError (Logical.Chassis × Physical.Chassis) := do
  let logical ← (Json.lookup members "logical").mapM Logical.Chassis.ofStored
  let physical ← (Json.lookup members "physical").mapM Physical.Chassis.ofStored
  match logical, physical with
  | none, _ => .error (.missing "logical")
  | _, none => .error (.missing "physical")
  | some logical, some physical => .ok (logical, physical)

/-- A snapshot without a version: a physical half. -/
def ofUnversioned (v : Value) : Except ChassisError Record :=
  match Physical.Chassis.ofStored v with
  | .error e => .error (.snapshot (.shape e))
  | .ok physical =>
      Record.join (.planned physical.site physical.rack physical.shelf) physical

/-- The record of a snapshot that was parsed. -/
def toRecord (v : Value) : Except ChassisError Record :=
  match v with
  | .object members =>
      match Json.lookup members "version" with
      -- The older layout.
      | none => ofUnversioned v
      | some found =>
          if !isKnown found then .error (.snapshot (.version found.sorted.compact))
          else
            match halves members with
            | .error e => .error (.snapshot (.shape e))
            | .ok (logical, physical) => Record.join logical physical
  | v => ofUnversioned v

/-- The record of a snapshot. -/
def read (bytes : ByteArray) : Except ChassisError Record :=
  match Json.ofBytes? bytes with
  | none => .error (.snapshot .notJson)
  | some v => toRecord v

end ChassisRegistry.Snapshot
