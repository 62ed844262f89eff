import ChassisRegistry.CardDriver
import ChassisRegistry.DataError
import ChassisRegistry.Json.Writer
import ChassisRegistry.Site
import ChassisRegistry.SocketAddress.Reader
import ChassisRegistry.Vlan

/-! # Values of a shape

    Reading numbers, texts, choices and structures out of JSON values. A
    structure is an object, whose unknown members are ignored, or a sequence
    of its fields in order, of which only those with a default may be absent
    at the end. The first bad field is the error: in the order of their names
    in an object, in their own order in a sequence. Only when no field is bad
    is a missing one reported, in the order of the structure. -/

namespace ChassisRegistry.Json

/-! ## Single values -/

/-- What a value is, as messages show it. -/
def Value.found : Value → Found
  | .null       => .null
  | .boolean b  => .boolean b
  | .integer n  => .integer n
  | .real x     => .real (realText x)
  | .text s     => .text s
  | .sequence _ => .sequence
  | .object _   => .map

/-- The error for a value of another kind. -/
def wrongKind {α : Type} (v : Value) (wanted : String) : Except DataError α :=
  .error (.wrongKind v.found wanted)

/-- A whole number from 0 to `greatest`. -/
def readNat (wanted : String) (greatest : Nat) : Value → Except DataError Nat
  | .integer n =>
      if 0 ≤ n ∧ n ≤ greatest then .ok n.toNat else .error (.outsideRange n wanted)
  | v => wrongKind v wanted

/-- A number of 8 bits. -/
def readNat8 : Value → Except DataError Nat := readNat "u8" 255

/-- A number of 16 bits. -/
def readNat16 : Value → Except DataError Nat := readNat "u16" 65535

/-- A number of 32 bits. -/
def readUInt32 (v : Value) : Except DataError UInt32 :=
  (readNat "u32" 4294967295 v).map Nat.toUInt32

/-- A text. -/
def readText : Value → Except DataError String
  | .text s => .ok s
  | v => wrongKind v "a string"

/-- A truth value. -/
def readBoolean : Value → Except DataError Bool
  | .boolean b => .ok b
  | v => wrongKind v "a boolean"

/-- Null, or a value of the shape. -/
def readOptional {α : Type} (read : Value → Except DataError α) :
    Value → Except DataError (Option α)
  | .null => .ok none
  | v => (read v).map some

/-- The items, up to the first bad one. -/
def readItems {α : Type} (read : Value → Except DataError α) :
    List Value → Except DataError (List α)
  | [] => .ok []
  | v :: rest =>
      match read v with
      | .error e => .error e
      | .ok x =>
          match readItems read rest with
          | .error e => .error e
          | .ok xs => .ok (x :: xs)

/-- A sequence of values of one shape. -/
def readSequence {α : Type} (read : Value → Except DataError α) :
    Value → Except DataError (List α)
  | .sequence items => readItems read items
  | v => wrongKind v "a sequence"

/-! ## Values of the domain -/

/-- A site. -/
def readSite (v : Value) : Except DataError Site := do
  let given ← readText v
  (Site.parse given).mapError .refused

/-- A VLAN. -/
def readVlan (v : Value) : Except DataError Vlan := do
  let n ← readNat16 v
  (Vlan.ofNumber n).mapError .refused

/-- A socket address. -/
def readAddress : Value → Except DataError SocketAddress
  | .text s =>
      match SocketAddress.parse? s with
      | some a => .ok a
      | none => .error .noAddress
  | v => wrongKind v "socket address"

/-- The driver of exactly this name. -/
def chooseDriver (name : String) : Except DataError CardDriver :=
  match CardDriver.named? name with
  | some d => .ok d
  | none => .error (.unknownChoice name (CardDriver.all.map CardDriver.name))

/-- A driver: its name, or an object whose one member has that name and is null. -/
def readDriver : Value → Except DataError CardDriver
  | .text name => chooseDriver name
  | .object members =>
      -- Of two members with one name only the last is one.
      match sortedMembers members with
      | [(name, payload)] => do
          let d ← chooseDriver name
          match payload with
          | .null => return d
          | v => wrongKind v "unit"
      | _ => .error .notOneMember
  | v => wrongKind v "string or map"

/-! ## Structures -/

/-- The name of a structure and of its fields, in order. -/
structure Shape where
  name   : String
  fields : List String

/-- Where the fields of a structure are found. -/
inductive Source where
  | members (ms : List (String × Value))
  | items (vs : List Value)

namespace Source

/-- The error of a reading, if it failed. -/
def fault {α : Type} : Except DataError α → Option DataError
  | .error e => some e
  | .ok _ => none

/-- Of two faults the one whose field comes first by name. -/
def firstByName (a b : String × DataError) : String × DataError :=
  if b.1 < a.1 then b else a

/-- The fault that counts among those of the fields, which are given in the structure's order. -/
def firstFault (source : Source) (faults : List (String × Option DataError)) :
    Option DataError :=
  match faults.filterMap fun f => f.2.map (f.1, ·) with
  | [] => none
  | f :: more =>
      match source with
      | members _ => some (more.foldl firstByName f).2
      | items _ => some f.2

/-- Fails with the fault that counts, if there is one. -/
def settle (source : Source) (faults : List (String × Option DataError)) :
    Except DataError Unit :=
  match source.firstFault faults with
  | some e => .error e
  | none => .ok ()

end Source

namespace Shape

/-- The fields of a value that stands for the structure. -/
def source (shape : Shape) : Value → Except DataError Source
  | .object ms => .ok (.members ms)
  | .sequence vs => .ok (.items vs)
  | v => wrongKind v ("struct " ++ shape.name)

/-- The value of a field. -/
def value? (shape : Shape) (source : Source) (field : String) : Option Value :=
  match source with
  | .members ms => lookup ms field
  | .items vs => (shape.fields.idxOf? field).bind (vs[·]?)

/-- Reads a field; an absent one is no error yet. -/
def read {α : Type} (shape : Shape) (source : Source) (field : String)
    (reader : Value → Except DataError α) : Except DataError (Option α) :=
  match shape.value? source field with
  | none => .ok none
  | some v => (reader v).map some

/-- The error for an absent field. -/
def absent (shape : Shape) (source : Source) (field : String) : DataError :=
  match source with
  | .members _ => .missing field
  | .items vs => .tooShort vs.length shape.name shape.fields.length

/-- A field that has to be there. -/
def required {α : Type} (shape : Shape) (source : Source) (field : String)
    (read : Except DataError (Option α)) : Except DataError α :=
  match read with
  | .ok (some x) => .ok x
  | .ok none => .error (shape.absent source field)
  | .error e => .error e

/-- A field that may be absent. -/
def orElse {α : Type} (read : Except DataError (Option α)) (fallback : α) :
    Except DataError α :=
  read.map (·.getD fallback)

/-- No items beyond the last field. -/
def complete (shape : Shape) : Source → Except DataError Unit
  | .members _ => .ok ()
  | .items vs => if shape.fields.length < vs.length then .error (.tooLong vs.length) else .ok ()

end Shape

end ChassisRegistry.Json
