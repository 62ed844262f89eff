import ChassisRegistry.Decimal.Digits
import ChassisRegistry.Report.Refusal

/-! # Arguments of requests

    A request is a JSON object, and its members are the arguments. A member
    that is null counts as absent. -/

namespace ChassisRegistry

/-- A result, or why there is none. -/
abbrev Outcome := Except Refusal

namespace Request

open Json (Value)

/-- The refusal of an unusable argument. -/
def malformed {α : Type} (argument : String) : Outcome α := .error (.malformed argument)

/-- An argument, if it is given. -/
def given? (req : Value) (name : String) : Option Value :=
  match req.member? name with
  | some .null => none
  | found => found

/-- An argument that has to be given. -/
def needed {α : Type} (name : String) (found : Outcome (Option α)) : Outcome α := do
  match ← found with
  | some x => return x
  | none => malformed name

/-! ## Values -/

/-- A text. -/
def asText : Value → Outcome String
  | .text s => .ok s
  | _ => malformed "text"

/-- A number from 0 on. -/
def asNat : Value → Outcome Nat
  | .integer n => if 0 ≤ n then .ok n.toNat else malformed "number"
  | _ => malformed "number"

/-- A sequence. -/
def asSequence : Value → Outcome (List Value)
  | .sequence vs => .ok vs
  | _ => malformed "sequence"

/-- A truth value. -/
def asBoolean : Value → Outcome Bool
  | .boolean b => .ok b
  | _ => malformed "boolean"

/-! ## Arguments -/

/-- A text that may be absent. -/
def text? (req : Value) (name : String) : Outcome (Option String) :=
  (given? req name).mapM asText

/-- A text with a default. -/
def textOr (req : Value) (name fallback : String) : Outcome String :=
  return (← text? req name).getD fallback

/-- A text. -/
def text (req : Value) (name : String) : Outcome String := needed name (text? req name)

/-- A number that may be absent. -/
def nat? (req : Value) (name : String) : Outcome (Option Nat) :=
  (given? req name).mapM asNat

/-- A number with a default. -/
def natOr (req : Value) (name : String) (fallback : Nat) : Outcome Nat :=
  return (← nat? req name).getD fallback

/-- A number. -/
def nat (req : Value) (name : String) : Outcome Nat := needed name (nat? req name)

/-- A truth value, false if it is absent. -/
def flag (req : Value) (name : String) : Outcome Bool :=
  return (← (given? req name).mapM asBoolean).getD false

/-- A sequence, empty if it is absent. -/
def sequence (req : Value) (name : String) : Outcome (List Value) :=
  return (← (given? req name).mapM asSequence).getD []

/-! ## Bytes -/

/-- Bytes from hexadecimal digits, behind those that were read. -/
def hexBytes : List Char → ByteArray → Outcome ByteArray
  | high :: low :: rest, done =>
      match Decimal.digitValue high, Decimal.digitValue low with
      | some h, some l => hexBytes rest (done.push (h * 16 + l).toUInt8)
      | _, _ => malformed "hex"
  | [], done => .ok done
  | [_], _ => malformed "hex"

/-- Bytes that may be absent: a text in UTF-8, or hexadecimal digits. -/
def bytes? (req : Value) : Outcome (Option ByteArray) := do
  match ← text? req "text", ← text? req "hex" with
  | some s, _ => return some s.toUTF8
  | none, some s => return some (← hexBytes s.toList ByteArray.empty)
  | none, none => return none

/-- Bytes. -/
def bytes (req : Value) : Outcome ByteArray := needed "bytes" (bytes? req)

end Request

end ChassisRegistry
