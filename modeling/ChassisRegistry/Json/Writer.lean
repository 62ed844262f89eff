import ChassisRegistry.Decimal.Shortest
import ChassisRegistry.Json.Value

/-! # Writing JSON

    The compact form: no spaces, members in the order of the object. A text
    escapes the quote, the backslash and the control characters, and nothing
    else. Every writer puts its characters in front of those that follow, so
    that the whole is written in one pass. -/

namespace ChassisRegistry.Json

/-- Numbers from `1e-5` up to, not including, `1e16` have their point in place. -/
def realLayout : Decimal.Layout := ⟨.even, fun leading => -5 ≤ leading && leading < 16⟩

/-- A floating point number. -/
def realText (x : Decimal.Binary64) : String :=
  realLayout.text x

/-- One character of a text. -/
def escaped (c : Char) : List Char :=
  match c with
  | '"'    => ['\\', '"']
  | '\\'   => ['\\', '\\']
  | '\x08' => ['\\', 'b']
  | '\x09' => ['\\', 't']
  | '\x0a' => ['\\', 'n']
  | '\x0c' => ['\\', 'f']
  | '\x0d' => ['\\', 'r']
  | c =>
      if c.toNat < 0x20 then
        ['\\', 'u', '0', '0', Nat.digitChar (c.toNat / 16), Nat.digitChar (c.toNat % 16)]
      else [c]

/-- The characters of a text, escaped. -/
def writeChars : List Char → List Char → List Char
  | [], rest => rest
  | c :: cs, rest => escaped c ++ writeChars cs rest

/-- A text between quotes. -/
def writeText (s : String) (rest : List Char) : List Char :=
  '"' :: writeChars s.toList ('"' :: rest)

/-- A whole number. -/
def writeInteger (n : Int) (rest : List Char) : List Char :=
  if n < 0 then '-' :: Decimal.ofNat n.natAbs ++ rest else Decimal.ofNat n.natAbs ++ rest

mutual

/-- A value, in front of what follows it. -/
def Value.write : Value → List Char → List Char
  | .null, rest => 'n' :: 'u' :: 'l' :: 'l' :: rest
  | .boolean true, rest => 't' :: 'r' :: 'u' :: 'e' :: rest
  | .boolean false, rest => 'f' :: 'a' :: 'l' :: 's' :: 'e' :: rest
  | .integer n, rest => writeInteger n rest
  | .real x, rest => (realText x).toList ++ rest
  | .text s, rest => writeText s rest
  | .sequence items, rest => '[' :: writeItems items (']' :: rest)
  | .object members, rest => '{' :: writeMembers members ('}' :: rest)

/-- Items with commas between them. -/
def writeItems : List Value → List Char → List Char
  | [], rest => rest
  | [v], rest => v.write rest
  | v :: w :: more, rest => v.write (',' :: writeItems (w :: more) rest)

/-- Members with commas between them. -/
def writeMembers : List (String × Value) → List Char → List Char
  | [], rest => rest
  | [(key, v)], rest => writeText key (':' :: v.write rest)
  | (key, v) :: m :: more, rest =>
      writeText key (':' :: v.write (',' :: writeMembers (m :: more) rest))

end

/-- The compact form of a value. -/
def Value.compact (v : Value) : String :=
  String.ofList (v.write [])

end ChassisRegistry.Json
