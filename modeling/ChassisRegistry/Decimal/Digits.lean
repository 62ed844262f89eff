/-! # Digits

    Reading and writing natural numbers in a base up to 16. A digit is an
    ASCII digit or letter; letters count from ten, in either case. -/

namespace ChassisRegistry.Decimal

/-- The value of a digit, whatever the base. -/
def digitValue (c : Char) : Option Nat :=
  if '0' ≤ c ∧ c ≤ '9' then some (c.toNat - '0'.toNat)
  else if 'a' ≤ c ∧ c ≤ 'f' then some (c.toNat - 'a'.toNat + 10)
  else if 'A' ≤ c ∧ c ≤ 'F' then some (c.toNat - 'A'.toNat + 10)
  else none

/-- Is it a digit of the base? -/
def isDigit (base : Nat) (c : Char) : Bool :=
  match digitValue c with
  | some d => d < base
  | none   => false

/-- The number that a row of digits writes. -/
def ofDigits (base : Nat) (cs : List Char) : Nat :=
  cs.foldl (fun n c => n * base + (digitValue c).getD 0) 0

/-- A number in base ten. -/
def ofNat (n : Nat) : List Char :=
  Nat.toDigits 10 n

/-- The digits at the front, and what follows them. -/
def span (base : Nat) (cs : List Char) : List Char × List Char :=
  (cs.takeWhile (isDigit base), cs.dropWhile (isDigit base))

/-- Reads a text of nothing but decimal digits. -/
def toNat? (cs : List Char) : Option Nat :=
  if cs.isEmpty || !cs.all (isDigit 10) then none else some (ofDigits 10 cs)

end ChassisRegistry.Decimal
