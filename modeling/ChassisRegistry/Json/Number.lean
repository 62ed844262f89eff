import ChassisRegistry.Json.Value

/-! # Reading JSON numbers

    A number without point and exponent that fits 64 bits, signed or not, is a
    whole number; every other number, a negative zero among them, is read as
    floating point. Of its digits the leading ones that fit 64 bits are
    rounded first, and then scaled by a power of ten, with a rounding of its
    own. A number too large for floating point is refused. -/

namespace ChassisRegistry.Json

/-- The parts of a number as it is written. -/
structure NumberText where
  negative : Bool
  whole    : List Char
  fraction : List Char
  exponent : Int
  plain    : Bool
  deriving Repr

/-- A row of at least one digit. -/
def someDigits (cs : List Char) : Option (List Char × List Char) :=
  let (digits, rest) := Decimal.span 10 cs
  if digits.isEmpty then none else some (digits, rest)

/-- The exponent after its letter: a sign if there is one, and digits. -/
def exponentOf (cs : List Char) : Option Int := do
  let (negative, cs) := match cs with
    | '-' :: rest => (true, rest)
    | '+' :: rest => (false, rest)
    | _ => (false, cs)
  let size ← Decimal.toNat? cs
  return if negative then -(size : Int) else size

/-- Takes a number apart. Its whole part has no leading zero. -/
def NumberText.parse? (cs : List Char) : Option NumberText := do
  let (negative, cs) := match cs with
    | '-' :: rest => (true, rest)
    | _ => (false, cs)
  let (whole, cs) ← someDigits cs
  if whole.head? = some '0' ∧ 1 < whole.length then none
  let (fraction, rest) ← match cs with
    | '.' :: cs => someDigits cs
    | _ => some ([], cs)
  match rest with
  | [] => return { negative, whole, fraction, exponent := 0, plain := fraction.isEmpty }
  | mark :: cs =>
      if mark = 'e' ∨ mark = 'E' then
        return { negative, whole, fraction, exponent := ← exponentOf cs, plain := false }
      else none

/-- The greatest number of 64 bits. -/
def greatest64 : Nat := 18446744073709551615

/-- Reads on from `n` while the number fits 64 bits: the number, how many digits were read, and how
    many were left. -/
def digits64 (n : Nat) : List Char → Nat × Nat × Nat
  | [] => (n, 0, 0)
  | c :: cs =>
      let next := n * 10 + (Decimal.digitValue c).getD 0
      if greatest64 < next then (n, 0, cs.length + 1)
      else
        let (m, read, left) := digits64 next cs
        (m, read + 1, left)

/-- The greatest power of ten that floating point holds. -/
def greatestPower : Nat := 308

/-- Divides by a power of ten, the greatest one at a time. -/
def shrink (x : Decimal.Binary64) (power : Nat) : Option Decimal.Binary64 :=
  if _h : power ≤ greatestPower then x.overTen power
  else if x.mantissa = 0 then some x
  else do
    let y ← x.overTen greatestPower
    shrink y (power - greatestPower)
termination_by power
decreasing_by simp [greatestPower] at *; omega

/-- Scales by a power of ten. -/
def scale (x : Decimal.Binary64) (power : Int) : Option Decimal.Binary64 :=
  if power < 0 then shrink x power.natAbs
  else if power.natAbs ≤ greatestPower then x.timesTen power.natAbs
  else if x.mantissa = 0 then some x
  else none

/-- The number as floating point. -/
def NumberText.real? (t : NumberText) : Option Decimal.Binary64 := do
  -- Dropped digits count in the exponent, read digits of the fraction against it.
  let (n, _, dropped) := digits64 0 t.whole
  let (n, read, _) := digits64 n t.fraction
  let x ← Decimal.Binary64.nearest t.negative n 1
  scale x (dropped - read + t.exponent)

/-- The value of a number. -/
def NumberText.value? (t : NumberText) : Option Value :=
  let n := Decimal.ofDigits 10 t.whole
  if t.plain ∧ ¬ t.negative ∧ n ≤ greatest64 then some (.integer n)
  else if t.plain ∧ t.negative ∧ n ≠ 0 ∧ n ≤ 9223372036854775808 then some (.integer (-n))
  else t.real?.map .real

/-- Reads a number. -/
def number? (cs : List Char) : Option Value :=
  (NumberText.parse? cs).bind NumberText.value?

end ChassisRegistry.Json
