import ChassisRegistry.Decimal.Digits

/-! # Binary floating point

    Finite numbers with 53 bits of precision: a sign, a mantissa and an
    exponent of two from -1074 to 971. A fraction is rounded to the nearest
    such number, a tie to the even mantissa. All arithmetic is exact until
    that one rounding. -/

namespace ChassisRegistry.Decimal

/-- A fraction rounded to a whole number, a tie to the even one. -/
def roundHalfEven (num den : Nat) : Nat :=
  let q := num / den
  let r := num % den
  if 2 * r < den then q
  else if den < 2 * r then q + 1
  else if q % 2 = 0 then q else q + 1

/-- The number `mantissa * 2 ^ exponent`, or its opposite. -/
structure Binary64 where
  negative : Bool
  mantissa : Nat
  exponent : Int
  deriving DecidableEq, Repr

namespace Binary64

/-- The least exponent. -/
def leastExponent : Int := -1074

/-- The greatest exponent. -/
def greatestExponent : Int := 971

/-- Bits of a mantissa. -/
def precision : Nat := 53

/-- Zero, with its sign. -/
def zero (negative : Bool) : Binary64 := ⟨negative, 0, leastExponent⟩

/-- The fraction `num / den` divided by `2 ^ e`, as a fraction. -/
def scaleDown (num den : Nat) (e : Int) : Nat × Nat :=
  if 0 ≤ e then (num, den * Nat.pow 2 e.toNat)
  else (num * Nat.pow 2 (-e).toNat, den)

/-- The number nearest to the fraction `num / den`; none when that is too large. -/
def nearest (negative : Bool) (num den : Nat) : Option Binary64 :=
  if num = 0 then some (zero negative)
  else
    -- The exponent, right or one too small.
    let guess : Int := (Nat.log2 num : Int) - Nat.log2 den - precision
    let (n, d) := scaleDown num den guess
    let tight := if Nat.pow 2 precision * d ≤ n then guess + 1 else guess
    -- Numbers below the least exponent have fewer bits.
    let e := max tight leastExponent
    let (n, d) := scaleDown num den e
    let m := roundHalfEven n d
    -- Rounding may carry into one more bit.
    let (m, e) := if m = Nat.pow 2 precision then (Nat.pow 2 (precision - 1), e + 1) else (m, e)
    if greatestExponent < e then none else some ⟨negative, m, e⟩

/-- The size of a number as a fraction. -/
def fraction (x : Binary64) : Nat × Nat :=
  scaleDown x.mantissa 1 (-x.exponent)

/-- The product with a power of ten, which is rounded before it is used. -/
def timesTen (x : Binary64) (power : Nat) : Option Binary64 := do
  let ten ← nearest false (Nat.pow 10 power) 1
  let (n, d) := x.fraction
  let (n', d') := ten.fraction
  nearest x.negative (n * n') (d * d')

/-- The quotient by a power of ten, which is rounded before it is used. -/
def overTen (x : Binary64) (power : Nat) : Option Binary64 := do
  let ten ← nearest false (Nat.pow 10 power) 1
  let (n, d) := x.fraction
  let (n', d') := ten.fraction
  nearest x.negative (n * d') (d * n')

/-- The number nearest to `digits * 10 ^ exponent`. Far outside the range the power is not worked
    out. -/
def ofDecimal (negative : Bool) (digits : Nat) (exponent : Int) : Option Binary64 :=
  let width : Int := (Nat.toDigits 10 digits).length
  if digits = 0 then some (zero negative)
  else if 400 < width + exponent then none
  else if width + exponent < -400 then some (zero negative)
  else if 0 ≤ exponent then nearest negative (digits * Nat.pow 10 exponent.toNat) 1
  else nearest negative digits (Nat.pow 10 (-exponent).toNat)

end Binary64

end ChassisRegistry.Decimal
