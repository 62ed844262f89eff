import ChassisRegistry.Decimal.Digits
import ChassisRegistry.Toml.Value

/-! # TOML numbers

    Single underscores may stand between digits. A whole number is written in
    base ten, with a sign or without and with no zero in front, or in base 16,
    8 or 2 behind `0x`, `0o` or `0b`, without a sign; it has to fit 128 bits,
    signed or not. A floating point number has a fraction, an exponent, or
    both, or is one of the words `inf` and `nan`; one that is too large is
    refused. -/

namespace ChassisRegistry.Toml

/-! ## Digits -/

/-- The digits of a row in which single underscores may stand between digits. -/
def digits? (base : Nat) : List Char → Option (List Char)
  | [] => none
  | [c] => if Decimal.isDigit base c then some [c] else none
  | c :: '_' :: rest =>
      if Decimal.isDigit base c then (digits? base rest).map (c :: ·) else none
  | c :: rest =>
      if Decimal.isDigit base c then (digits? base rest).map (c :: ·) else none

/-- The digits of a row in base ten without a zero in front. -/
def plainDigits? (cs : List Char) : Option (List Char) := do
  let digits ← digits? 10 cs
  if digits.head? = some '0' ∧ 1 < digits.length then none else some digits

/-- Is there a minus at the front? And what follows the sign, if there is one. -/
def signed : List Char → Bool × List Char
  | '-' :: rest => (true, rest)
  | '+' :: rest => (false, rest)
  | cs => (false, cs)

/-- The number of a size and a sign. -/
def withSign (negative : Bool) (size : Nat) : Int := if negative then -(size : Int) else size

/-! ## Whole numbers -/

/-- Does the number fit 128 bits, signed or not? -/
def fits128 (n : Int) : Bool :=
  -(Nat.pow 2 127 : Int) ≤ n && n < (Nat.pow 2 128 : Int)

/-- A number in a base other than ten. -/
def inBase (base : Nat) (cs : List Char) : Option Int :=
  (digits? base cs).map fun digits => (Decimal.ofDigits base digits : Int)

/-- The number that a row of characters writes, whatever its size. -/
def unbounded? : List Char → Option Int
  | '0' :: 'x' :: rest => inBase 16 rest
  | '0' :: 'o' :: rest => inBase 8 rest
  | '0' :: 'b' :: rest => inBase 2 rest
  | cs => do
      let (negative, cs) := signed cs
      let digits ← plainDigits? cs
      return withSign negative (Decimal.ofDigits 10 digits)

/-- Reads a whole number. -/
def integer? (cs : List Char) : Option Int := (unbounded? cs).filter fits128

/-! ## Floating point -/

/-- A digit in base ten, or an underscore. -/
def isRun (c : Char) : Bool := Decimal.isDigit 10 c || c == '_'

/-- The digits behind the point, if there is one, and what follows them. -/
def fraction? : List Char → Option (List Char × List Char)
  | '.' :: rest => (digits? 10 (rest.takeWhile isRun)).map fun ds => (ds, rest.dropWhile isRun)
  | cs => some ([], cs)

/-- The exponent, which is zero if there is none. -/
def exponent? : List Char → Option Int
  | [] => some 0
  | c :: rest =>
      if c = 'e' ∨ c = 'E' then do
        let (negative, cs) := signed rest
        let digits ← digits? 10 cs
        return withSign negative (Decimal.ofDigits 10 digits)
      else none

/-- A number with a fraction, an exponent, or both. -/
def finite? (negative : Bool) (cs : List Char) : Option Decimal.Binary64 := do
  let whole ← plainDigits? (cs.takeWhile isRun)
  let after := cs.dropWhile isRun
  if after.isEmpty then none
  let (fraction, after) ← fraction? after
  let exponent ← exponent? after
  Decimal.Binary64.ofDecimal negative (Decimal.ofDigits 10 (whole ++ fraction))
    (exponent - fraction.length)

/-- Reads a floating point number. -/
def real? (cs : List Char) : Option Real :=
  let (negative, cs) := signed cs
  match cs with
  | ['i', 'n', 'f'] => some (.infinite negative)
  | ['n', 'a', 'n'] => some .notNumber
  | cs => (finite? negative cs).map .finite

end ChassisRegistry.Toml
