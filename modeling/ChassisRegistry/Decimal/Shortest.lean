import ChassisRegistry.Decimal.Binary64

/-! # Shortest decimals

    The fewest decimal digits that read back as a given binary number, and of
    those the nearest to it. For each count of digits the two neighbours of
    the number on that decimal grid are tried; the first grid with a
    neighbour that rounds to the number wins. A layout then says which of two
    neighbours is taken that are equally near, where the point goes, and when
    an exponent is written. -/

namespace ChassisRegistry.Decimal

/-! ## Digits -/

/-- The exponent of the leading decimal digit of a positive fraction. -/
def leadingExponent (num den : Nat) : Int :=
  if den ≤ num then ((ofNat (num / den)).length : Int) - 1
  else -((ofNat ((den + num - 1) / num - 1)).length : Int)

/-- The fraction `num / den` divided by `10 ^ e`, as a fraction. -/
def scaleTen (num den : Nat) (e : Int) : Nat × Nat :=
  if 0 ≤ e then (num, den * Nat.pow 10 e.toNat)
  else (num * Nat.pow 10 (-e).toNat, den)

/-- The numbers that round to a given one: four times the bounds and the number itself, over a
    common denominator, and whether the bounds belong to them. -/
structure Interval where
  low         : Nat
  middle      : Nat
  high        : Nat
  denominator : Nat
  closed      : Bool

/-- What rounds to a positive number. Below a power of two the gap is half as wide. -/
def Interval.of (x : Binary64) : Interval :=
  let narrow :=
    x.mantissa = Nat.pow 2 (Binary64.precision - 1) ∧ Binary64.leastExponent < x.exponent
  let four := 4 * x.mantissa
  let (unit, den) := Binary64.scaleDown 1 1 (2 - x.exponent)
  { low         := (if narrow then four - 1 else four - 2) * unit
    middle      := four * unit
    high        := (four + 2) * unit
    denominator := den
    closed      := x.mantissa % 2 = 0 }

/-- Does `digits * 10 ^ e` lie in the interval? -/
def Interval.contains (i : Interval) (digits : Nat) (e : Int) : Bool :=
  let (n, d) := scaleTen digits 1 (-e)
  let scaled := n * i.denominator
  if i.closed then i.low * d ≤ scaled && scaled ≤ i.high * d
  else i.low * d < scaled && scaled < i.high * d

/-- Which neighbour is taken of a number half way between two: the even one, or the larger. -/
inductive Tie where
  | even
  | up
  deriving DecidableEq, Repr

/-- The whole number nearest to `num / den`. -/
def Tie.nearer (tie : Tie) (num den : Nat) : Nat :=
  match tie with
  | .even => roundHalfEven num den
  | .up   => if 2 * (num % den) < den then num / den else num / den + 1

/-- The best decimal with this many digits that lies in the interval. -/
def Interval.onGrid (tie : Tie) (i : Interval) (count : Nat) : Option (Nat × Int) :=
  let e := leadingExponent i.middle i.denominator - count + 1
  let (n, d) := scaleTen i.middle i.denominator e
  let below := n / d
  let above := below + 1
  match i.contains below e, i.contains above e with
  | true, true   => some (tie.nearer n d, e)
  | true, false  => some (below, e)
  | false, true  => some (above, e)
  | false, false => none

/-- The digits without zeros at the end; the exponent makes up for them. -/
def withoutZeros (digits : Nat) (e : Int) : Nat × Int :=
  if digits ≠ 0 ∧ digits % 10 = 0 then withoutZeros (digits / 10) (e + 1) else (digits, e)
termination_by digits
decreasing_by omega

/-- The shortest decimal `digits * 10 ^ e` that reads back as the number's size. -/
def shortest (tie : Tie) (x : Binary64) : Nat × Int :=
  if x.mantissa = 0 then (0, 0)
  else
    let i := Interval.of x
    match (List.range 17).findSome? fun k => i.onGrid tie (k + 1) with
    | some (digits, e) => withoutZeros digits e
    | none => (0, 0)

/-! ## Layout -/

/-- How a number is written. -/
structure Layout where
  tie        : Tie
  /-- Is the point written in its place? Told by the exponent of the leading digit. -/
  positional : Int → Bool

/-- The digits with the point in its place and at least one digit on either side of it. -/
def positionalText (digits : List Char) (e : Int) : List Char :=
  if 0 ≤ e then digits ++ List.replicate e.toNat '0' ++ ['.', '0']
  else
    let places := (-e).toNat
    if places < digits.length then
      digits.take (digits.length - places) ++ '.' :: digits.drop (digits.length - places)
    else '0' :: '.' :: List.replicate (places - digits.length) '0' ++ digits

/-- One digit, the point and the others if there are any, and the exponent with its sign. -/
def exponentText (digits : List Char) (leading : Int) : List Char :=
  let fraction := if digits.length ≤ 1 then [] else '.' :: digits.drop 1
  let sign := if 0 ≤ leading then '+' else '-'
  digits.take 1 ++ fraction ++ 'e' :: sign :: ofNat leading.natAbs

/-- A number as the layout writes it. -/
def Layout.text (layout : Layout) (x : Binary64) : String :=
  let (n, e) := shortest layout.tie x
  let digits := ofNat n
  let leading := e + digits.length - 1
  let size := if layout.positional leading then positionalText digits e
    else exponentText digits leading
  String.ofList (if x.negative then '-' :: size else size)

end ChassisRegistry.Decimal
