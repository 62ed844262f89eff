import ChassisRegistry.Decimal.Digits

/-! # Points in time

    A date, a time of day, or a date with a time and perhaps the distance from
    Greenwich: `1979-05-27`, `07:32`, `1979-05-27T07:32:00.5Z`,
    `1979-05-27 07:32:00-08:00`. Seconds may be left out. -/

namespace ChassisRegistry.Toml.Moment

/-- Two digits at the front as a number, and what follows. -/
def pair? : List Char → Option (Nat × List Char)
  | a :: b :: rest =>
      if Decimal.isDigit 10 a ∧ Decimal.isDigit 10 b then
        some (Decimal.ofDigits 10 [a, b], rest)
      else none
  | _ => none

/-- What follows a certain character at the front. -/
def after? (c : Char) : List Char → Option (List Char)
  | d :: rest => if c = d then some rest else none
  | [] => none

/-- Is February a day longer? -/
def isLeap (year : Nat) : Bool := (year % 4 == 0 && year % 100 != 0) || year % 400 == 0

/-- Days of a month. -/
def daysIn (year month : Nat) : Nat :=
  if month = 2 then if isLeap year then 29 else 28
  else if month = 4 ∨ month = 6 ∨ month = 9 ∨ month = 11 then 30 else 31

/-- What follows a date. -/
def afterDate? (cs : List Char) : Option (List Char) := do
  let (century, cs) ← pair? cs
  let (year, cs) ← pair? cs
  let (month, cs) ← pair? (← after? '-' cs)
  let (day, cs) ← pair? (← after? '-' cs)
  if 1 ≤ month ∧ month ≤ 12 ∧ 1 ≤ day ∧ day ≤ daysIn (century * 100 + year) month then some cs
  else none

/-- What follows a fraction of a second, if there is one. -/
def afterFraction? : List Char → Option (List Char)
  | '.' :: rest =>
      let (digits, rest) := Decimal.span 10 rest
      if digits.isEmpty then none else some rest
  | cs => some cs

/-- What follows hours and minutes. -/
def afterMinutes? (cs : List Char) : Option (List Char) := do
  let (hour, cs) ← pair? cs
  let (minute, cs) ← pair? (← after? ':' cs)
  if hour ≤ 23 ∧ minute ≤ 59 then some cs else none

/-- What follows a time of day. A minute may have a leap second. -/
def afterTime? (cs : List Char) : Option (List Char) := do
  match ← afterMinutes? cs with
  | ':' :: rest =>
      let (second, rest) ← pair? rest
      if second ≤ 60 then afterFraction? rest else none
  | rest => some rest

/-- The distance from Greenwich, or nothing. -/
def isOffset : List Char → Bool
  | [] => true
  | ['Z'] | ['z'] => true
  | c :: rest => (c == '+' || c == '-') && afterMinutes? rest == some []

/-- A date and nothing else. -/
def isDate (cs : List Char) : Bool := afterDate? cs == some []

/-- A point in time. -/
def isMoment (cs : List Char) : Bool :=
  match afterDate? cs with
  | some [] => true
  | some (mark :: rest) =>
      (mark == 'T' || mark == 't' || mark == ' ') && (afterTime? rest).any isOffset
  | none => afterTime? cs == some []

end ChassisRegistry.Toml.Moment
