import ChassisRegistry.Decimal.Binary64

/-! # TOML values

    What a TOML document holds. Of a table every key is given once. Points in
    time are kept as they are written. -/

namespace ChassisRegistry.Toml

/-- A floating point number. -/
inductive Real where
  | finite (x : Decimal.Binary64)
  | infinite (negative : Bool)
  | notNumber

/-- A TOML value. -/
inductive Value where
  | text (s : String)
  | integer (n : Int)
  | real (x : Real)
  | boolean (b : Bool)
  /-- A date, a time of day, or both. -/
  | moment (written : String)
  | sequence (items : List Value)
  | table (entries : List (String × Value))

/-! ## Whole numbers

    The format promises to keep whole numbers of 64 bits with a sign. A reader
    may keep larger ones. -/

/-- Is the number among those that the format promises to keep? -/
def isPromised (n : Int) : Bool :=
  -(Nat.pow 2 63 : Int) ≤ n && n < (Nat.pow 2 63 : Int)

mutual

/-- Are all whole numbers in it among those that the format promises to keep? -/
def Value.keepsPromise : Value → Bool
  | .integer n => isPromised n
  | .sequence items => allKeepPromise items
  | .table entries => entriesKeepPromise entries
  | .text _ | .real _ | .boolean _ | .moment _ => true

/-- The same of some values. -/
def allKeepPromise : List Value → Bool
  | [] => true
  | v :: rest => v.keepsPromise && allKeepPromise rest

/-- The same of the values of some entries. -/
def entriesKeepPromise : List (String × Value) → Bool
  | [] => true
  | (_, v) :: rest => v.keepsPromise && entriesKeepPromise rest

end

end ChassisRegistry.Toml
