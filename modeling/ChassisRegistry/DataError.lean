import ChassisRegistry.InputError

/-! # Ill-shaped data

    Why a value of a data format does not have the shape that was asked for:
    it is of another kind, outside its range, names an unknown choice, or
    lacks a field. The wording names what was found and what was wanted. -/

namespace ChassisRegistry

/-- What was found, as messages show it. -/
inductive Found where
  | null
  | boolean (b : Bool)
  | integer (n : Int)
  /-- A floating point number, as its format writes it. -/
  | real (written : String)
  | text (s : String)
  | sequence
  | map
  deriving DecidableEq, Repr

namespace Found

/-- The wording. -/
def message : Found → String
  | null         => "null"
  | boolean b    => s!"boolean `{b}`"
  | integer n    => s!"integer `{n}`"
  | real written => s!"floating point `{written}`"
  | text s       => "string " ++ Text.quoted s
  | sequence     => "sequence"
  | map          => "map"

end Found

/-- Why data is ill-shaped. -/
inductive DataError where
  | missing (field : String)
  | wrongKind (found : Found) (wanted : String)
  | outsideRange (n : Int) (wanted : String)
  | unknownChoice (given : String) (known : List String)
  /-- A choice with a payload is an object with one member. -/
  | notOneMember
  | refused (e : InputError)
  | noAddress
  /-- A structure of `fields` fields given as a sequence of `length` items. -/
  | tooShort (length : Nat) (structName : String) (fields : Nat)
  | tooLong (length : Nat)
  deriving DecidableEq, Repr

namespace DataError

/-- A name between backticks. -/
def ticked (name : String) : String := s!"`{name}`"

/-- The choices that would have been known. -/
def choices : List String → String
  | []     => "there are no variants"
  | [a]    => "expected " ++ ticked a
  | [a, b] => "expected " ++ ticked a ++ " or " ++ ticked b
  | many   => "expected one of " ++ ", ".intercalate (many.map ticked)

/-- The wording. -/
def message : DataError → String
  | missing field           => s!"missing field `{field}`"
  | wrongKind found wanted  => s!"invalid type: {found.message}, expected {wanted}"
  | outsideRange n wanted   => s!"invalid value: integer `{n}`, expected {wanted}"
  | unknownChoice given ks  => s!"unknown variant `{given}`, " ++ choices ks
  | notOneMember            => "invalid value: map, expected map with a single key"
  | refused e               => e.message
  | noAddress               => "invalid socket address syntax"
  | tooShort n name fields  => s!"invalid length {n}, expected struct {name} with {fields} elements"
  | tooLong n               => s!"invalid length {n}, expected fewer elements in array"

end DataError

end ChassisRegistry
