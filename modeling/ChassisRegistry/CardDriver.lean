import ChassisRegistry.Coordinate
import ChassisRegistry.Text.Blank

/-! # Line card drivers

    The hardware family of a line card. Every family has the ports of one
    logical slot. -/

namespace ChassisRegistry

/-- A hardware family. -/
inductive CardDriver where
  | edgecore
  | adtran
  | tibit
  deriving DecidableEq, Repr

namespace CardDriver

/-- Every family, in the order in which messages list them. -/
def all : List CardDriver := [edgecore, adtran, tibit]

/-- The name of a family. -/
def name : CardDriver → String
  | edgecore => "edgecore"
  | adtran   => "adtran"
  | tibit    => "tibit"

/-- Ports of a card of this family. -/
def portCount : CardDriver → Nat
  | edgecore | adtran | tibit => portsPerSlot

/-- The family of exactly this name. -/
def named? (s : String) : Option CardDriver :=
  all.find? fun d => d.name == s

/-- The family of a name as operators write it: blanks around it and the case of its letters do not
    matter. -/
def parse (given : String) : Except InputError CardDriver :=
  match named? (Text.keyword given) with
  | some d => .ok d
  | none   => .error (.unknownDriver given)

theorem named?_name (d : CardDriver) : named? d.name = some d := by
  cases d <;> decide

instance : ToString CardDriver := ⟨name⟩

end CardDriver

end ChassisRegistry
