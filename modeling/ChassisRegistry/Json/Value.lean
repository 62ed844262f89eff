import ChassisRegistry.Decimal.Binary64

/-! # JSON values

    Numbers come in two kinds: whole numbers, and binary floating point for
    everything written with a fraction or an exponent. An object keeps its
    members in the order in which they were written; of members with one name
    the last counts, and no function of this library sees the others. -/

namespace ChassisRegistry.Json

/-- A JSON value. -/
inductive Value where
  | null
  | boolean (b : Bool)
  | integer (n : Int)
  | real (x : Decimal.Binary64)
  | text (s : String)
  | sequence (items : List Value)
  | object (members : List (String × Value))
  deriving Inhabited

/-- A whole number from 0 on. -/
def natural (n : Nat) : Value := .integer n

/-- A value that may be absent. -/
def optional {α : Type} (write : α → Value) : Option α → Value
  | some x => write x
  | none => .null

/-! ## Members -/

/-- The value of the last member of this name. -/
def lookup : List (String × Value) → String → Option Value
  | [], _ => none
  | (key, value) :: rest, name =>
      match lookup rest name with
      | some found => some found
      | none => if key = name then some value else none

@[simp] theorem lookup_nil (name : String) : lookup [] name = none := rfl

theorem lookup_append (before after : List (String × Value)) (name : String) :
    lookup (before ++ after) name = (lookup after name).or (lookup before name) := by
  induction before with
  | nil => cases h : lookup after name <;> simp [h]
  | cons m rest ih =>
    obtain ⟨key, value⟩ := m
    simp only [List.cons_append, lookup, ih]
    cases lookup after name <;> simp

/-- A member of another name changes nothing. -/
theorem lookup_cons_ne {key name : String} (h : key ≠ name) (value : Value)
    (rest : List (String × Value)) : lookup ((key, value) :: rest) name = lookup rest name := by
  simp only [lookup, if_neg h]
  cases lookup rest name <;> rfl

/-- The member of this name, when the value is an object that has one. -/
def Value.member? : Value → String → Option Value
  | .object members, name => lookup members name
  | _, _ => none

/-- An object with one more member. -/
def Value.withMember (v : Value) (name : String) (value : Value) : Value :=
  match v with
  | .object members => .object (members ++ [(name, value)])
  | v => v

/-- Puts a member at its place in ascending order of names, instead of one of the same name. -/
def insertMember (key : String) (value : Value) :
    List (String × Value) → List (String × Value)
  | [] => [(key, value)]
  | (k, v) :: rest =>
      if key < k then (key, value) :: (k, v) :: rest
      else if key = k then (key, value) :: rest
      else (k, v) :: insertMember key value rest

/-- Each name once, with its last value, in ascending order. -/
def sortedMembers (members : List (String × Value)) : List (String × Value) :=
  members.foldl (fun sorted m => insertMember m.1 m.2 sorted) []

mutual

/-- The value with the members of every object sorted. -/
def Value.sorted : Value → Value
  | .sequence items => .sequence (sortedItems items)
  | .object members => .object (sortedMembers (sortedEach members))
  | v => v

/-- The items with their members sorted. -/
def sortedItems : List Value → List Value
  | [] => []
  | v :: rest => v.sorted :: sortedItems rest

/-- The members with the members below them sorted. -/
def sortedEach : List (String × Value) → List (String × Value)
  | [] => []
  | (key, v) :: rest => (key, v.sorted) :: sortedEach rest

end

end ChassisRegistry.Json
