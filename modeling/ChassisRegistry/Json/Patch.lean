import ChassisRegistry.Json.Value

/-! # Editing JSON values

    A patch changes a value at a path of member names and indices: it sets or
    removes what is there, or changes a sequence. A path that leads nowhere
    makes the patch fail. Members of one name are treated as one. -/

namespace ChassisRegistry.Json

/-- A step of a path. -/
inductive PathStep where
  | member (name : String)
  | index (i : Nat)
  deriving DecidableEq

/-- A change at a path. -/
inductive Edit where
  /-- Another value; a member may be new. -/
  | set (value : Value)
  | remove
  | append (value : Value)
  /-- Appends the value at another path. -/
  | copy (source : List PathStep)
  | truncate (length : Nat)
  /-- Removes members of these names from every object of a sequence. -/
  | strip (names : List String)

/-- A change and where it is made. -/
structure Patch where
  path : List PathStep
  edit : Edit

/-- The value at a path. -/
def Value.at? : Value → List PathStep → Option Value
  | v, [] => some v
  | .object members, .member name :: path => (lookup members name).bind (·.at? path)
  | .sequence items, .index i :: path => items[i]?.bind (·.at? path)
  | _, _ :: _ => none

/-- Puts a value in place of all members of a name, or takes them away. -/
def setMember (members : List (String × Value)) (name : String) (value : Option Value) :
    List (String × Value) :=
  members.filter (fun m => m.1 != name) ++ (value.map (name, ·)).toList

/-- Puts a value in place of an item, or takes the item away. -/
def setItem (items : List Value) (i : Nat) : Option Value → List Value
  | some v => items.set i v
  | none => items.eraseIdx i

/-- Changes the value at a path. `f` is given what is there, if anything is, and answers what is
    there then. -/
def changeAt (f : Option Value → Option (Option Value)) :
    List PathStep → Option Value → Option (Option Value)
  | [], v => f v
  | .member name :: path, some (.object members) =>
      (changeAt f path (lookup members name)).map fun v =>
        some (.object (setMember members name v))
  | .index i :: path, some (.sequence items) =>
      match items[i]? with
      | none => none
      | some item =>
          (changeAt f path (some item)).map fun v => some (.sequence (setItem items i v))
  | _ :: _, _ => none

/-- A value without the members of some names. -/
def Value.without (names : List String) : Value → Value
  | .object members => .object (members.filter fun m => !names.contains m.1)
  | v => v

/-- Changes a sequence. -/
def onSequence (f : List Value → List Value) : Option Value → Option (Option Value)
  | some (.sequence items) => some (some (.sequence (f items)))
  | _ => none

/-- What a change makes of the value at its path. `whole` is the value that the path is in. -/
def Edit.apply (whole : Value) : Edit → Option Value → Option (Option Value)
  | .set new, _ => some (some new)
  | .remove, some _ => some none
  | .remove, none => none
  | .append new, v => onSequence (· ++ [new]) v
  | .copy source, v => (whole.at? source).bind fun copied => onSequence (· ++ [copied]) v
  | .truncate length, v => onSequence (·.take length) v
  | .strip names, v => onSequence (·.map (Value.without names)) v

/-- The value with a change made to it. -/
def Value.patch (v : Value) (p : Patch) : Option Value :=
  (changeAt (p.edit.apply v) p.path (some v)).join

/-- The value with several changes made to it, one after the other. -/
def Value.patches (v : Value) (ps : List Patch) : Option Value :=
  ps.foldlM Value.patch v

end ChassisRegistry.Json
