import ChassisRegistry.Json.Patch
import ChassisRegistry.Proofs.SnapshotRoundTrip
import Mathlib.Logic.Relation

/-! # What reading a snapshot does not see

    A snapshot may have been annotated, or written by a program that left out
    what is empty. Members whose name is no field of the structure that an
    object stands for are not looked at, and a field that has a default may be
    absent as well as have it. So an object may be eased in these two ways,
    at any depth and any number of times, and what is read is the same, be it a
    record or an error.

    Only the version is different: an object without one is of the older
    layout, and there a version may not be added.

    Main statement: `Snapshot.lenient`. -/

namespace ChassisRegistry

open Json (Shape Source Value lookup natural)
open Relation (ReflTransGen)

/-! ## Section 1: Easing -/

namespace Json

/-- Which structures a value is made of. -/
inductive Schema where
  /-- No structure stands here. -/
  | plain
  | sequence (item : Schema)
  /-- A structure: the names of its fields, the values that may as well be absent, and what stands
      in each field. -/
  | struct (shape : Shape) (default? : String → Option Value) (inner : String → Schema)

/-- One change to one of the structures in a value. -/
inductive Eased : Schema → Value → Value → Prop where
  /-- A member is added that is no field of the structure. -/
  | add {shape : Shape} {default? : String → Option Value} {inner : String → Schema}
      {before after : List (String × Value)} {name : String} (value : Value)
      (hname : name ∉ shape.fields) :
      Eased (.struct shape default? inner) (.object (before ++ after))
        (.object (before ++ (name, value) :: after))
  /-- A member is left out that has the default of its field. -/
  | leaveOut {shape : Shape} {default? : String → Option Value} {inner : String → Schema}
      {members : List (String × Value)} {name : String} {value : Value}
      (hdefault : default? name = some value) (hfound : lookup members name = some value) :
      Eased (.struct shape default? inner) (.object members)
        (.object (setMember members name none))
  /-- The change is made below a member. -/
  | inMember {shape : Shape} {default? : String → Option Value} {inner : String → Schema}
      {before after : List (String × Value)} {name : String} {v w : Value}
      (hbelow : Eased (inner name) v w) :
      Eased (.struct shape default? inner) (.object (before ++ (name, v) :: after))
        (.object (before ++ (name, w) :: after))
  /-- The structure is given as a sequence of its fields, and the change is made below one. -/
  | inField {shape : Shape} {default? : String → Option Value} {inner : String → Schema}
      {before after : List Value} {name : String} {v w : Value}
      (hname : shape.fields[before.length]? = some name) (hbelow : Eased (inner name) v w) :
      Eased (.struct shape default? inner) (.sequence (before ++ v :: after))
        (.sequence (before ++ w :: after))
  /-- The change is made below an item. -/
  | inItem {item : Schema} {before after : List Value} {v w : Value} (hbelow : Eased item v w) :
      Eased (.sequence item) (.sequence (before ++ v :: after)) (.sequence (before ++ w :: after))

/-- Reading is the same before and after any such change. -/
def Blind {α : Type} (schema : Schema) (read : Value → Except DataError α) : Prop :=
  ∀ v w, Eased schema v w → read w = read v

section

variable {α : Type} {read : Value → Except DataError α}

theorem blind_plain : Blind .plain read := by
  intro v w h
  cases h

theorem Blind.sequence {item : Schema} (h : Blind item read) :
    Blind (.sequence item) (readSequence read) := by
  intro _ _ heased
  cases heased with
  | @inItem _ before after v w hbelow =>
    rw [readSequence, readSequence]
    -- The items before the changed one are read first, and then it does not differ.
    induction before with
    | nil => simp only [List.nil_append, readItems, h v w hbelow]
    | cons first rest ih => simp only [List.cons_append, readItems, ih]

/-! ## Section 2: Fields -/

/-- What becomes of the value of one field. -/
inductive FieldEased (default? : Option Value) (inner : Schema) :
    Option Value → Option Value → Prop where
  | same (x : Option Value) : FieldEased default? inner x x
  | absent {value : Value} (hdefault : default? = some value) :
      FieldEased default? inner (some value) none
  | below {v w : Value} (hbelow : Eased inner v w) : FieldEased default? inner (some v) (some w)

theorem lookup_insert {name field : String} (hne : name ≠ field)
    (before after : List (String × Value)) (value : Value) :
    lookup (before ++ (name, value) :: after) field = lookup (before ++ after) field := by
  rw [lookup_append, lookup_append, lookup_cons_ne hne]

theorem lookup_setMember_none (members : List (String × Value)) (name field : String) :
    lookup (setMember members name none) field =
      if field = name then none else lookup members field := by
  rw [setMember, Option.map_none, Option.toList_none, List.append_nil]
  induction members with
  | nil => simp
  | cons m rest ih =>
    obtain ⟨key, value⟩ := m
    by_cases hkey : key = name
    -- A member of this name is dropped; if it is not the field, the field did not see it anyway.
    · rw [List.filter_cons_of_neg (by simp [hkey]), ih]
      by_cases hfield : field = name
      · rw [if_pos hfield, if_pos hfield]
      · rw [if_neg hfield, if_neg hfield,
          lookup_cons_ne (fun heq => hfield (heq.symm.trans hkey))]
    · rw [List.filter_cons_of_pos (by simp [hkey]), lookup, ih]
      by_cases hfield : field = name
      · simp [hfield, hkey]
      · rw [if_neg hfield, if_neg hfield, lookup]

/-- Fields are looked up in an eased object as they were, but for one that had its default. -/
theorem exists_members_of_eased {shape : Shape} {default? : String → Option Value}
    {inner : String → Schema} {members : List (String × Value)} {w : Value}
    (h : Eased (.struct shape default? inner) (.object members) w) :
    ∃ members', w = .object members' ∧ ∀ field ∈ shape.fields,
      FieldEased (default? field) (inner field) (lookup members field) (lookup members' field) := by
  generalize hv : Value.object members = v at h
  cases h with
  | @add _ _ _ before after name value hname =>
    cases hv
    refine ⟨_, rfl, ?_⟩
    intro field hfield
    have hne : name ≠ field := by
      rintro rfl
      exact hname hfield
    rw [lookup_insert hne]
    exact .same _
  | @leaveOut _ _ _ _ name _ hdefault hfound =>
    cases hv
    refine ⟨_, rfl, ?_⟩
    intro field _
    rw [lookup_setMember_none]
    by_cases hfield : field = name
    · subst hfield
      rw [if_pos rfl, hfound]
      exact .absent hdefault
    · rw [if_neg hfield]
      exact .same _
  | @inMember _ _ _ before after name v w hbelow =>
    cases hv
    refine ⟨_, rfl, ?_⟩
    intro field _
    by_cases hfield : name = field
    · subst hfield
      rw [lookup_append, lookup_append, lookup, lookup]
      -- A later member of the name would hide this one, and with it the change.
      cases lookup after name with
      | some found => exact .same _
      | none =>
        simp only [if_true, Option.some_or]
        exact .below hbelow
    · rw [lookup_insert hfield, lookup_insert hfield]
      exact .same _
  | inField hname hbelow => cases hv

/-- The fields of a structure that is given as a sequence stay where they are. -/
theorem exists_items_of_eased {shape : Shape} {default? : String → Option Value}
    {inner : String → Schema} {items : List Value} {w : Value}
    (h : Eased (.struct shape default? inner) (.sequence items) w) :
    ∃ items', w = .sequence items' ∧ items'.length = items.length ∧ ∀ field ∈ shape.fields,
      FieldEased (default? field) (inner field) (shape.value? (.items items) field)
        (shape.value? (.items items') field) := by
  generalize hv : Value.sequence items = v at h
  cases h with
  | @inField _ _ _ before after name v w hname hbelow =>
    cases hv
    refine ⟨_, rfl, by simp, ?_⟩
    intro field _
    simp only [Shape.value?]
    cases hindex : shape.fields.idxOf? field with
    | none => exact .same _
    | some i =>
      simp only [Option.bind_some]
      by_cases hi : i = before.length
      -- This is the item that was changed, and the field is the one that it stands for.
      · subst hi
        have hfield : shape.fields[before.length]? = some field := by
          obtain ⟨hlt, hat, _⟩ := List.idxOf?_eq_some_iff.mp hindex
          rw [List.getElem?_eq_getElem hlt, hat]
        obtain rfl : name = field := Option.some.inj (hname.symm.trans hfield)
        simp only [List.getElem?_append_right, Nat.le_refl,
          Nat.sub_self, List.getElem?_cons_zero]
        exact .below hbelow
      · have hsame : (before ++ w :: after)[i]? = (before ++ v :: after)[i]? := by
          rw [List.getElem?_append, List.getElem?_append]
          split
          · rfl
          · next hlt =>
            obtain ⟨j, hj⟩ : ∃ j, i - before.length = j + 1 := ⟨i - before.length - 1, by omega⟩
            rw [hj, List.getElem?_cons_succ, List.getElem?_cons_succ]
        rw [hsame]
        exact .same _
  | add value hname => cases hv
  | leaveOut hdefault hfound => cases hv
  | inMember hbelow => cases hv

/-! ## Section 3: Structures -/

/-- Two places to find the fields of a structure differ in what may be eased only. -/
structure Source.Eased (shape : Shape) (default? : String → Option Value)
    (inner : String → Schema) (source source' : Source) : Prop where
  /-- Both are objects, or both are sequences of one length. -/
  form   : (∃ ms ms', source = .members ms ∧ source' = .members ms') ∨
    ∃ vs vs', source = .items vs ∧ source' = .items vs' ∧ vs'.length = vs.length
  fields : ∀ field ∈ shape.fields, FieldEased (default? field) (inner field)
    (shape.value? source field) (shape.value? source' field)

theorem exists_source_of_eased {shape : Shape} {default? : String → Option Value}
    {inner : String → Schema} {v w : Value} (h : Json.Eased (.struct shape default? inner) v w) :
    ∃ source source', shape.source v = .ok source ∧ shape.source w = .ok source' ∧
      Source.Eased shape default? inner source source' := by
  cases v with
  | object members =>
    obtain ⟨members', rfl, hfields⟩ := exists_members_of_eased h
    exact ⟨_, _, rfl, rfl, Or.inl ⟨_, _, rfl, rfl⟩, hfields⟩
  | sequence items =>
    obtain ⟨items', rfl, hlength, hfields⟩ := exists_items_of_eased h
    exact ⟨_, _, rfl, rfl, Or.inr ⟨_, _, rfl, rfl, hlength⟩, hfields⟩
  | null | boolean _ | integer _ | real _ | text _ => cases h

namespace Source.Eased

variable {shape : Shape} {default? : String → Option Value} {inner : String → Schema}
  {source source' : Source}

/-- A field without a default is read alike. -/
theorem read_eq (h : Source.Eased shape default? inner source source') (field : String)
    (hfield : field ∈ shape.fields) (hdefault : default? field = none)
    (hread : Blind (inner field) read) :
    shape.read source' field read = shape.read source field read := by
  have hvalue := h.fields field hfield
  unfold Shape.read
  generalize shape.value? source field = x at hvalue
  generalize shape.value? source' field = y at hvalue
  cases hvalue with
  | same => rfl
  | absent hsome =>
    rw [hdefault] at hsome
    cases hsome
  | below hbelow => simp only [hread _ _ hbelow]

/-- A field with a default is no more or less of a fault, and comes to the same value. -/
theorem fallback_eq (h : Source.Eased shape default? inner source source')
    (read : Value → Except DataError α) (fallback : α) (field : String) {value : Value}
    (hfield : field ∈ shape.fields) (hdefault : default? field = some value)
    (hfallback : read value = .ok fallback) (hread : Blind (inner field) read) :
    Source.fault (shape.read source' field read) = Source.fault (shape.read source field read) ∧
      Shape.orElse (shape.read source' field read) fallback =
        Shape.orElse (shape.read source field read) fallback := by
  have hvalue := h.fields field hfield
  unfold Shape.read
  generalize shape.value? source field = x at hvalue
  generalize shape.value? source' field = y at hvalue
  cases hvalue with
  | same => exact ⟨rfl, rfl⟩
  | absent hsome =>
    obtain rfl := Option.some.inj (hdefault.symm.trans hsome)
    simp only [hfallback]
    exact ⟨rfl, rfl⟩
  | below hbelow =>
    simp only [hread _ _ hbelow]
    exact ⟨trivial, trivial⟩

/-- Which fault counts depends on the form and not on the fields. -/
theorem settle_eq (h : Source.Eased shape default? inner source source')
    (faults : List (String × Option DataError)) :
    source'.settle faults = source.settle faults := by
  obtain ⟨_, _, rfl, rfl⟩ | ⟨_, _, rfl, rfl, _⟩ := h.form <;> rfl

theorem required_eq (h : Source.Eased shape default? inner source source') (name : String)
    (found : Except DataError (Option α)) :
    shape.required source' name found = shape.required source name found := by
  obtain ⟨_, _, rfl, rfl⟩ | ⟨_, _, rfl, rfl, hlength⟩ := h.form
  · rfl
  · simp only [Shape.required, Shape.absent, hlength]

theorem complete_eq (h : Source.Eased shape default? inner source source') :
    shape.complete source' = shape.complete source := by
  obtain ⟨_, _, rfl, rfl⟩ | ⟨_, _, rfl, rfl, hlength⟩ := h.form
  · rfl
  · simp only [Shape.complete, hlength]

end Source.Eased

end

end Json

/-! ## Section 4: The logical half -/

/-- No field may be absent. -/
def Json.noDefault : String → Option Value := fun _ => none

namespace Logical

/-- A stored terminal position. -/
def Terminal.schema : Json.Schema := .struct shape Json.noDefault fun _ => .plain

/-- A stored port. -/
def Port.schema : Json.Schema := .struct shape Json.noDefault fun
  | "terminals" => .sequence Terminal.schema
  | _ => .plain

/-- A stored slot. -/
def Slot.schema : Json.Schema := .struct shape Json.noDefault fun
  | "ports" => .sequence Port.schema
  | _ => .plain

/-- A stored tree. -/
def Chassis.schema : Json.Schema := .struct shape Json.noDefault fun
  | "slots" => .sequence Slot.schema
  | _ => .plain

theorem Terminal.blind : Json.Blind schema ofStored := by
  intro v w heased
  obtain ⟨source, source', hv, hw, h⟩ := Json.exists_source_of_eased heased
  simp only [ofStored, hv, hw, Json.ok_bind, h.settle_eq, h.required_eq, h.complete_eq,
    h.read_eq "number" (by decide) rfl Json.blind_plain,
    h.read_eq "s_vlan" (by decide) rfl Json.blind_plain,
    h.read_eq "c_vlan" (by decide) rfl Json.blind_plain]

theorem Port.blind : Json.Blind schema ofStored := by
  intro v w heased
  obtain ⟨source, source', hv, hw, h⟩ := Json.exists_source_of_eased heased
  simp only [ofStored, hv, hw, Json.ok_bind, h.settle_eq, h.required_eq, h.complete_eq,
    h.read_eq "number" (by decide) rfl Json.blind_plain,
    h.read_eq "terminals" (by decide) rfl Terminal.blind.sequence]

theorem Slot.blind : Json.Blind schema ofStored := by
  intro v w heased
  obtain ⟨source, source', hv, hw, h⟩ := Json.exists_source_of_eased heased
  simp only [ofStored, hv, hw, Json.ok_bind, h.settle_eq, h.required_eq, h.complete_eq,
    h.read_eq "number" (by decide) rfl Json.blind_plain,
    h.read_eq "ports" (by decide) rfl Port.blind.sequence]

theorem Chassis.blind : Json.Blind schema ofStored := by
  intro v w heased
  obtain ⟨source, source', hv, hw, h⟩ := Json.exists_source_of_eased heased
  simp only [ofStored, hv, hw, Json.ok_bind, h.settle_eq, h.required_eq, h.complete_eq,
    h.read_eq "site" (by decide) rfl Json.blind_plain,
    h.read_eq "rack" (by decide) rfl Json.blind_plain,
    h.read_eq "shelf" (by decide) rfl Json.blind_plain,
    h.read_eq "slots" (by decide) rfl Slot.blind.sequence]

end Logical

/-! ## Section 5: The physical half -/

/-- A stored provisioning endpoint. -/
def Endpoint.schema : Json.Schema := .struct shape Json.noDefault fun _ => .plain

theorem Endpoint.blind : Json.Blind schema ofStored := by
  intro v w heased
  obtain ⟨source, source', hv, hw, h⟩ := Json.exists_source_of_eased heased
  simp only [ofStored, hv, hw, Json.ok_bind, h.settle_eq, h.required_eq, h.complete_eq,
    h.read_eq "address" (by decide) rfl Json.blind_plain,
    h.read_eq "user" (by decide) rfl Json.blind_plain,
    h.read_eq "password" (by decide) rfl Json.blind_plain]

namespace Physical

/-- What a terminal holds that was never provisioned. -/
def Terminal.default? : String → Option Value
  | "active" => some (.boolean false)
  | "serial" | "nas_port_id" | "circuit_id" => some (.text "")
  | "s_vlan" | "c_vlan" | "tech_profile" | "speed_profile" => some .null
  | _ => none

/-- A stored terminal. -/
def Terminal.schema : Json.Schema := .struct shape default? fun _ => .plain

/-- A stored port of a line card. -/
def Port.schema : Json.Schema := .struct shape Json.noDefault fun
  | "terminals" => .sequence Terminal.schema
  | _ => .plain

/-- A stored line card. -/
def Card.schema : Json.Schema := .struct shape Json.noDefault fun
  | "ports" => .sequence Port.schema
  | _ => .plain

/-- A chassis has no cards at first. -/
def Chassis.default? : String → Option Value
  | "line_cards" => some (.sequence [])
  | _ => none

/-- A stored tree. -/
def Chassis.schema : Json.Schema := .struct shape default? fun
  | "endpoint" => Endpoint.schema
  | "line_cards" => .sequence Card.schema
  | _ => .plain

theorem Terminal.blind : Json.Blind schema ofStored := by
  intro v w heased
  obtain ⟨source, source', hv, hw, h⟩ := Json.exists_source_of_eased heased
  -- Only the number has to be there; for all else there is a value to fall back to.
  have hflag := h.fallback_eq Json.readBoolean false
  have htext := h.fallback_eq Json.readText ""
  have htag := h.fallback_eq (Json.readOptional Json.readVlan) none
  have hprofile := h.fallback_eq (Json.readOptional Json.readText) none
  have hactive := hflag "active" (by decide) rfl rfl Json.blind_plain
  have hserial := htext "serial" (by decide) rfl rfl Json.blind_plain
  have hservice := htag "s_vlan" (by decide) rfl rfl Json.blind_plain
  have hcustomer := htag "c_vlan" (by decide) rfl rfl Json.blind_plain
  have hnasPort := htext "nas_port_id" (by decide) rfl rfl Json.blind_plain
  have hcircuit := htext "circuit_id" (by decide) rfl rfl Json.blind_plain
  have htech := hprofile "tech_profile" (by decide) rfl rfl Json.blind_plain
  have hspeed := hprofile "speed_profile" (by decide) rfl rfl Json.blind_plain
  simp only [ofStored, hv, hw, Json.ok_bind, h.settle_eq, h.required_eq, h.complete_eq,
    h.read_eq "number" (by decide) rfl Json.blind_plain, hactive, hserial, hservice, hcustomer,
    hnasPort, hcircuit, htech, hspeed]

theorem Port.blind : Json.Blind schema ofStored := by
  intro v w heased
  obtain ⟨source, source', hv, hw, h⟩ := Json.exists_source_of_eased heased
  simp only [ofStored, hv, hw, Json.ok_bind, h.settle_eq, h.required_eq, h.complete_eq,
    h.read_eq "number" (by decide) rfl Json.blind_plain,
    h.read_eq "terminals" (by decide) rfl Terminal.blind.sequence]

theorem Card.blind : Json.Blind schema ofStored := by
  intro v w heased
  obtain ⟨source, source', hv, hw, h⟩ := Json.exists_source_of_eased heased
  simp only [ofStored, hv, hw, Json.ok_bind, h.settle_eq, h.required_eq, h.complete_eq,
    h.read_eq "number" (by decide) rfl Json.blind_plain,
    h.read_eq "driver" (by decide) rfl Json.blind_plain,
    h.read_eq "address" (by decide) rfl Json.blind_plain,
    h.read_eq "hostname" (by decide) rfl Json.blind_plain,
    h.read_eq "ports" (by decide) rfl Port.blind.sequence]

theorem Chassis.blind : Json.Blind schema ofStored := by
  intro v w heased
  obtain ⟨source, source', hv, hw, h⟩ := Json.exists_source_of_eased heased
  have hcards := h.fallback_eq (Json.readSequence Card.ofStored) [] "line_cards" (by decide) rfl rfl
    Card.blind.sequence
  simp only [ofStored, hv, hw, Json.ok_bind, h.settle_eq, h.required_eq, h.complete_eq,
    h.read_eq "site" (by decide) rfl Json.blind_plain,
    h.read_eq "endpoint" (by decide) rfl Endpoint.blind,
    h.read_eq "rack" (by decide) rfl Json.blind_plain,
    h.read_eq "shelf" (by decide) rfl Json.blind_plain, hcards]

end Physical

/-! ## Section 6: Snapshots -/

namespace Snapshot

/-- A snapshot with a version. -/
def shape : Shape := ⟨"Snapshot", ["version", "logical", "physical"]⟩

/-- A stored snapshot with a version. -/
def schema : Json.Schema := .struct shape Json.noDefault fun
  | "logical" => Logical.Chassis.schema
  | "physical" => Physical.Chassis.schema
  | _ => .plain

/-- One change to one of the structures of a snapshot. One without a version stays without. -/
inductive Eased : Value → Value → Prop where
  | versioned {v w : Value} (hversion : v.member? "version" ≠ none)
      (heased : Json.Eased schema v w) : Eased v w
  | older {v w : Value} (hversion : v.member? "version" = none)
      (hversion' : w.member? "version" = none)
      (heased : Json.Eased Physical.Chassis.schema v w) : Eased v w

theorem Eased.inLogical {found l l' p : Value} (h : Json.Eased Logical.Chassis.schema l l') :
    Eased (.object [("version", found), ("logical", l), ("physical", p)])
      (.object [("version", found), ("logical", l'), ("physical", p)]) :=
  .versioned (by simp [Value.member?, lookup])
    (@Json.Eased.inMember shape _ _ [("version", found)] [("physical", p)] "logical" _ _ h)

theorem Eased.inPhysical {found l p p' : Value} (h : Json.Eased Physical.Chassis.schema p p') :
    Eased (.object [("version", found), ("logical", l), ("physical", p)])
      (.object [("version", found), ("logical", l), ("physical", p')]) :=
  .versioned (by simp [Value.member?, lookup])
    (@Json.Eased.inMember shape _ _ [("version", found), ("logical", l)] [] "physical" _ _ h)

theorem toRecord_of_older {v : Value} (h : v.member? "version" = none) :
    toRecord v = ofUnversioned v := by
  cases v with
  | object members =>
    have hlookup : lookup members "version" = none := h
    simp only [toRecord, hlookup]
  | null | boolean _ | integer _ | real _ | text _ | sequence _ => rfl

/-- A half is read alike, and is as absent as it was. -/
theorem mapM_eq {α : Type} {inner : Json.Schema} {read : Value → Except DataError α}
    {x y : Option Value} (h : Json.FieldEased none inner x y) (hread : Json.Blind inner read) :
    y.mapM read = x.mapM read := by
  cases h with
  | same => rfl
  | absent hdefault => cases hdefault
  | below hbelow => rw [Option.mapM_some, Option.mapM_some, hread _ _ hbelow]

/-- What is no structure and has no default is left alone. -/
theorem eq_of_fieldEased {x y : Option Value} (h : Json.FieldEased none .plain x y) : y = x := by
  cases h with
  | same => rfl
  | absent hdefault => cases hdefault
  | below hbelow => cases hbelow

theorem toRecord_eq_of_eased {v w : Value} (h : Eased v w) : toRecord w = toRecord v := by
  cases h with
  | older hversion hversion' heased =>
    rw [toRecord_of_older hversion, toRecord_of_older hversion', ofUnversioned, ofUnversioned,
      Physical.Chassis.blind v w heased]
  | versioned hversion heased =>
    cases v with
    | object members =>
      obtain ⟨members', rfl, hfields⟩ := Json.exists_members_of_eased heased
      have hfound : lookup members' "version" = lookup members "version" :=
        eq_of_fieldEased (hfields "version" (by decide))
      have hhalves : halves members' = halves members := by
        rw [halves, halves,
          mapM_eq (hfields "logical" (by decide)) Logical.Chassis.blind,
          mapM_eq (hfields "physical" (by decide)) Physical.Chassis.blind]
      -- A layout is chosen by the version, and with one the object itself is not read again.
      obtain ⟨version, hsome⟩ := Option.ne_none_iff_exists'.mp hversion
      change lookup members "version" = some version at hsome
      simp only [toRecord, hfound, hhalves, hsome]
    | null | boolean _ | integer _ | real _ | text _ | sequence _ => exact absurd rfl hversion

/-- **Reading is lenient**: a snapshot that was eased, at any places and any number of times, is
    read as the record that it was read as before, or is refused with the same error. So it is with
    the bytes that parse to them. -/
theorem lenient {v w : Value} (h : ReflTransGen Eased v w) :
    toRecord w = toRecord v ∧ ∀ bytes bytes' : ByteArray,
      Json.ofBytes? bytes = some v → Json.ofBytes? bytes' = some w → read bytes' = read bytes := by
  have hrecord : toRecord w = toRecord v := by
    induction h with
    | refl => rfl
    | tail _ hstep ih => exact (toRecord_eq_of_eased hstep).trans ih
  refine ⟨hrecord, ?_⟩
  intro bytes bytes' hv hw
  simp only [read, hv, hw, hrecord]

/-- A record of a site without cards. -/
def cardless : Record :=
  .create ⟨"annex", by decide +kernel, by decide⟩ ⟨.v4 ⟨10, 0, 0, 1⟩ 8080, "olt", "secret"⟩ 1 2

/-- Its snapshot without the line cards, and with a cursor and a remark on the endpoint. -/
def annotated : Value :=
  .object [("version", natural version),
    ("logical", .object [("site", cardless.logical.site.stored),
      ("rack", natural cardless.logical.rack.toNat),
      ("shelf", natural cardless.logical.shelf.toNat),
      ("slots", .sequence (cardless.logical.slots.map Logical.Slot.stored)),
      ("cursor", natural 3)]),
    ("physical", .object [("site", cardless.site.stored),
      ("endpoint", .object [("remark", .text "moved"),
        ("address", cardless.endpoint.address.stored), ("user", .text cardless.endpoint.user),
        ("password", .text cardless.endpoint.password)]),
      ("rack", natural cardless.physical.rack.toNat),
      ("shelf", natural cardless.physical.shelf.toNat)])]

/-- The three changes are made one after the other, and the record is that of the plain snapshot. -/
theorem lenient_annotated :
    ReflTransGen Eased (ofRecord cardless) annotated ∧ toRecord annotated = .ok cardless := by
  have hcursor : Json.Eased Logical.Chassis.schema cardless.logical.stored _ :=
    @Json.Eased.add _ _ _ [_, _, _, _] [] "cursor" (natural 3) (by decide)
  have hcards : Json.Eased Physical.Chassis.schema cardless.physical.stored _ :=
    @Json.Eased.leaveOut _ _ _ _ "line_cards" _ rfl rfl
  have hremark : Json.Eased Endpoint.schema cardless.endpoint.stored _ :=
    @Json.Eased.add _ _ _ [] _ "remark" (.text "moved") (by decide)
  have hsteps : ReflTransGen Eased (ofRecord cardless) annotated :=
    .head (Eased.inLogical hcursor) <| .head (Eased.inPhysical hcards) <|
      .single (Eased.inPhysical (@Json.Eased.inMember _ _ _ [_] _ "endpoint" _ _ hremark))
  have hplain : toRecord (ofRecord cardless) = .ok cardless :=
    (Record.coherent_create _ _ _ _).toRecord_ofRecord
  exact ⟨hsteps, (lenient hsteps).1.trans hplain⟩

end Snapshot

end ChassisRegistry
