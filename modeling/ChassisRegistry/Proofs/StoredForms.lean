import ChassisRegistry.Proofs.AddressRoundTrip
import ChassisRegistry.Proofs.Layout
import ChassisRegistry.Snapshot.PhysicalForm

/-! # Stored forms read back

    What is read from the stored form of a tree is the tree without what is
    not stored: the back-references of either half, and the bindings and the
    cursor of the logical one. The numbers in the tree have to fit the 8 bits
    that they are read with. -/

namespace ChassisRegistry

open Json (Value Shape Source lookup natural optional)

/-! ## Section 1: Single values and fields -/

namespace Json

theorem readNat8_natural {n : Nat} (h : n ≤ 255) : readNat8 (natural n) = .ok n := by
  rw [readNat8, natural, readNat, if_pos (by omega)]
  rfl

theorem readUInt32_natural (n : UInt32) : readUInt32 (natural n.toNat) = .ok n := by
  have hn : n.toNat < 4294967296 := n.toNat_lt
  rw [readUInt32, natural, readNat, if_pos (by omega)]
  show Except.ok (UInt32.ofNat n.toNat) = _
  rw [UInt32.ofNat_toNat]

theorem readSite_stored (s : Site) : readSite s.stored = .ok s := by
  show (Site.parse s.text).mapError _ = _
  rw [Site.parse_text]
  rfl

theorem readVlan_stored (v : Vlan) : readVlan v.stored = .ok v := by
  have hnumber : readNat16 v.stored = .ok v.number := by
    have := v.bounded
    rw [readNat16, Vlan.stored, natural, readNat, if_pos (by omega)]
    rfl
  rw [readVlan, hnumber]
  show (Vlan.ofNumber v.number).mapError _ = _
  rw [Vlan.ofNumber_number]
  rfl

theorem readAddress_stored (a : SocketAddress) : readAddress a.stored = .ok a := by
  simp only [readAddress, SocketAddress.stored, SocketAddress.parse?_text]

theorem readDriver_stored (d : CardDriver) : readDriver d.stored = .ok d := by
  simp only [readDriver, CardDriver.stored, chooseDriver, CardDriver.named?_name]

/-- What may be absent is read back, as nothing that is there is written as null. -/
theorem readOptional_optional {α : Type} {read : Value → Except DataError α} {write : α → Value}
    (hread : ∀ x, read (write x) = .ok x) (hnull : ∀ x, write x ≠ .null) (x : Option α) :
    readOptional read (optional write x) = .ok x := by
  cases x with
  | none => rfl
  | some x =>
    show readOptional read (write x) = _
    rw [readOptional]
    · rw [hread]
      rfl
    · exact hnull x

theorem readSequence_map {α : Type} {read : Value → Except DataError α} {write : α → Value}
    {keep : α → α} {xs : List α} (h : ∀ x ∈ xs, read (write x) = .ok (keep x)) :
    readSequence read (.sequence (xs.map write)) = .ok (xs.map keep) := by
  -- The first item that cannot be read would end the sequence; here every item can.
  rw [readSequence]
  induction xs with
  | nil => rfl
  | cons x rest ih =>
    have hx := h x List.mem_cons_self
    have hrest := ih fun y hy => h y (List.mem_cons_of_mem x hy)
    rw [List.map_cons, readItems, hx, hrest]
    rfl

/-! ### Fields of an object -/

section Fields

variable {α : Type} (shape : Shape) (members : List (String × Value))

@[simp] theorem Shape.source_object : shape.source (.object members) = .ok (.members members) := rfl

/-- A field is read when there is one that can be read. -/
@[simp] theorem Shape.read_members (field : String) (reader : Value → Except DataError α) :
    shape.read (.members members) field reader =
      match lookup members field with
      | none => .ok none
      | some v => (reader v).map some := rfl

@[simp] theorem Source.fault_ok (x : α) : Source.fault (.ok x) = none := rfl

/-- Without faults reading goes on. -/
@[simp] theorem Source.settle_none (source : Source) (faults : List (String × Option DataError))
    (h : ∀ f ∈ faults, f.2 = none) : source.settle faults = .ok () := by
  -- Of several faults the first is reported, so reading goes on only when there is none.
  have hnone : (faults.filterMap fun f => f.2.map (f.1, ·)) = [] := by
    rw [List.filterMap_eq_nil_iff]
    intro f hf
    rw [h f hf, Option.map_none]
  rw [Source.settle, Source.firstFault, hnone]

@[simp] theorem Shape.required_some (source : Source) (field : String) (x : α) :
    shape.required source field (.ok (some x)) = .ok x := rfl

@[simp] theorem Shape.complete_members : shape.complete (.members members) = .ok () := rfl

@[simp] theorem map_ok {β : Type} (f : α → β) (x : α) :
    Except.map f (.ok x : Except DataError α) = .ok (f x) := rfl

@[simp] theorem ok_bind {β : Type} (x : α) (f : α → Except DataError β) :
    (Except.ok x >>= f) = f x := rfl

end Fields

end Json

/-! ## Section 2: The logical half -/

namespace Logical

/-- A terminal position without its back-reference. -/
def Terminal.kept (t : Terminal) : Terminal := { t with port := none }

/-- A port without its back-references and its binding. -/
def Port.kept (p : Port) : Port :=
  { p with slot := none, bound := none, terminals := p.terminals.map Terminal.kept }

/-- A slot without its back-references. -/
def Slot.kept (s : Slot) : Slot :=
  { s with chassis := none, ports := s.ports.map Port.kept }

/-- A tree without its back-references, its bindings and its cursor. -/
def Chassis.kept (c : Chassis) : Chassis :=
  { c with slots := c.slots.map Slot.kept, cursor := .start }

/-- The numbers of a port fit 8 bits. -/
def Port.Small (p : Port) : Prop :=
  p.number ≤ 255 ∧ ∀ t ∈ p.terminals, t.number ≤ 255

/-- The numbers of a slot fit 8 bits. -/
def Slot.Small (s : Slot) : Prop :=
  s.number ≤ 255 ∧ ∀ p ∈ s.ports, p.Small

theorem Terminal.ofStored_stored {t : Terminal} (h : t.number ≤ 255) :
    ofStored t.stored = .ok t.kept := by
  simp [ofStored, stored, lookup, Json.readNat8_natural h, Json.readVlan_stored]
  rfl

theorem Port.ofStored_stored {p : Port} (h : p.Small) : ofStored p.stored = .ok p.kept := by
  have hterminals := Json.readSequence_map fun t ht => Terminal.ofStored_stored (h.2 t ht)
  simp [ofStored, stored, lookup, Json.readNat8_natural h.1, hterminals]
  rfl

theorem Slot.ofStored_stored {s : Slot} (h : s.Small) : ofStored s.stored = .ok s.kept := by
  have hports := Json.readSequence_map fun p hp => Port.ofStored_stored (h.2 p hp)
  simp [ofStored, stored, lookup, Json.readNat8_natural h.1, hports]
  rfl

theorem Chassis.ofStored_stored {c : Chassis} (h : ∀ s ∈ c.slots, s.Small) :
    ofStored c.stored = .ok c.kept := by
  have hslots := Json.readSequence_map fun s hs => Slot.ofStored_stored (h s hs)
  simp [ofStored, stored, lookup, Json.readSite_stored, Json.readUInt32_natural, hslots]
  rfl

end Logical

/-! ## Section 3: The physical half -/

namespace Physical

/-- A terminal without its back-reference. -/
def Terminal.kept (t : Terminal) : Terminal := { t with port := none }

/-- A port without its back-references. -/
def Port.kept (p : Port) : Port :=
  { p with card := none, terminals := p.terminals.map Terminal.kept }

/-- A card without its back-references. -/
def Card.kept (c : Card) : Card :=
  { c with chassis := none, ports := c.ports.map Port.kept }

/-- A tree without its back-references. -/
def Chassis.kept (c : Chassis) : Chassis :=
  { c with cards := c.cards.map Card.kept }

/-- The numbers of a port fit 8 bits. -/
def Port.Small (p : Port) : Prop :=
  p.number ≤ 255 ∧ ∀ t ∈ p.terminals, t.number ≤ 255

/-- The numbers of a card fit 8 bits. -/
def Card.Small (c : Card) : Prop :=
  c.number ≤ 255 ∧ ∀ p ∈ c.ports, p.Small

theorem readTag_optional (tag : Option Vlan) :
    Json.readOptional Json.readVlan (optional Vlan.stored tag) = .ok tag := by
  apply Json.readOptional_optional Json.readVlan_stored
  intro v hv
  cases hv

theorem readProfile_optional (profile : Option String) :
    Json.readOptional Json.readText (optional Value.text profile) = .ok profile := by
  apply Json.readOptional_optional
  · intro s
    rfl
  · intro s hs
    cases hs

theorem ofStored_stored_endpoint (e : Endpoint) : Endpoint.ofStored e.stored = .ok e := by
  simp only [Endpoint.ofStored, Endpoint.stored, Shape.source_object, Shape.read_members, lookup,
    String.reduceEq, ↓reduceIte, Json.readAddress_stored, Json.readText, Json.ok_bind, Json.map_ok,
    Source.fault_ok, Source.settle_none, List.mem_cons, List.not_mem_nil, or_false,
    forall_eq_or_imp, forall_eq, and_self, Shape.required_some, Shape.complete_members,
    bind_pure_comp]
  rfl

theorem Terminal.ofStored_stored {t : Terminal} (h : t.number ≤ 255) :
    ofStored t.stored = .ok t.kept := by
  simp [ofStored, stored, lookup, Json.readNat8_natural h, Json.readBoolean, Json.readText,
    readTag_optional, readProfile_optional]
  rfl

theorem Port.ofStored_stored {p : Port} (h : p.Small) : ofStored p.stored = .ok p.kept := by
  have hterminals := Json.readSequence_map fun t ht => Terminal.ofStored_stored (h.2 t ht)
  simp [ofStored, stored, lookup, Json.readNat8_natural h.1, hterminals]
  rfl

theorem Card.ofStored_stored {c : Card} (h : c.Small) : ofStored c.stored = .ok c.kept := by
  have hports := Json.readSequence_map fun p hp => Port.ofStored_stored (h.2 p hp)
  simp [ofStored, stored, lookup, Json.readNat8_natural h.1, Json.readDriver_stored,
    Json.readAddress_stored, Json.readText, hports]
  rfl

theorem Chassis.ofStored_stored {c : Chassis} (h : ∀ card ∈ c.cards, card.Small) :
    ofStored c.stored = .ok c.kept := by
  have hcards := Json.readSequence_map fun card hc => Card.ofStored_stored (h card hc)
  simp [ofStored, stored, lookup, Json.readSite_stored, ofStored_stored_endpoint,
    Json.readUInt32_natural, hcards]
  rfl

end Physical

end ChassisRegistry
