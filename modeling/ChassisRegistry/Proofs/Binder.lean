import ChassisRegistry.Record

/-! # The laid out tree and its binder

    A logical tree that is used as intended is determined by its site, its
    rack and shelf, and the physical ports that were handed out so far: the
    port at position `n` of the grid has the `n`-th of them behind it, and the
    cursor stands at their number. `Chassis.laidOut` is that tree.

    Main statements: linking changes nothing in it, unbinding takes it back to
    the tree without bindings, and handing out ports is appending to the list
    until all 256 are used up (`bindEach_laidOut`). -/

namespace ChassisRegistry.Logical

/-! ## Section 1: Positions and the cursor -/

/-- The position of a port in the order in which ports are handed out. -/
def position (c : PortCoordinate) : Nat :=
  c.slotIndex.val * portsPerSlot + c.portIndex.val

theorem position_injective {a b : PortCoordinate} (h : position a = position b) : a = b := by
  obtain ⟨i, j⟩ := a
  obtain ⟨i', j'⟩ := b
  have hj := j.isLt
  have hj' := j'.isLt
  simp only [position, portsPerSlot] at h hj hj'
  have hij : i = i' := Fin.ext (by omega)
  have hjj : j = j' := Fin.ext (by omega)
  rw [hij, hjj]

/-- The coordinates are listed in the order of their positions. -/
theorem map_position_all : PortCoordinate.all.map position = List.range portCapacity := by
  -- Both sides are closed lists of 256 items, and slots are the outer of the two loops.
  decide +kernel

/-- The coordinate of a position. -/
def coordinateAt (n : Nat) (h : n < portCapacity) : PortCoordinate where
  slotIndex := ⟨n / portsPerSlot, Nat.div_lt_of_lt_mul h⟩
  portIndex := ⟨n % portsPerSlot, Nat.mod_lt n (Nat.zero_lt_succ 15)⟩

@[simp] theorem position_coordinateAt (n : Nat) (h : n < portCapacity) :
    position (coordinateAt n h) = n := by
  simp only [position, coordinateAt, portsPerSlot]
  omega

/-- The cursor after `n` ports. -/
def Cursor.after (n : Nat) : Cursor :=
  ⟨n / portsPerSlot, n % portsPerSlot, decide (portCapacity ≤ n)⟩

theorem Cursor.exhausted_after (n : Nat) :
    (Cursor.after n).exhausted = true ↔ portCapacity ≤ n :=
  decide_eq_true_iff

theorem Cursor.eq_after {c : Cursor} {n : Nat} (hslot : c.slot = n / portsPerSlot)
    (hport : c.port = n % portsPerSlot) (hend : c.exhausted = true ↔ portCapacity ≤ n) :
    c = Cursor.after n := by
  obtain ⟨slot, port, exhausted⟩ := c
  subst hslot hport
  have he : exhausted = decide (portCapacity ≤ n) := by
    rw [Bool.eq_iff_iff, decide_eq_true_iff]
    exact hend
  rw [he, Cursor.after]

theorem Cursor.next_after {n : Nat} (h : n < portCapacity) :
    (Cursor.after n).next = Cursor.after (n + 1) := by
  have hfree : ¬ (Cursor.after n).exhausted = true := by
    rw [Cursor.exhausted_after]
    omega
  -- Either the slot goes on, or its last port was handed out and the next slot begins; the end of
  -- the grid can only be reached in the second case.
  unfold Cursor.next
  by_cases hlast : (Cursor.after n).port + 1 = portsPerSlot
  · rw [if_pos hlast]
    simp only [Cursor.after, portCapacity, slotsPerChassis, portsPerSlot] at h hlast
    apply Cursor.eq_after
    · show n / 16 + 1 = (n + 1) / 16
      omega
    · show 0 = (n + 1) % 16
      omega
    · rw [Bool.or_eq_true, beq_iff_eq, or_iff_right hfree]
      show n / 16 + 1 = 16 ↔ 256 ≤ n + 1
      omega
  · rw [if_neg hlast]
    simp only [Cursor.after, portCapacity, slotsPerChassis, portsPerSlot] at h hlast
    apply Cursor.eq_after
    · show n / 16 = (n + 1) / 16
      omega
    · show n % 16 + 1 = (n + 1) % 16
      omega
    · rw [iff_false_left hfree]
      show ¬ 256 ≤ n + 1
      omega

theorem Cursor.taken_after {n : Nat} (h : n ≤ portCapacity) : (Cursor.after n).taken = n := by
  unfold Cursor.taken
  by_cases hend : portCapacity ≤ n
  · rw [if_pos ((Cursor.exhausted_after n).mpr hend)]
    omega
  · rw [if_neg (mt (Cursor.exhausted_after n).mp hend)]
    show n / 16 * 16 + n % 16 = n
    omega

/-! ## Section 2: The tree -/

theorem indexOf_succ (axis : Axis) {limit : Nat} (i : Fin limit) :
    indexOf axis limit (i.val + 1) = .ok i := by
  have hi := i.isLt
  rw [indexOf, dif_pos ⟨by omega, by omega⟩]
  rfl

theorem ofNumbers_self (c : PortCoordinate) :
    PortCoordinate.ofNumbers c.slot c.port = .ok c := by
  simp only [PortCoordinate.ofNumbers, PortCoordinate.slot, PortCoordinate.port, indexOf_succ]
  rfl

/-- The linked port of a coordinate, with a physical port behind it or not. -/
def Port.laidOut (c : PortCoordinate) (bound : Option DevicePort) : Port :=
  { (Port.planned c).linked c.slot with bound }

/-- The linked slot of an index; `bound` tells what is behind its ports. -/
def Slot.laidOut (site : Site) (slotIndex : Fin slotsPerChassis)
    (bound : PortCoordinate → Option DevicePort) : Slot where
  number  := slotIndex.val + 1
  ports   := (List.finRange portsPerSlot).map fun portIndex =>
    .laidOut ⟨slotIndex, portIndex⟩ (bound ⟨slotIndex, portIndex⟩)
  chassis := some site

/-- What is behind a port when these physical ports were handed out. -/
def boundIn (targets : List DevicePort) (c : PortCoordinate) : Option DevicePort :=
  targets[position c]?

/-- The linked tree of a site after these physical ports were handed out. -/
def Chassis.laidOut (site : Site) (rack shelf : UInt32) (targets : List DevicePort) :
    Chassis where
  site   := site
  rack   := rack
  shelf  := shelf
  slots  := (List.finRange slotsPerChassis).map fun i => .laidOut site i (boundIn targets)
  cursor := .after targets.length

variable {site : Site} {rack shelf : UInt32} {targets : List DevicePort}

@[simp] theorem Slot.laidOut_ports (i : Fin slotsPerChassis)
    (bound : PortCoordinate → Option DevicePort) :
    (Slot.laidOut site i bound).ports =
      (List.finRange portsPerSlot).map fun j => .laidOut ⟨i, j⟩ (bound ⟨i, j⟩) := rfl

@[simp] theorem Chassis.laidOut_slots :
    (Chassis.laidOut site rack shelf targets).slots =
      (List.finRange slotsPerChassis).map fun i => .laidOut site i (boundIn targets) := rfl

@[simp] theorem Chassis.laidOut_cursor :
    (Chassis.laidOut site rack shelf targets).cursor = .after targets.length := rfl

@[simp] theorem Chassis.modifyPort_slots (c : Chassis) (i j : Nat) (f : Port → Port) :
    (c.modifyPort i j f).slots = c.slots.modify i fun s => { s with ports := s.ports.modify j f } :=
  rfl

theorem Chassis.planned_eq_laidOut :
    Chassis.planned site rack shelf = .laidOut site rack shelf [] := by
  have hslot : ∀ i, Slot.linked site (.planned i) = .laidOut site i (boundIn []) := by
    intro i
    simp only [Slot.linked, Slot.planned, Slot.laidOut, List.map_map, Slot.mk.injEq, true_and,
      and_true]
    rfl
  simp only [Chassis.planned, Chassis.linked, Chassis.laidOut, List.map_map, Function.comp_def,
    hslot]
  rfl

theorem Port.linked_laidOut (c : PortCoordinate) (b : Option DevicePort) :
    (Port.laidOut c b).linked c.slot = .laidOut c b := by
  simp only [Port.laidOut, Port.linked, List.map_map]
  rfl

theorem Chassis.linked_laidOut :
    (Chassis.laidOut site rack shelf targets).linked = .laidOut site rack shelf targets := by
  have hslot : ∀ i, Slot.linked site (.laidOut site i (boundIn targets)) =
      .laidOut site i (boundIn targets) := by
    intro i
    have hport : ∀ j : Fin portsPerSlot, ((Port.laidOut ⟨i, j⟩ (boundIn targets ⟨i, j⟩)).linked
        (i.val + 1)) = .laidOut ⟨i, j⟩ (boundIn targets ⟨i, j⟩) :=
      fun j => Port.linked_laidOut ⟨i, j⟩ _
    simp only [Slot.linked, Slot.laidOut, List.map_map, Function.comp_def, hport]
  simp only [Chassis.linked, Chassis.laidOut, List.map_map, Function.comp_def, hslot]

/-! ## Section 3: Looking up and binding -/

theorem getElem?_map_finRange {α : Type} {n : Nat} (f : Fin n → α) (i : Fin n) :
    ((List.finRange n).map f)[i.val]? = some (f i) := by
  simp

/-- Changing one item of a list laid out over indices. -/
theorem modify_map_finRange {α : Type} {n : Nat} {f g : Fin n → α} {i : Fin n} {h : α → α}
    (hi : h (f i) = g i) (hne : ∀ j, j ≠ i → f j = g j) :
    ((List.finRange n).map f).modify i.val h = (List.finRange n).map g := by
  apply List.ext_getElem?
  intro k
  -- Index by index: inside the list only `i` may differ, and outside neither list has an item.
  rw [List.getElem?_modify]
  by_cases hk : k < n
  · rw [getElem?_map_finRange f ⟨k, hk⟩, getElem?_map_finRange g ⟨k, hk⟩]
    by_cases hik : i.val = k
    · subst hik
      simp [hi]
    · have hne' : (⟨k, hk⟩ : Fin n) ≠ i := fun heq => hik (congrArg Fin.val heq).symm
      simp [hik, hne _ hne']
  · simp [hk]

@[simp] theorem Chassis.port?_laidOut (c : PortCoordinate) :
    (Chassis.laidOut site rack shelf targets).port? c = some (.laidOut c (boundIn targets c)) := by
  rw [Chassis.port?, Chassis.portAt?, Chassis.laidOut_slots, getElem?_map_finRange,
    Option.bind_some, Slot.laidOut_ports, getElem?_map_finRange]

/-- Changing one port of the tree changes what is behind it. -/
theorem Chassis.modifyPort_laidOut (site : Site) (rack shelf : UInt32) {later : List DevicePort}
    {c : PortCoordinate} (hne : ∀ d, d ≠ c → boundIn targets d = boundIn later d) :
    ((Chassis.laidOut site rack shelf targets).modifyPort c.slotIndex.val c.portIndex.val
      fun _ => .laidOut c (boundIn later c)).slots =
      (Chassis.laidOut site rack shelf later).slots := by
  -- The same lemma twice: for the slot among the slots, then for the port among its ports.
  rw [Chassis.modifyPort_slots, Chassis.laidOut_slots, Chassis.laidOut_slots]
  apply modify_map_finRange
  · simp only [Slot.laidOut, Slot.mk.injEq, true_and, and_true]
    apply modify_map_finRange
    · rfl
    · intro j hj
      rw [hne _ (fun heq => hj (congrArg PortCoordinate.portIndex heq))]
  · intro i hi
    have hport : ∀ j : Fin portsPerSlot, boundIn targets ⟨i, j⟩ = boundIn later ⟨i, j⟩ :=
      fun j => hne _ (fun heq => hi (congrArg PortCoordinate.slotIndex heq))
    simp only [Slot.laidOut, hport]

/-- A call moves the cursor past the port that it gives, whatever the tree. -/
theorem Chassis.takeNext_of_port {c : Chassis} {n : Nat} {p : Port} (h : n < portCapacity)
    (hcursor : c.cursor = .after n) (hport : c.port? (coordinateAt n h) = some p) :
    c.takeNext = (.ok p, { c with cursor := .after (n + 1) }) := by
  have hfree : ¬ c.cursor.exhausted = true := by
    rw [hcursor, Cursor.exhausted_after]
    omega
  have hat : c.portAt? c.cursor.slot c.cursor.port = some p := by
    rw [hcursor]
    exact hport
  rw [Chassis.takeNext, if_neg hfree, hat, hcursor, Cursor.next_after h]

theorem Chassis.takeNext_of_exhausted {c : Chassis} {n : Nat} (h : portCapacity ≤ n)
    (hcursor : c.cursor = .after n) : c.takeNext = (.error (.exhausted c.site 1 0), c) := by
  rw [Chassis.takeNext, hcursor, if_pos ((Cursor.exhausted_after n).mpr h)]

/-- A free port takes what is put behind it. -/
theorem Chassis.bindAt_of_free {c : Chassis} {here : PortCoordinate} {p : Port}
    (hport : c.port? here = some p) (hfree : p.bound = none) (target : DevicePort) :
    c.bindAt here.slotIndex.val here.portIndex.val target =
      .ok (c.modifyPort here.slotIndex.val here.portIndex.val
        fun _ => { p with bound := some target }) := by
  have hat : c.portAt? here.slotIndex.val here.portIndex.val = some p := hport
  simp only [Chassis.bindAt, hat, Port.bind, hfree]

/-! ## Section 4: Handing out ports -/

/-- Binding the next port of any tree that has a free port under its cursor. -/
theorem Chassis.bindNext_of_free {c : Chassis} {n : Nat} {p : Port} {target : DevicePort}
    (h : n < portCapacity) (hcursor : c.cursor = .after n)
    (hport : c.port? (coordinateAt n h) = some p) (hfree : p.bound = none) :
    c.bindNext target = (.ok p,
      { c.modifyPort (coordinateAt n h).slotIndex.val (coordinateAt n h).portIndex.val
          fun _ => { p with bound := some target } with cursor := .after (n + 1) }) := by
  have htake := Chassis.takeNext_of_port h hcursor hport
  -- The port is taken before it is bound, so it is looked up in a tree whose cursor has moved on.
  have hmoved : Chassis.port? { c with cursor := .after (n + 1) } (coordinateAt n h) = some p :=
    hport
  have hbind := Chassis.bindAt_of_free hmoved hfree target
  have hat : (Cursor.after n).slot = (coordinateAt n h).slotIndex.val ∧
      (Cursor.after n).port = (coordinateAt n h).portIndex.val := ⟨rfl, rfl⟩
  rw [Chassis.bindNext, htake, hcursor, hat.1, hat.2]
  simp only [hbind]
  rfl

theorem boundIn_of_position {c : PortCoordinate} {n : Nat} (h : position c = n) :
    boundIn targets c = targets[n]? := by
  rw [boundIn, h]

theorem boundIn_concat_of_ne {c : PortCoordinate} (target : DevicePort)
    (h : position c ≠ targets.length) :
    boundIn targets c = boundIn (targets ++ [target]) c := by
  simp only [boundIn, List.getElem?_append]
  split
  · rfl
  -- Past the end of `targets`, and not at the one place where the longer list has more.
  · next hlt => rw [List.getElem?_eq_none (by omega), List.getElem?_eq_none (by simp; omega)]

/-- Binding the next port of the laid out tree appends to what was handed out. -/
theorem Chassis.bindNext_laidOut (site : Site) (rack shelf : UInt32) {targets : List DevicePort}
    (target : DevicePort) (h : targets.length < portCapacity) :
    ∃ p, (Chassis.laidOut site rack shelf targets).bindNext target =
      (.ok p, .laidOut site rack shelf (targets ++ [target])) := by
  have hpos : position (coordinateAt targets.length h) = targets.length :=
    position_coordinateAt _ h
  have hfree : boundIn targets (coordinateAt targets.length h) = none := by
    simp [boundIn_of_position hpos]
  have hbound : boundIn (targets ++ [target]) (coordinateAt targets.length h) = some target := by
    simp [boundIn_of_position hpos]
  -- Every other port keeps what is behind it, as its position is not that of the new one.
  have hne : ∀ d, d ≠ coordinateAt targets.length h →
      boundIn targets d = boundIn (targets ++ [target]) d :=
    fun d hd => boundIn_concat_of_ne target fun heq => hd (position_injective (heq.trans hpos.symm))
  have hslots := Chassis.modifyPort_laidOut site rack shelf hne
  rw [hbound] at hslots
  refine ⟨.laidOut (coordinateAt targets.length h) none, ?_⟩
  rw [Chassis.bindNext_of_free h rfl (Chassis.port?_laidOut _) hfree, hfree]
  rw [Prod.mk.injEq, Chassis.mk.injEq]
  exact ⟨rfl, rfl, rfl, rfl, hslots, by simp⟩

/-- Handing out the next ports appends them, as long as there are ports left. -/
theorem Chassis.bindEach_laidOut (more : List DevicePort)
    (h : targets.length + more.length ≤ portCapacity) :
    (Chassis.laidOut site rack shelf targets).bindEach more =
      (.ok (), .laidOut site rack shelf (targets ++ more)) := by
  -- On the ports to come: one call turns the laid out tree of `targets` into that of `targets` and
  -- one more, so the list that was handed out grows while this one shrinks.
  induction more generalizing targets with
  | nil => simp [Chassis.bindEach]
  | cons target rest ih =>
    rw [List.length_cons] at h
    obtain ⟨p, hnext⟩ := Chassis.bindNext_laidOut site rack shelf target
      (show targets.length < portCapacity by omega)
    have hrest := @ih (targets ++ [target]) (by simp; omega)
    rw [Chassis.bindEach, hnext]
    simpa using hrest

/-- With fewer ports left than asked for, all are handed out and the next call is refused. -/
theorem Chassis.bindEach_laidOut_of_lt (site : Site) (rack shelf : UInt32)
    {targets : List DevicePort} (more : List DevicePort)
    (hle : targets.length ≤ portCapacity) (h : portCapacity < targets.length + more.length) :
    (Chassis.laidOut site rack shelf targets).bindEach more =
      (.error (.exhausted site 1 0),
        .laidOut site rack shelf (targets ++ more.take (portCapacity - targets.length))) := by
  induction more generalizing targets with
  | nil => simp at h; omega
  | cons target rest ih =>
    rw [List.length_cons] at h
    by_cases hfull : portCapacity ≤ targets.length
    · have hzero : portCapacity - targets.length = 0 := by omega
      have htake : (Chassis.laidOut site rack shelf targets).takeNext =
          (.error (.exhausted site 1 0), .laidOut site rack shelf targets) :=
        Chassis.takeNext_of_exhausted hfull rfl
      -- Nothing is left: the first call is refused and the rest are not made.
      rw [Chassis.bindEach, Chassis.bindNext, htake, hzero]
      simp
    · obtain ⟨p, hnext⟩ := Chassis.bindNext_laidOut site rack shelf target
        (show targets.length < portCapacity by omega)
      have hrest := @ih (targets ++ [target]) (by simp; omega) (by simp; omega)
      have htake : portCapacity - targets.length =
          (portCapacity - (targets ++ [target]).length) + 1 := by simp; omega
      rw [Chassis.bindEach, hnext, htake, List.take_succ_cons]
      simpa using hrest

theorem Chassis.remaining_laidOut (h : targets.length ≤ portCapacity) :
    (Chassis.laidOut site rack shelf targets).remaining = portCapacity - targets.length := by
  rw [Chassis.remaining, Chassis.laidOut_cursor, Cursor.taken_after h]

end ChassisRegistry.Logical
