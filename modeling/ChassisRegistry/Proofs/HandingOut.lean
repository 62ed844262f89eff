import ChassisRegistry.Proofs.PhysicalTree

/-! # Handing out each position once

    The cursor of the binder counts: after `k` calls it stands at the `k`-th
    position of the grid, and from the 256th call on it stays behind the last
    one. Nothing that is done to the tree in between has a part in that. A
    call gives the port that the tree has at the position by then, if any, and
    moves the cursor only; a position that has no port is used up all the
    same. Behind a port there is at most one physical port, the first that was
    put there.

    Main statement: `Chassis.hands_out`. -/

namespace ChassisRegistry.Logical

/-! ## Section 1: A tree in use -/

/-- What may be done to a tree. -/
inductive Deed where
  /-- The next port is asked for. -/
  | take
  | link
  /-- Any other contents are put into the tree, of whatever shape. Every edit is one of these
      (`Chassis.edit_eq_rework`). -/
  | rework (site : Site) (rack shelf : UInt32) (slots : List Slot)
  /-- A physical port is put behind the port at a position. -/
  | bind (slotIndex portIndex : Nat) (target : DevicePort)

/-- Is the next port asked for? -/
def Deed.isTake : Deed → Bool
  | take => true
  | link | rework .. | bind .. => false

/-- Do the ports of the tree stay where they are? -/
def Deed.leavesPorts : Deed → Bool
  | rework .. => false
  | take | link | bind .. => true

namespace Chassis

/-- The tree after a deed. What is refused changes nothing. -/
def after (c : Chassis) : Deed → Chassis
  | .take => c.takeNext.2
  | .link => c.linked
  | .rework site rack shelf slots => { c with site, rack, shelf, slots }
  | .bind i j target =>
      match c.bindAt i j target with
      | .ok bound => bound
      | .error _ => c

/-- The tree after one deed after the other. -/
def run (c : Chassis) (deeds : List Deed) : Chassis := deeds.foldl after c

/-- Any edit of a tree puts other contents into it. -/
theorem edit_eq_rework (c : Chassis) (e : Edit) :
    c.edit e =
      c.after (.rework (c.edit e).site (c.edit e).rack (c.edit e).shelf (c.edit e).slots) := by
  cases e <;> rfl

/-! ## Section 2: The cursor -/

variable {c : Chassis} {i j k : Nat} {target : DevicePort}

/-- A call before the last position is used up gives what is at the position, and moves on. -/
theorem takeNext_of_lt (h : k < portCapacity) (hcursor : c.cursor = .after k) :
    c.takeNext =
      (match c.portAt? (k / 16) (k % 16) with
        | some p => .ok p
        | none => .error (.internal (.cursorOutside (k / 16) (k % 16))),
      { c with cursor := .after (k + 1) }) := by
  have hfree : ¬ c.cursor.exhausted = true := by
    rw [hcursor, Cursor.exhausted_after]
    omega
  have hslot : c.cursor.slot = k / 16 := by rw [hcursor]; rfl
  have hport : c.cursor.port = k % 16 := by rw [hcursor]; rfl
  have hnext : c.cursor.next = .after (k + 1) := by rw [hcursor, Cursor.next_after h]
  rw [takeNext, if_neg hfree, hslot, hport, hnext]
  cases c.portAt? (k / 16) (k % 16) <;> rfl

theorem cursor_bindAt {c' : Chassis} (h : c.bindAt i j target = .ok c') : c'.cursor = c.cursor := by
  unfold bindAt at h
  split at h
  · cases h
    rfl
  · split at h
    · cases h
    · cases h
      rfl

/-- A call takes the cursor one position on, up to the end; nothing else moves it. -/
theorem cursor_after (hcursor : c.cursor = .after (min k portCapacity)) (deed : Deed) :
    (c.after deed).cursor = .after (min (k + [deed].countP Deed.isTake) portCapacity) := by
  cases deed with
  | take =>
    show c.takeNext.2.cursor = .after (min (k + 1) portCapacity)
    by_cases hk : k < portCapacity
    · have hnow : c.cursor = .after k := by rw [hcursor, Nat.min_eq_left (by omega)]
      rw [takeNext_of_lt hk hnow, Nat.min_eq_left (by omega)]
    · rw [takeNext_of_exhausted (n := min k portCapacity) (by omega) hcursor, hcursor]
      congr 1
      omega
  | link => exact hcursor
  | rework site rack shelf slots => exact hcursor
  | bind i j target =>
    rw [after]
    split
    · next bound hbind =>
      rw [cursor_bindAt hbind]
      exact hcursor
    · exact hcursor

/-- After a run the cursor tells how many calls there were. -/
theorem cursor_run (hcursor : c.cursor = .after (min k portCapacity)) (deeds : List Deed) :
    (c.run deeds).cursor = .after (min (k + deeds.countP Deed.isTake) portCapacity) := by
  -- On the deeds, from any count: the first one adds to it what it does itself.
  induction deeds generalizing c k with
  | nil => exact hcursor
  | cons deed rest ih =>
    rw [run, List.foldl_cons, ← run, ih (cursor_after hcursor deed), Nat.add_assoc,
      ← List.countP_append, List.singleton_append]

/-! ## Section 3: Binding -/

theorem portAt?_modifyPort (c : Chassis) (i j : Nat) (f : Port → Port) (m n : Nat) :
    (c.modifyPort i j f).portAt? m n =
      if m = i ∧ n = j then (c.portAt? m n).map f else c.portAt? m n := by
  rw [portAt?, modifyPort_slots, Physical.Chassis.bind_modify, portAt?]
  cases c.slots[m]? with
  | none => simp
  | some s =>
    by_cases hi : i = m
    · subst hi
      by_cases hj : j = n
      · simp [hj]
      · simp [hj, Ne.symm hj]
    · simp [hi, Ne.symm hi]

theorem exists_portAt?_linked (c : Chassis) (i j : Nat) :
    ∃ slot, c.linked.portAt? i j = (c.portAt? i j).map (Port.linked slot) := by
  cases hs : c.slots[i]? with
  | none => exact ⟨0, by simp [portAt?, linked, hs]⟩
  | some s => exact ⟨s.number, by simp [portAt?, linked, Slot.linked, hs]⟩

/-- Behind a port with nothing behind it there is what was put there. -/
theorem exists_bindAt_of_free {p : Port} (hport : c.portAt? i j = some p)
    (hfree : p.bound = none) (target : DevicePort) :
    ∃ c', c.bindAt i j target = .ok c' ∧
      c'.portAt? i j = some { p with bound := some target } ∧
      ∀ m n, (m, n) ≠ (i, j) → c'.portAt? m n = c.portAt? m n := by
  refine ⟨c.modifyPort i j fun _ => { p with bound := some target }, ?_, ?_, ?_⟩
  · simp only [bindAt, hport, Port.bind, hfree]
  · rw [portAt?_modifyPort, if_pos ⟨rfl, rfl⟩, hport, Option.map_some]
  · intro m n hne
    rw [portAt?_modifyPort, if_neg]
    rintro ⟨rfl, rfl⟩
    exact hne rfl

/-- A port that has a physical port behind it takes no other. -/
theorem bindAt_of_bound {p : Port} {existing : DevicePort} (hport : c.portAt? i j = some p)
    (hbound : p.bound = some existing) (target : DevicePort) :
    c.bindAt i j target =
      .error (.internal (.boundTwice p.number p.slot existing target)) := by
  simp only [bindAt, hport, Port.bind, hbound]

/-- A physical port is behind the port at a position. -/
def Bound (c : Chassis) (i j : Nat) (existing : DevicePort) : Prop :=
  ∃ p, c.portAt? i j = some p ∧ p.bound = some existing

theorem Bound.after {existing : DevicePort} (h : c.Bound i j existing) {deed : Deed}
    (hleaves : deed.leavesPorts = true) : (c.after deed).Bound i j existing := by
  obtain ⟨p, hport, hbound⟩ := h
  cases deed with
  | take =>
    refine ⟨p, ?_, hbound⟩
    -- A call changes the cursor at most, and the ports are looked up without it.
    show c.takeNext.2.portAt? i j = some p
    rw [takeNext]
    split
    · exact hport
    · split <;> exact hport
  | link =>
    obtain ⟨slot, hlinked⟩ := c.exists_portAt?_linked i j
    exact ⟨p.linked slot, by rw [Chassis.after, hlinked, hport, Option.map_some], hbound⟩
  | rework site rack shelf slots => cases hleaves
  | bind m n target =>
    rw [Chassis.after]
    by_cases hsame : (i, j) = (m, n)
    · obtain ⟨rfl, rfl⟩ := Prod.mk.inj hsame
      rw [bindAt_of_bound hport hbound]
      exact ⟨p, hport, hbound⟩
    · cases hother : c.portAt? m n with
      | none =>
        simp only [bindAt, hother]
        exact ⟨p, hport, hbound⟩
      | some q =>
        cases hq : q.bound with
        | some existing' =>
          rw [bindAt_of_bound hother hq]
          exact ⟨p, hport, hbound⟩
        | none =>
          obtain ⟨c', hbind, _, helsewhere⟩ := exists_bindAt_of_free hother hq target
          rw [hbind]
          exact ⟨p, by rw [helsewhere i j hsame, hport], hbound⟩

/-- What is behind a port stays there as long as the port stays where it is. -/
theorem Bound.run {existing : DevicePort} (h : c.Bound i j existing) {deeds : List Deed}
    (hleave : ∀ deed ∈ deeds, deed.leavesPorts = true) : (c.run deeds).Bound i j existing := by
  induction deeds generalizing c with
  | nil => exact h
  | cons deed rest ih =>
    rw [Chassis.run, List.foldl_cons, ← Chassis.run]
    exact ih (h.after (hleave deed List.mem_cons_self))
      fun later hlater => hleave later (List.mem_cons_of_mem deed hlater)

/-! ## Section 4: Every call of every run -/

/-- The binder of a tree after `k` calls. -/
structure HandsOut (c : Chassis) (k : Nat) : Prop where
  /-- The next call gives the port that is at its position now. -/
  given     : k < 256 → ∀ p, c.portAt? (k / 16) (k % 16) = some p → c.takeNext.1 = .ok p
  /-- The position may be one that the tree does not have now. -/
  missing   : k < 256 → c.portAt? (k / 16) (k % 16) = none →
    c.takeNext.1 = .error (.internal (.cursorOutside (k / 16) (k % 16)))
  /-- Behind the last position every call is refused. -/
  exhausted : 256 ≤ k → c.takeNext.1 = .error (.exhausted c.site 1 0)
  /-- A call changes nothing but the cursor. -/
  untouched : c.takeNext.2 = { c with cursor := c.takeNext.2.cursor }
  /-- What remains is counted down to zero, and never below. -/
  remaining : c.remaining = 256 - min k 256
  counted   : c.cursor.taken = min k 256
  /-- A port with nothing behind it is bound, and no other port is. -/
  binds     : ∀ i j p target, c.portAt? i j = some p → p.bound = none →
    ∃ c', c.bindAt i j target = .ok c' ∧
      c'.portAt? i j = some { p with bound := some target } ∧
      ∀ m n, (m, n) ≠ (i, j) → c'.portAt? m n = c.portAt? m n
  /-- A port is bound once. -/
  refuses   : ∀ i j p existing target, c.portAt? i j = some p → p.bound = some existing →
    c.bindAt i j target = .error (.internal (.boundTwice p.number p.slot existing target))
  /-- The first binding of a port stays, whatever else is asked for. -/
  stays     : ∀ i j p existing later, c.portAt? i j = some p → p.bound = some existing →
    (∀ deed ∈ later, Deed.leavesPorts deed = true) →
    ∃ p', (c.run later).portAt? i j = some p' ∧ p'.bound = some existing

/-- The cursor decides what a call does. -/
theorem handsOut_of_cursor (hcursor : c.cursor = .after (min k portCapacity)) : c.HandsOut k := by
  have hcounted : c.cursor.taken = min k 256 := by
    rw [hcursor, Cursor.taken_after (Nat.min_le_right k portCapacity)]
    rfl
  have hnow : k < 256 → c.cursor = .after k := by
    intro hk
    rw [hcursor, Nat.min_eq_left (show k ≤ portCapacity from Nat.le_of_lt hk)]
  have hspent : 256 ≤ k → c.takeNext = (.error (.exhausted c.site 1 0), c) := by
    intro hk
    exact takeNext_of_exhausted (Nat.le_min.mpr ⟨hk, Nat.le_refl _⟩) hcursor
  refine {
    given     := ?_
    missing   := ?_
    exhausted := fun hk => by rw [hspent hk]
    untouched := ?_
    remaining := by rw [Chassis.remaining, hcounted]; rfl
    counted   := hcounted
    binds     := fun i j p target hport hfree => exists_bindAt_of_free hport hfree target
    refuses   := fun i j p existing target hport hbound => bindAt_of_bound hport hbound target
    stays     := fun i j p existing later hport hbound hleave =>
      Bound.run ⟨p, hport, hbound⟩ hleave }
  · intro hk p hport
    rw [takeNext_of_lt hk (hnow hk), hport]
  · intro hk hport
    rw [takeNext_of_lt hk (hnow hk), hport]
  · by_cases hk : k < 256
    · rw [takeNext_of_lt hk (hnow hk)]
    · rw [hspent (Nat.le_of_not_lt hk)]

/-- **Handing out**: whatever is done to a tree of any shape whose cursor was at the start, the
    calls of the binder go through the positions of the grid, each once and in order. -/
theorem hands_out (hstart : c.cursor = .start) (deeds : List Deed) :
    (c.run deeds).HandsOut (deeds.countP Deed.isTake) := by
  have hcursor := cursor_run (k := 0) hstart deeds
  rw [Nat.zero_add] at hcursor
  exact handsOut_of_cursor hcursor

/-- A tree of one slot with one port. -/
def onePort : Chassis where
  site   := ⟨"kiosk", by decide +kernel, by decide⟩
  rack   := 1
  shelf  := 2
  slots  := [⟨1, [⟨1, [], none, none⟩], none⟩]
  cursor := .start

/-- The only port is given and bound; the next call finds none, and the one after that finds the
    port that was put into the tree at its position. -/
theorem hands_out_onePort :
    onePort.cursor = .start ∧
      (onePort.run [.take, .bind 0 0 ⟨1, 1⟩, .link]).HandsOut 1 ∧
      (onePort.run [.take, .bind 0 0 ⟨1, 1⟩, .link]).takeNext.1 =
        .error (.internal (.cursorOutside 0 1)) ∧
      (onePort.run [.take, .take, .rework onePort.site 1 2
        [⟨9, [⟨7, [], none, none⟩, ⟨7, [], none, none⟩, ⟨8, [], none, none⟩], none⟩]]).takeNext.1 =
          .ok ⟨8, [], none, none⟩ :=
  ⟨rfl, hands_out rfl _, rfl, rfl⟩

end Chassis

end ChassisRegistry.Logical
