import ChassisRegistry.Physical.Edit
import ChassisRegistry.Proofs.Layout
import Mathlib.Data.List.Nodup

/-! # Terminals in a physical tree

    A terminal is read and written at the same place: `terminal?` and
    `modifyTerminal` find one for the same addresses, and what was written at
    one address is read there and nowhere else. Writing the values of a
    terminal leaves numbers, sizes, back-references and the list of ports as
    they were, and in a numbered tree every listed port has its terminals. -/

namespace ChassisRegistry

/-! ## Section 1: Changing one item of a list -/

variable {α β : Type}

theorem map_modify_of_eq {f : α → α} {g : α → β} (h : ∀ x, g (f x) = g x) (i : Nat)
    (xs : List α) : (xs.modify i f).map g = xs.map g := by
  apply List.ext_getElem?
  intro k
  rw [List.getElem?_map, List.getElem?_map, List.getElem?_modify]
  by_cases hik : i = k
  · simp [hik, Function.comp_def, h]
  · simp [hik]

theorem map_modify_of_fixed {f g : α → α} (h : ∀ x, g x = x → g (f x) = f x) (i : Nat)
    {xs : List α} (hxs : xs.map g = xs) : (xs.modify i f).map g = xs.modify i f := by
  apply List.ext_getElem?
  intro k
  have hk : xs[k]?.map g = xs[k]? := by rw [← List.getElem?_map, hxs]
  rw [List.getElem?_map, List.getElem?_modify]
  cases hx : xs[k]? with
  | none => simp
  | some x =>
    rw [hx] at hk
    have hfix : g x = x := Option.some.inj hk
    by_cases hik : i = k
    · simp [hik, h x hfix]
    · simp [hik, hfix]

theorem forall_modify {f : α → α} {P : Nat → α → Prop} (h : ∀ k x, P k x → P k (f x)) (i : Nat)
    {xs : List α} (hxs : ∀ k x, xs[k]? = some x → P k x) :
    ∀ k x, (xs.modify i f)[k]? = some x → P k x := by
  intro k x hx
  rw [List.getElem?_modify] at hx
  obtain ⟨y, hy, rfl⟩ := Option.map_eq_some_iff.mp hx
  by_cases hik : i = k
  · simpa [hik] using h k y (hxs k y hy)
  · simpa [hik] using hxs k y hy

theorem modify_congr {f g : α → α} {i : Nat} {x : α} {xs : List α} (hx : xs[i]? = some x)
    (hfg : f x = g x) : xs.modify i f = xs.modify i g := by
  apply List.ext_getElem?
  intro k
  rw [List.getElem?_modify, List.getElem?_modify]
  by_cases hik : i = k
  · subst hik
    simp [hx, hfg]
  · simp [hik]

/-- Putting in place of an item what it changes to. -/
theorem set_eq_modify {f : α → α} {i : Nat} {x y : α} {xs : List α} (hx : xs[i]? = some x)
    (hy : f x = y) : xs.set i y = xs.modify i f := by
  apply List.ext_getElem?
  intro k
  rw [List.getElem?_set, List.getElem?_modify]
  by_cases hik : i = k
  · subst hik
    obtain ⟨hi, rfl⟩ := List.getElem?_eq_some_iff.mp hx
    simp [hi, hy]
  · simp [hik]

/-- Numbers count from 1. -/
theorem numbered?_eq_some_iff {xs : List α} {number : Nat} {x : α} :
    numbered? xs number = some x ↔ ∃ i, number = i + 1 ∧ xs[i]? = some x := by
  cases number with
  | zero => simp
  | succ i => simp

/-- The cards of every family have as many ports as a slot. -/
theorem CardDriver.portCount_eq (driver : CardDriver) : driver.portCount = portsPerSlot := by
  cases driver <;> rfl

namespace Physical

/-! ## Section 2: Reading what was written -/

namespace Chassis

/-- A terminal that is found lies in a port of a card, each found by its index. -/
theorem exists_of_terminal? {c : Chassis} {here : DevicePort} {k : Nat} {t : Terminal}
    (ht : c.terminal? here k = some t) :
    ∃ i j card port, here = ⟨i + 1, j + 1⟩ ∧ c.cards[i]? = some card ∧
      card.ports[j]? = some port ∧ port.terminals[k]? = some t := by
  rw [terminal?, Option.bind_eq_some_iff] at ht
  obtain ⟨port, hpath, hterminal⟩ := ht
  obtain ⟨card, hcard, hport⟩ := Option.bind_eq_some_iff.mp hpath
  obtain ⟨i, hi, hcard⟩ := numbered?_eq_some_iff.mp hcard
  obtain ⟨j, hj, hport⟩ := numbered?_eq_some_iff.mp hport
  exact ⟨i, j, card, port, by rw [← hi, ← hj], hcard, hport, hterminal⟩

/-- Where there is nothing to read, there is nothing to write. -/
theorem exists_of_modifyTerminal {c c' : Chassis} {here : DevicePort} {k : Nat}
    {f : Terminal → Terminal} (h : c.modifyTerminal here k f = some c') :
    ∃ t, c.terminal? here k = some t := by
  unfold modifyTerminal at h
  split at h
  -- The way down is card, port, terminal here as it is for reading.
  · next i j hi hj =>
    obtain ⟨card, hcard, h⟩ := Option.bind_eq_some_iff.mp h
    obtain ⟨port, hport, h⟩ := Option.bind_eq_some_iff.mp h
    obtain ⟨t, hterminal, _⟩ := Option.bind_eq_some_iff.mp h
    refine ⟨t, ?_⟩
    rw [terminal?, card?, hi, numbered?_succ, hcard, Option.bind_some, Card.port?, hj,
      numbered?_succ, hport, Option.bind_some, hterminal]
  · cases h

/-- Writing finds a terminal wherever reading does, and changes it at its place. -/
theorem modifyTerminal_of_terminal? {c : Chassis} {here : DevicePort} {k : Nat} {t : Terminal}
    (ht : c.terminal? here k = some t) (f : Terminal → Terminal) :
    c.modifyTerminal here k f =
      some (c.changeTerminal (here.card - 1) (here.port - 1) k f) := by
  obtain ⟨i, j, card, port, rfl, hcard, hport, hterminal⟩ := exists_of_terminal? ht
  -- Putting a changed item back is changing it in the list, level by level from the terminal up.
  have hterminals : port.terminals.set k (f t) = port.terminals.modify k f :=
    set_eq_modify hterminal rfl
  have hports : card.ports.set j { port with terminals := port.terminals.modify k f } =
      card.ports.modify j fun p => { p with terminals := p.terminals.modify k f } :=
    set_eq_modify hport rfl
  have hcards : c.cards.set i { card with
        ports := card.ports.modify j fun p => { p with terminals := p.terminals.modify k f } } =
      (c.changeTerminal i j k f).cards :=
    set_eq_modify hcard rfl
  simp only [modifyTerminal, hcard, hport, hterminal, Option.bind_eq_bind, Option.bind_some,
    hterminals, hports, hcards]
  rfl

/-- The tree with a change made at a place, whether or not there is a terminal. -/
theorem modifyTerminal_eq_some {c c' : Chassis} {here : DevicePort} {k : Nat}
    {f : Terminal → Terminal} (h : c.modifyTerminal here k f = some c') :
    (∃ t, c.terminal? here k = some t) ∧
      c' = c.changeTerminal (here.card - 1) (here.port - 1) k f := by
  obtain ⟨t, ht⟩ := exists_of_modifyTerminal h
  rw [modifyTerminal_of_terminal? ht] at h
  exact ⟨⟨t, ht⟩, (Option.some.inj h).symm⟩

/-- Below a changed item another item is found than before only at that item. -/
theorem bind_modify (f : α → α) (g : α → Option β) (i k : Nat) (xs : List α) :
    (xs.modify i f)[k]?.bind g = xs[k]?.bind fun x => if i = k then g (f x) else g x := by
  rw [List.getElem?_modify]
  cases xs[k]? with
  | none => rfl
  | some x =>
    by_cases hik : i = k
    · simp [hik]
    · simp [hik]

/-- What was written at a place is read there, and nothing else is read anywhere else. -/
theorem terminal?_changeTerminal (c : Chassis) (i j k : Nat) (f : Terminal → Terminal)
    (there : DevicePort) (l : Nat) :
    (c.changeTerminal i j k f).terminal? there l =
      if there = ⟨i + 1, j + 1⟩ ∧ l = k then (c.terminal? there l).map f
      else c.terminal? there l := by
  -- No card and no port has the number 0, where both sides find nothing. For other numbers the way
  -- down is card, port, terminal, and each level asks whether this is the item that was changed.
  obtain ⟨m, n⟩ := there
  cases m with
  | zero => simp [terminal?, card?]
  | succ m =>
    cases n with
    | zero =>
      simp only [terminal?, Card.port?, numbered?_zero, Option.bind_fun_none]
      simp
    | succ n =>
      simp only [terminal?, card?, Card.port?, numbered?_succ, changeTerminal, changePort,
        changeCard, Option.bind_assoc]
      rw [bind_modify]
      by_cases hi : i = m
      · subst hi
        simp only [if_true]
        cases hcard : c.cards[i]? with
        | none => simp
        | some card =>
          simp only [Option.bind_some]
          rw [bind_modify]
          by_cases hj : j = n
          · subst hj
            simp only [if_true]
            cases hport : card.ports[j]? with
            | none => simp
            | some port =>
              simp only [Option.bind_some, List.getElem?_modify]
              by_cases hk : k = l
              · simp [hk]
              · simp [hk, Ne.symm hk]
          · simp [hj, Ne.symm hj]
      · simp [hi, Ne.symm hi]

/-- Numbers of a place where there is a terminal count from 1. -/
theorem succ_pred_of_terminal? {c : Chassis} {here : DevicePort} {k : Nat} {t : Terminal}
    (ht : c.terminal? here k = some t) :
    (⟨here.card - 1 + 1, here.port - 1 + 1⟩ : DevicePort) = here := by
  obtain ⟨i, j, _, _, rfl, _⟩ := exists_of_terminal? ht
  rfl

/-- A card behind the others hides no terminal. -/
theorem terminal?_withCard_of_some {c : Chassis} {here : DevicePort} {k : Nat} {t : Terminal}
    (ht : c.terminal? here k = some t) (card : Card) :
    (c.withCard card).terminal? here k = some t := by
  obtain ⟨i, j, old, _, rfl, hcard, _⟩ := exists_of_terminal? ht
  obtain ⟨hi, _⟩ := List.getElem?_eq_some_iff.mp hcard
  rw [terminal?, card?, numbered?_succ, withCard, List.getElem?_append_left hi]
  exact ht

/-- The terminals of a card behind the others. -/
theorem terminal?_withCard_last (c : Chassis) (card : Card) (j k : Nat) :
    (c.withCard card).terminal? ⟨c.cards.length + 1, j + 1⟩ k =
      card.ports[j]?.bind (·.terminals[k]?) := by
  simp [terminal?, card?, withCard, Card.port?]

/-- Only what becomes of the terminal that is there counts. -/
theorem changeTerminal_congr {c : Chassis} {here : DevicePort} {k : Nat} {t : Terminal}
    (ht : c.terminal? here k = some t) {f g : Terminal → Terminal} (hfg : f t = g t) :
    c.changeTerminal (here.card - 1) (here.port - 1) k f =
      c.changeTerminal (here.card - 1) (here.port - 1) k g := by
  obtain ⟨i, j, card, port, rfl, hcard, hport, hterminal⟩ := exists_of_terminal? ht
  rw [changeTerminal, changeTerminal, changePort, changePort, changeCard, changeCard,
    Chassis.mk.injEq]
  refine ⟨rfl, rfl, rfl, rfl, ?_⟩
  -- Level by level: the two changes agree on the card, so on its port, so on its terminal.
  apply modify_congr hcard
  rw [Card.mk.injEq]
  refine ⟨rfl, rfl, rfl, rfl, ?_, rfl⟩
  apply modify_congr hport
  rw [Port.mk.injEq]
  exact ⟨rfl, modify_congr hterminal hfg, rfl⟩

/-- Two changes at one place are one change. -/
theorem changeTerminal_changeTerminal (c : Chassis) (i j k : Nat) (f g : Terminal → Terminal) :
    (c.changeTerminal i j k f).changeTerminal i j k g = c.changeTerminal i j k (g ∘ f) := by
  simp [changeTerminal, changePort, changeCard, List.modify_modify_eq, Function.comp_def]

theorem changeTerminal_id (c : Chassis) (i j k : Nat) : c.changeTerminal i j k id = c := by
  have hports : (fun port : Port => { port with terminals := port.terminals.modify k id }) =
      id := by
    funext port
    rw [List.modify_id, id]
  have hcards : (fun card : Card => { card with ports := card.ports.modify j id }) = id := by
    funext card
    rw [List.modify_id, id]
  rw [changeTerminal, changePort, changeCard, hports, hcards, List.modify_id]

/-- Of a card nothing is changed but its ports. -/
theorem exists_card?_changeTerminal (c : Chassis) (i j k : Nat) (f : Terminal → Terminal)
    (number : Nat) : ∃ ports : Card → List Port, (c.changeTerminal i j k f).card? number =
      (c.card? number).map fun card => { card with ports := ports card } := by
  refine ⟨fun card => if number = i + 1 then card.ports.modify j fun p =>
    { p with terminals := p.terminals.modify k f } else card.ports, ?_⟩
  cases number with
  | zero => rfl
  | succ m =>
    simp only [card?, numbered?_succ, changeTerminal, changePort, changeCard, List.getElem?_modify]
    apply Option.map_congr
    intro card _
    by_cases hi : i = m
    · simp [hi]
    · simp [hi, Ne.symm hi]

/-! ## Section 3: What writing keeps -/

variable {f : Terminal → Terminal}

theorem devicePorts_changeTerminal (c : Chassis) (i j k : Nat) (f : Terminal → Terminal) :
    (c.changeTerminal i j k f).devicePorts = c.devicePorts := by
  have hcard : ∀ card : Card, Card.devicePorts { card with
      ports := card.ports.modify j fun p => { p with terminals := p.terminals.modify k f } } =
        card.devicePorts := by
    intro card
    show (card.ports.modify j _).map (fun p => (⟨card.number, p.number⟩ : DevicePort)) = _
    apply map_modify_of_eq
    intro p
    rfl
  rw [devicePorts, devicePorts, List.flatMap, List.flatMap]
  exact congrArg List.flatten (map_modify_of_eq hcard i c.cards)

theorem Numbered.changeTerminal {c : Chassis} (h : c.Numbered)
    (hf : ∀ t, (f t).number = t.number) (i j k : Nat) : (c.changeTerminal i j k f).Numbered := by
  -- Sizes are kept by `modify` itself; numbers of cards and ports are not touched.
  apply forall_modify _ i h
  rintro m card ⟨hnumber, hlength, hports⟩
  refine ⟨hnumber, by simpa using hlength, ?_⟩
  apply forall_modify _ j hports
  rintro n port ⟨hnumber, hlength, hterminals⟩
  refine ⟨hnumber, by simpa using hlength, ?_⟩
  apply forall_modify _ k hterminals
  intro l t ht
  rw [hf]
  exact ht

theorem linked_changeTerminal {c : Chassis} (h : c.linked = c)
    (hf : ∀ t p, { t with port := p } = t → { f t with port := p } = f t) (i j k : Nat) :
    (c.changeTerminal i j k f).linked = c.changeTerminal i j k f := by
  have hcards : c.cards.map (Card.linked c.site) = c.cards := congrArg Chassis.cards h
  rw [Chassis.mk.injEq]
  refine ⟨rfl, rfl, rfl, rfl, ?_⟩
  -- A linked tree is one that linking leaves alone, and that is kept level by level.
  apply map_modify_of_fixed _ i hcards
  intro card hcard
  rw [Card.linked, Card.mk.injEq] at hcard
  rw [Card.linked, Card.mk.injEq]
  refine ⟨rfl, rfl, rfl, rfl, ?_, hcard.2.2.2.2.2⟩
  apply map_modify_of_fixed _ j hcard.2.2.2.2.1
  intro port hport
  rw [Port.linked, Port.mk.injEq] at hport
  rw [Port.linked, Port.mk.injEq]
  refine ⟨rfl, ?_, hport.2.2⟩
  apply map_modify_of_fixed _ k hport.2.1
  intro t ht
  exact hf t _ ht

end Chassis

/-! ## Section 4: Ports of a numbered tree -/

theorem Card.Numbered.devicePorts {c : Card} {i : Nat} (h : c.Numbered i) :
    c.devicePorts = (List.range c.driver.portCount).map fun j => ⟨c.number, j + 1⟩ := by
  obtain ⟨_, hlength, hports⟩ := h
  rw [Card.devicePorts]
  apply List.ext_getElem (by simp [hlength])
  intro j hj hj'
  have hlt : j < c.ports.length := by simpa using hj
  have hport := (hports j c.ports[j] (List.getElem?_eq_getElem hlt)).1
  simp [hport]

theorem Card.Numbered.length_devicePorts {c : Card} {i : Nat} (h : c.Numbered i) :
    c.devicePorts.length = portsPerSlot := by
  rw [h.devicePorts, List.length_map, List.length_range, CardDriver.portCount_eq]

/-- Every card takes as many ports as a slot has. -/
theorem Chassis.Numbered.length_devicePorts {c : Chassis} (h : c.Numbered) :
    c.devicePorts.length = c.cards.length * portsPerSlot := by
  have hcard : ∀ card ∈ c.cards, card.devicePorts.length = portsPerSlot := by
    intro card hmem
    obtain ⟨i, hi, rfl⟩ := List.getElem_of_mem hmem
    exact (h i _ (List.getElem?_eq_getElem hi)).length_devicePorts
  have hsum : c.cards.map (fun card => card.devicePorts.length) =
      c.cards.map fun _ => portsPerSlot :=
    List.map_congr_left hcard
  rw [Chassis.devicePorts, List.length_flatMap, hsum, List.map_const', List.sum_replicate_nat]

/-- Listed ports are those of cards and ports that are there, by number and by position. -/
theorem Chassis.Numbered.mem_devicePorts_iff {c : Chassis} (h : c.Numbered) {here : DevicePort} :
    here ∈ c.devicePorts ↔ ∃ card port, c.card? here.card = some card ∧
      card.port? here.port = some port ∧ card.number = here.card ∧ port.number = here.port := by
  rw [Chassis.devicePorts, List.mem_flatMap]
  constructor
  · rintro ⟨card, hcard, hhere⟩
    rw [Card.devicePorts, List.mem_map] at hhere
    obtain ⟨port, hport, rfl⟩ := hhere
    obtain ⟨i, hi, rfl⟩ := List.getElem_of_mem hcard
    obtain ⟨hnumber, _, hports⟩ := h i _ (List.getElem?_eq_getElem hi)
    obtain ⟨j, hj, rfl⟩ := List.getElem_of_mem hport
    have hport := (hports j _ (List.getElem?_eq_getElem hj)).1
    refine ⟨c.cards[i], c.cards[i].ports[j], ?_, ?_, rfl, rfl⟩
    · rw [hnumber, Chassis.card?, numbered?_succ, List.getElem?_eq_getElem hi]
    · rw [hport, Card.port?, numbered?_succ, List.getElem?_eq_getElem hj]
  · rintro ⟨card, port, hcard, hport, hcn, hpn⟩
    obtain ⟨_, _, hcard⟩ := numbered?_eq_some_iff.mp hcard
    obtain ⟨_, _, hport⟩ := numbered?_eq_some_iff.mp hport
    refine ⟨card, List.mem_of_getElem? hcard, ?_⟩
    rw [Card.devicePorts, List.mem_map]
    exact ⟨port, List.mem_of_getElem? hport, by rw [hcn, hpn]⟩

/-- Behind every listed port there is every terminal. -/
theorem Chassis.Numbered.exists_terminal {c : Chassis} (h : c.Numbered) {here : DevicePort}
    (hmem : here ∈ c.devicePorts) (k : Fin terminalsPerPort) :
    ∃ t, c.terminal? here k.val = some t := by
  obtain ⟨card, port, hcard, hport, _, _⟩ := h.mem_devicePorts_iff.mp hmem
  obtain ⟨i, _, hcards⟩ := numbered?_eq_some_iff.mp hcard
  obtain ⟨j, _, hports⟩ := numbered?_eq_some_iff.mp hport
  have hlength : port.terminals.length = terminalsPerPort :=
    ((h i card hcards).2.2 j port hports).2.1
  have hk : k.val < port.terminals.length := by
    rw [hlength]
    exact k.isLt
  refine ⟨port.terminals[k.val], ?_⟩
  rw [Chassis.terminal?, hcard, Option.bind_some, hport, Option.bind_some,
    List.getElem?_eq_getElem hk]

/-- No port is listed twice. -/
theorem Chassis.Numbered.nodup_devicePorts {c : Chassis} (h : c.Numbered) :
    c.devicePorts.Nodup := by
  rw [Chassis.devicePorts, List.nodup_flatMap]
  constructor
  · intro card hcard
    obtain ⟨i, hi, rfl⟩ := List.getElem_of_mem hcard
    rw [(h i _ (List.getElem?_eq_getElem hi)).devicePorts]
    apply List.Nodup.map _ List.nodup_range
    intro a b hab
    simpa using congrArg DevicePort.port hab
  -- Ports of two cards differ in the card's number, which is its position and one.
  · rw [List.pairwise_iff_getElem]
    intro i j hi hj hij here hmem hmem'
    have hin := (h i _ (List.getElem?_eq_getElem hi)).1
    have hjn := (h j _ (List.getElem?_eq_getElem hj)).1
    obtain ⟨p, _, rfl⟩ := List.mem_map.mp hmem
    obtain ⟨q, _, hq⟩ := List.mem_map.mp hmem'
    have := congrArg DevicePort.card hq
    simp only [hin, hjn] at this
    omega

/-! ## Section 5: A card behind the others -/

theorem Chassis.Numbered.withCard {c : Chassis} (h : c.Numbered) {card : Card}
    (hcard : card.Numbered c.cards.length) : (c.withCard card).Numbered := by
  intro i found hfound
  rw [Chassis.withCard, List.getElem?_append] at hfound
  split at hfound
  · exact h i found hfound
  -- Behind the old cards there is the new one only, whose number is one more than theirs.
  · next hlt =>
    rw [List.getElem?_singleton] at hfound
    split at hfound
    · next hi =>
      cases hfound
      have hlast : i = c.cards.length := by omega
      rw [hlast]
      exact hcard
    · cases hfound

theorem Chassis.linked_withCard {c : Chassis} (h : c.linked = c) {card : Card}
    (hcard : card.linked c.site = card) : (c.withCard card).linked = c.withCard card := by
  have hcards : c.cards.map (Card.linked c.site) = c.cards := congrArg Chassis.cards h
  simp only [Chassis.withCard, Chassis.linked, List.map_append, List.map_cons, List.map_nil, hcards,
    hcard]

end Physical

end ChassisRegistry
