import ChassisRegistry.Proofs.PhysicalTree

/-! # Addresses of terminals

    A terminal of a physical tree has an address: the numbers of a card and of
    a port of it, and an index on the port. Reading looks up the card and then
    the port; writing walks down by itself and puts the lists on its way back.
    In a tree of any shape and numbering both meet the same terminal, what is
    written at one address is seen at no other, and the order in which two
    addresses are written does not count.

    A tree is its outline, which no writing changes, and what is read at every
    address (`Chassis.ext_terminal?`).

    Main statement: `Chassis.addressed`. -/

namespace ChassisRegistry.Physical

/-! ## Section 1: The outline of a tree -/

/-- The port with one and the same terminal at every index. -/
def Port.outline (p : Port) : Port :=
  { p with terminals := p.terminals.map fun _ => .vacant 0 }

/-- The card without what its terminals hold. -/
def Card.outline (c : Card) : Card :=
  { c with ports := c.ports.map Port.outline }

/-- All of a tree but its terminals: the fields of the chassis, of the cards and of the ports, and
    the length of every list. -/
def Chassis.outline (c : Chassis) : Chassis :=
  { c with cards := c.cards.map Card.outline }

/-- Lists are equal when they are so under a map that tells items of one index apart. -/
theorem eq_of_map_eq {α β : Type} {g : α → β} {xs ys : List α} (hmap : xs.map g = ys.map g)
    (hitem : ∀ (i : Nat) x y, xs[i]? = some x → ys[i]? = some y → g x = g y → x = y) : xs = ys := by
  apply List.ext_getElem?
  intro i
  have hi : xs[i]?.map g = ys[i]?.map g := by
    rw [← List.getElem?_map, hmap, List.getElem?_map]
  cases hx : xs[i]? with
  | none =>
    rw [hx, Option.map_none] at hi
    exact (Option.map_eq_none_iff.mp hi.symm).symm
  | some x =>
    rw [hx, Option.map_some] at hi
    obtain ⟨y, hy, hxy⟩ := Option.map_eq_some_iff.mp hi.symm
    rw [hy, hitem i x y hx hy hxy.symm]

namespace Chassis

variable {c c' : Chassis} {here there : DevicePort} {k l : Nat} {f g : Terminal → Terminal}

/-- Reading finds the terminal by position: number `n` is the `n`-th, and 0 is none. -/
theorem terminal?_eq_some_iff {t : Terminal} :
    c.terminal? here k = some t ↔ ∃ i j card port, here = ⟨i + 1, j + 1⟩ ∧
      c.cards[i]? = some card ∧ card.ports[j]? = some port ∧ port.terminals[k]? = some t := by
  constructor
  · exact exists_of_terminal?
  · rintro ⟨i, j, card, port, rfl, hcard, hport, hterminal⟩
    rw [terminal?, card?, numbered?_succ, hcard, Option.bind_some, Card.port?, numbered?_succ,
      hport, Option.bind_some, hterminal]

/-- A tree is its outline and what is read at every address. -/
theorem ext_terminal? (houtline : c.outline = c'.outline)
    (hread : ∀ here k, c.terminal? here k = c'.terminal? here k) : c = c' := by
  simp only [outline, Chassis.mk.injEq] at houtline
  obtain ⟨hsite, hendpoint, hrack, hshelf, hcards⟩ := houtline
  rw [Chassis.mk.injEq]
  refine ⟨hsite, hendpoint, hrack, hshelf, eq_of_map_eq hcards ?_⟩
  -- Cards and ports are equal but for what is in them, and terminals are what is read.
  intro i card card' hcard hcard' hsame
  simp only [Card.outline, Card.mk.injEq] at hsame
  obtain ⟨hnumber, hdriver, haddress, hhostname, hports, hchassis⟩ := hsame
  rw [Card.mk.injEq]
  refine ⟨hnumber, hdriver, haddress, hhostname, eq_of_map_eq hports ?_, hchassis⟩
  intro j port port' hport hport' hsame
  simp only [Port.outline, Port.mk.injEq] at hsame
  rw [Port.mk.injEq]
  refine ⟨hsame.1, ?_, hsame.2.2⟩
  apply List.ext_getElem?
  intro k
  have hk := hread ⟨i + 1, j + 1⟩ k
  simpa only [terminal?, card?, Card.port?, numbered?_succ, hcard, hcard', hport, hport',
    Option.bind_some] using hk

/-! ## Section 2: Writing -/

/-- What becomes of a tree in which the terminal of an address is changed. -/
structure Written (c : Chassis) (here : DevicePort) (k : Nat) (f : Terminal → Terminal)
    (c' : Chassis) : Prop where
  /-- There was a terminal, and what it was changed to is read now. -/
  self      : ∃ t, c.terminal? here k = some t ∧ c'.terminal? here k = some (f t)
  /-- At every other address the same is read as before, be it nothing. -/
  elsewhere : ∀ there l, (there, l) ≠ (here, k) → c'.terminal? there l = c.terminal? there l
  /-- The chassis, the cards and the ports are the same, and so are the lengths of all lists. -/
  outline   : c'.outline = c.outline

theorem outline_changeTerminal (c : Chassis) (i j k : Nat) (f : Terminal → Terminal) :
    (c.changeTerminal i j k f).outline = c.outline := by
  rw [Chassis.mk.injEq]
  refine ⟨rfl, rfl, rfl, rfl, map_modify_of_eq ?_ i c.cards⟩
  intro card
  rw [Card.mk.injEq]
  refine ⟨rfl, rfl, rfl, rfl, map_modify_of_eq ?_ j card.ports, rfl⟩
  intro port
  rw [Port.mk.injEq]
  exact ⟨rfl, map_modify_of_eq (g := fun _ => Terminal.vacant 0) (fun _ => rfl) k port.terminals,
    rfl⟩

theorem written_of_modifyTerminal (h : c.modifyTerminal here k f = some c') :
    Written c here k f c' := by
  obtain ⟨⟨t, ht⟩, rfl⟩ := modifyTerminal_eq_some h
  have hplace := succ_pred_of_terminal? ht
  refine ⟨⟨t, ht, ?_⟩, ?_, c.outline_changeTerminal _ _ _ f⟩
  · rw [terminal?_changeTerminal, hplace, if_pos ⟨rfl, rfl⟩, ht, Option.map_some]
  · intro there l hne
    rw [terminal?_changeTerminal, hplace, if_neg]
    rintro ⟨rfl, rfl⟩
    exact hne rfl

/-- A terminal is written where one is read. -/
theorem exists_modifyTerminal_iff :
    (∃ c', c.modifyTerminal here k f = some c') ↔ ∃ t, c.terminal? here k = some t :=
  ⟨fun ⟨_, h⟩ => exists_of_modifyTerminal h, fun ⟨_, ht⟩ => ⟨_, modifyTerminal_of_terminal? ht f⟩⟩

theorem modifyTerminal_eq_none (h : c.terminal? here k = none) :
    c.modifyTerminal here k f = none := by
  cases hmodify : c.modifyTerminal here k f with
  | none => rfl
  | some c' =>
    obtain ⟨t, ht⟩ := exists_of_modifyTerminal hmodify
    rw [h] at ht
    cases ht

/-! ## Section 3: Writing twice -/

/-- Where nothing is read, nothing is written after another address was. -/
theorem bind_modifyTerminal_of_none (hne : (here, k) ≠ (there, l))
    (h : c.terminal? here k = none) :
    (c.modifyTerminal there l g).bind (·.modifyTerminal here k f) = none := by
  rw [Option.bind_eq_none_iff]
  intro c' hwrite
  apply modifyTerminal_eq_none
  rw [(written_of_modifyTerminal hwrite).elsewhere here k hne, h]

/-- Trees that come about by the same two changes in either order are one. -/
theorem Written.comm {c₁ c₂ c₁₂ c₂₁ : Chassis} (hne : (here, k) ≠ (there, l))
    (h₁ : Written c here k f c₁) (h₁₂ : Written c₁ there l g c₁₂) (h₂ : Written c there l g c₂)
    (h₂₁ : Written c₂ here k f c₂₁) : c₁₂ = c₂₁ := by
  obtain ⟨t, ht, ht₁⟩ := h₁.self
  obtain ⟨u, hu, hu₂⟩ := h₂.self
  have hthere : c₁₂.terminal? there l = some (g u) := by
    obtain ⟨u', hu', hwritten⟩ := h₁₂.self
    rw [h₁.elsewhere there l hne.symm, hu] at hu'
    rw [hwritten, Option.some.inj hu']
  have hhere : c₂₁.terminal? here k = some (f t) := by
    obtain ⟨t', ht', hwritten⟩ := h₂₁.self
    rw [h₂.elsewhere here k hne, ht] at ht'
    rw [hwritten, Option.some.inj ht']
  apply ext_terminal?
  · rw [h₁₂.outline, h₁.outline, h₂₁.outline, h₂.outline]
  -- At either of the two addresses one of the orders wrote last, and at a third neither did.
  · intro place m
    by_cases hplace : (place, m) = (here, k)
    · obtain ⟨rfl, rfl⟩ := Prod.mk.inj hplace
      rw [h₁₂.elsewhere place m hne, ht₁, hhere]
    · by_cases hplace' : (place, m) = (there, l)
      · obtain ⟨rfl, rfl⟩ := Prod.mk.inj hplace'
        rw [hthere, h₂₁.elsewhere place m hne.symm, hu₂]
      · rw [h₁₂.elsewhere place m hplace', h₁.elsewhere place m hplace,
          h₂₁.elsewhere place m hplace, h₂.elsewhere place m hplace']

theorem modifyTerminal_comm (hne : (here, k) ≠ (there, l)) :
    (c.modifyTerminal here k f).bind (·.modifyTerminal there l g) =
      (c.modifyTerminal there l g).bind (·.modifyTerminal here k f) := by
  cases ht : c.terminal? here k with
  | none => rw [modifyTerminal_eq_none ht, bind_modifyTerminal_of_none hne ht, Option.bind_none]
  | some t =>
    cases hu : c.terminal? there l with
    | none =>
      rw [modifyTerminal_eq_none hu, bind_modifyTerminal_of_none hne.symm hu, Option.bind_none]
    | some u =>
      obtain ⟨c₁, hwrite₁⟩ := exists_modifyTerminal_iff (f := f).mpr ⟨t, ht⟩
      obtain ⟨c₂, hwrite₂⟩ := exists_modifyTerminal_iff (f := g).mpr ⟨u, hu⟩
      have h₁ := written_of_modifyTerminal hwrite₁
      have h₂ := written_of_modifyTerminal hwrite₂
      -- Either address is still there after the other was written.
      obtain ⟨c₁₂, hwrite₁₂⟩ := exists_modifyTerminal_iff (f := g).mpr
        ⟨u, (h₁.elsewhere there l hne.symm).trans hu⟩
      obtain ⟨c₂₁, hwrite₂₁⟩ := exists_modifyTerminal_iff (f := f).mpr
        ⟨t, (h₂.elsewhere here k hne).trans ht⟩
      rw [hwrite₁, hwrite₂, Option.bind_some, Option.bind_some, hwrite₁₂, hwrite₂₁,
        h₁.comm hne (written_of_modifyTerminal hwrite₁₂) h₂ (written_of_modifyTerminal hwrite₂₁)]

/-! ## Section 4: Every tree -/

/-- Reading and writing address the same terminals. -/
structure Addressed (c : Chassis) : Prop where
  /-- A terminal is found by position, under numbers that count from 1. -/
  read    : ∀ here k t, c.terminal? here k = some t ↔ ∃ i j card port, here = ⟨i + 1, j + 1⟩ ∧
    c.cards[i]? = some card ∧ card.ports[j]? = some port ∧ port.terminals[k]? = some t
  /-- Writing finds a terminal exactly when reading does. -/
  found   : ∀ here k f, (∃ c', c.modifyTerminal here k f = some c') ↔
    ∃ t, c.terminal? here k = some t
  /-- What was written is read at its address, and nothing else has changed. -/
  written : ∀ here k f c', c.modifyTerminal here k f = some c' → Written c here k f c'
  /-- Writing at two addresses comes to the same in either order. -/
  comm    : ∀ here k f there l g, (here, k) ≠ (there, l) →
    (c.modifyTerminal here k f).bind (·.modifyTerminal there l g) =
      (c.modifyTerminal there l g).bind (·.modifyTerminal here k f)

/-- **Addresses**: in a tree of any shape and numbering, reading and writing at an address, also at
    one where there is nothing, meet the same terminal and no other. -/
theorem addressed (c : Chassis) : c.Addressed where
  read    := fun _ _ _ => terminal?_eq_some_iff
  found   := fun _ _ _ => exists_modifyTerminal_iff
  written := fun _ _ _ _ h => written_of_modifyTerminal h
  comm    := fun _ _ _ _ _ _ hne => modifyTerminal_comm hne

end Chassis

end ChassisRegistry.Physical
