import ChassisRegistry.Proofs.ActiveTerminals
import ChassisRegistry.Proofs.Chronicle
import ChassisRegistry.Proofs.Custody
import ChassisRegistry.Proofs.Digits

/-! # Identifiers tell terminals apart

    A site may have any text. It may hold every mark that an identifier is made
    of, and it may look like a whole identifier. But it stands in front, and
    behind it are numbers and marks only. No number holds a mark, so the text of
    the site ends at the last blank of a circuit identifier, and at the fourth
    underscore from the end of a subscriber. From there on every number ends
    where its digits end.

    Main statement: `Scene.names_apart`. -/

namespace ChassisRegistry

namespace Identifier

/-! ## Section 1: Rows of characters -/

theorem not_mem_digits {mark : Char} (hmark : Decimal.isDigit 10 mark = false) (n : Nat) :
    mark ∉ Nat.toDigits 10 n := by
  intro hmem
  have hdigit := Decimal.isDigit_of_mem_toDigits (by decide) (by decide) n mark hmem
  rw [hmark] at hdigit
  cases hdigit

theorem digits_injective {m n : Nat} (h : Nat.toDigits 10 m = Nat.toDigits 10 n) : m = n := by
  have hvalue := congrArg (Decimal.ofDigits 10) h
  rwa [Decimal.ofDigits_toDigits (by decide) (by decide),
    Decimal.ofDigits_toDigits (by decide) (by decide)] at hvalue

/-- The number that a row of characters begins with is known, if a mark is behind it. -/
theorem digits_inj {m n : Nat} {mark : Char} {rest rest' : List Char}
    (hmark : Decimal.isDigit 10 mark = false)
    (h : Nat.toDigits 10 m ++ mark :: rest = Nat.toDigits 10 n ++ mark :: rest') :
    m = n ∧ rest = rest' := by
  have hhead : ∀ (tail : List Char) (c : Char), (mark :: tail).head? = some c →
      Decimal.isDigit 10 c = false := by
    intro tail c hc
    cases hc
    exact hmark
  obtain ⟨hvalue, htail⟩ :=
    Decimal.toDigits_append_inj (by decide) (by decide) (hhead rest) (hhead rest') h
  exact ⟨hvalue, (List.cons.inj htail).2⟩

/-- Rows are split alike at a mark that is the last of its kind in both. -/
theorem last_mark_inj {xs xs' ys ys' : List Char} {mark : Char} (hys : mark ∉ ys)
    (hys' : mark ∉ ys') (h : xs ++ mark :: ys = xs' ++ mark :: ys') : xs = xs' ∧ ys = ys' := by
  -- Of two splits one is not behind the other, and the mark between them would be one too many.
  have hsplit : ∀ {xs xs' ys ys' between : List Char}, mark ∉ ys → xs' = xs ++ between →
      mark :: ys = between ++ mark :: ys' → xs = xs' ∧ ys = ys' := by
    intro xs xs' ys ys' between hys hfront hback
    cases between with
    | nil => exact ⟨by rw [hfront, List.append_nil], (List.cons.inj hback).2⟩
    | cons first more =>
      rw [(List.cons.inj hback).2] at hys
      exact absurd (List.mem_append_right more List.mem_cons_self) hys
  rcases List.append_eq_append_iff.mp h with ⟨between, hfront, hback⟩ | ⟨between, hfront, hback⟩
  · exact hsplit hys hfront hback
  · obtain ⟨hxs, hrest⟩ := hsplit hys' hfront hback
    exact ⟨hxs.symm, hrest.symm⟩

/-! ## Section 2: Circuits and network ports -/

/-- How the generated identifiers of a coordinate end. -/
def spot (rack shelf : UInt32) (c : TerminalCoordinate) : List Char :=
  Nat.toDigits 10 rack.toNat ++ '/' :: (Nat.toDigits 10 shelf.toNat ++ '/' ::
    (Nat.toDigits 10 c.slot ++ '/' :: (Nat.toDigits 10 c.port ++ ':' ::
      (Nat.toDigits 10 c.terminal ++ '.' :: "1.1".toList))))

theorem toList_nasPort (rack shelf : UInt32) (c : TerminalCoordinate) :
    (nasPort rack shelf c).toList = "PON ".toList ++ spot rack shelf c := by
  simp [nasPort, spot, toString, Nat.repr]

theorem toList_circuit (site : Site) (rack shelf : UInt32) (c : TerminalCoordinate) :
    (circuit site rack shelf c).toList = site.text.toList ++ ' ' :: spot rack shelf c := by
  simp [circuit, spot, toString, Nat.repr]

variable {site site' : Site} {rack shelf rack' shelf' : UInt32} {c c' : TerminalCoordinate}

theorem blank_not_mem_spot : ' ' ∉ spot rack shelf c := by
  have hdigits : ∀ n, ' ' ∉ Nat.toDigits 10 n := not_mem_digits (by decide)
  simp [spot, hdigits]

theorem spot_inj : spot rack shelf c = spot rack' shelf' c' ↔
    rack = rack' ∧ shelf = shelf' ∧ c = c' := by
  constructor
  · intro h
    obtain ⟨hrack, h⟩ := digits_inj (by decide) h
    obtain ⟨hshelf, h⟩ := digits_inj (by decide) h
    obtain ⟨hslot, h⟩ := digits_inj (by decide) h
    obtain ⟨hport, h⟩ := digits_inj (by decide) h
    obtain ⟨hterminal, _⟩ := digits_inj (by decide) h
    have hnumbers : c.numbers = c'.numbers := by
      simp only [TerminalCoordinate.numbers, hslot, hport, hterminal]
    exact ⟨UInt32.toNat_inj.mp hrack, UInt32.toNat_inj.mp hshelf,
      TerminalCoordinate.numbers_injective hnumbers⟩
  · rintro ⟨rfl, rfl, rfl⟩
    rfl

theorem nasPort_inj : nasPort rack shelf c = nasPort rack' shelf' c' ↔
    rack = rack' ∧ shelf = shelf' ∧ c = c' := by
  rw [← String.toList_inj, toList_nasPort, toList_nasPort, List.append_cancel_left_eq, spot_inj]

/-- The last blank is the one behind the site. -/
theorem circuit_inj : circuit site rack shelf c = circuit site' rack' shelf' c' ↔
    site = site' ∧ rack = rack' ∧ shelf = shelf' ∧ c = c' := by
  constructor
  · intro h
    rw [← String.toList_inj, toList_circuit, toList_circuit] at h
    obtain ⟨hsite, hspot⟩ := last_mark_inj blank_not_mem_spot blank_not_mem_spot h
    exact ⟨Site.ext (String.toList_inj.mp hsite), spot_inj.mp hspot⟩
  · rintro ⟨rfl, rfl, rfl, rfl⟩
    rfl

/-! ## Section 3: Subscribers -/

theorem toList_subscriber (site : Site) (c : TerminalCoordinate) :
    (subscriber site c).toList = site.text.toList ++ '_' :: Nat.toDigits 10 c.slot ++
      '_' :: Nat.toDigits 10 c.port ++ '_' :: Nat.toDigits 10 c.terminal ++ '_' :: "RG".toList := by
  simp [subscriber, toString, Nat.repr]

/-- The numbers are read from the end, as the site may hold underscores as well. -/
theorem subscriber_inj : subscriber site c = subscriber site' c' ↔ site = site' ∧ c = c' := by
  have hdigits : ∀ n, '_' ∉ Nat.toDigits 10 n := not_mem_digits (by decide)
  constructor
  · intro h
    rw [← String.toList_inj, toList_subscriber, toList_subscriber] at h
    obtain ⟨h, _⟩ := last_mark_inj (by decide) (by decide) h
    obtain ⟨h, hterminal⟩ := last_mark_inj (hdigits _) (hdigits _) h
    obtain ⟨h, hport⟩ := last_mark_inj (hdigits _) (hdigits _) h
    obtain ⟨hsite, hslot⟩ := last_mark_inj (hdigits _) (hdigits _) h
    have hnumbers : c.numbers = c'.numbers := by
      simp only [TerminalCoordinate.numbers, digits_injective hslot, digits_injective hport,
        digits_injective hterminal]
    exact ⟨Site.ext (String.toList_inj.mp hsite), TerminalCoordinate.numbers_injective hnumbers⟩
  · rintro ⟨rfl, rfl⟩
    rfl

/-- Whatever the texts of the sites are, an identifier tells everything that it was made from. -/
structure Tells : Prop where
  circuit    : ∀ {site site' rack rack' shelf shelf' c c'},
    Identifier.circuit site rack shelf c = Identifier.circuit site' rack' shelf' c' →
      site = site' ∧ rack = rack' ∧ shelf = shelf' ∧ c = c'
  subscriber : ∀ {site site' c c'},
    Identifier.subscriber site c = Identifier.subscriber site' c' → site = site' ∧ c = c'
  nasPort    : ∀ {rack rack' shelf shelf' c c'},
    Identifier.nasPort rack shelf c = Identifier.nasPort rack' shelf' c' →
      rack = rack' ∧ shelf = shelf' ∧ c = c'

theorem tells : Tells where
  circuit    := circuit_inj.mp
  subscriber := subscriber_inj.mp
  nasPort    := nasPort_inj.mp

end Identifier

/-! ## Section 4: All terminals of a registry -/

namespace Registry

variable {g : Registry}

/-- No two terminals of any sites have a name in common. -/
structure NamesApart (g : Registry) : Prop where
  /-- A notice of a terminal can be made whenever its port is bound, and its subscriber is that of
      no other terminal. -/
  told       : ∀ {site e c}, g.entries.find? site = some e → (e.record.binding? c.onPort).isSome →
    ∀ service, ∃ n, e.record.noticeFor c service = .ok n
  subscriber : ∀ {site site' e e' c c' service service' n n'},
    g.entries.find? site = some e → g.entries.find? site' = some e' →
    e.record.noticeFor c service = .ok n → e'.record.noticeFor c' service' = .ok n' →
    n.subscriber = n'.subscriber → site = site' ∧ c = c'
  /-- A circuit identifier can always be generated, and it is that of no other terminal. -/
  planned    : ∀ {site e}, g.entries.find? site = some e →
    ∀ c serial, ∃ service, e.record.plannedService c serial = .ok service
  circuit    : ∀ {site site' e e' c c' serial serial' service service'},
    g.entries.find? site = some e → g.entries.find? site' = some e' →
    e.record.plannedService c serial = .ok service →
    e'.record.plannedService c' serial' = .ok service' →
    service.circuitId = service'.circuitId → site = site' ∧ c = c'

theorem Sound.namesApart (h : g.Sound) : g.NamesApart where
  told hfound hbound service := by
    obtain ⟨here, hbound⟩ := Option.isSome_iff_exists.mp hbound
    exact (h hfound).coherent.exists_notice hbound service
  subscriber hfound hfound' hn hn' hsame := by
    obtain ⟨_, _, _, hsubscriber⟩ := Record.of_noticeFor hn
    obtain ⟨_, _, _, hsubscriber'⟩ := Record.of_noticeFor hn'
    rw [hsubscriber, hsubscriber', (h hfound).named, (h hfound').named] at hsame
    exact Identifier.subscriber_inj.mp hsame
  planned hfound c serial := ⟨_, (h hfound).coherent.plannedService_eq c serial⟩
  circuit {site site' e e' c c' _ _ _ _} hfound hfound' hplanned hplanned' hsame := by
    rw [(h hfound).coherent.plannedService_eq, Except.ok.injEq] at hplanned
    rw [(h hfound').coherent.plannedService_eq, Except.ok.injEq] at hplanned'
    subst hplanned hplanned'
    have hcircuit : Identifier.circuit e.record.site e.record.logical.rack e.record.logical.shelf c =
        Identifier.circuit e'.record.site e'.record.logical.rack e'.record.logical.shelf c' := hsame
    rw [(h hfound).named, (h hfound').named] at hcircuit
    obtain ⟨hsite, _, _, hcoordinate⟩ := Identifier.circuit_inj.mp hcircuit
    exact ⟨hsite, hcoordinate⟩

end Registry

namespace Scene

variable {ι σ : Type} [DecidableEq ι]

/-- **Names are apart**: an identifier tells what it was made from, and so no two terminals of any
    sites in a registry have a name in common, whatever has been going on there. -/
theorem names_apart (load : ι → Job) (o : Outside σ) (s₀ : σ) (events : List (Event ι)) :
    Identifier.Tells ∧ ((start load .empty s₀).run o events).ground.registry.NamesApart := by
  have hsound := (sound_start load Registry.sound_empty s₀).run o events
  exact ⟨Identifier.tells, hsound.registry.namesApart⟩

end Scene

end ChassisRegistry
