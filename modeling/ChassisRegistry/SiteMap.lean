import ChassisRegistry.Site

/-! # Maps from sites

    At most one value per site, in ascending order of the sites. A map is seen
    through `find?`: it answers the last value inserted for a site. -/

namespace ChassisRegistry

/-- A map from sites. -/
structure SiteMap (α : Type) where
  entries : List (Site × α)
  sorted  : (entries.map Prod.fst).Pairwise fun a b => a.text < b.text

namespace SiteMap

variable {α : Type}

/-- The map without values. -/
def empty : SiteMap α := ⟨[], List.Pairwise.nil⟩

instance : EmptyCollection (SiteMap α) := ⟨empty⟩

instance : Inhabited (SiteMap α) := ⟨empty⟩

/-- The sites that have a value, in order. -/
def sites (m : SiteMap α) : List Site := m.entries.map Prod.fst

/-- How many sites have a value. -/
def size (m : SiteMap α) : Nat := m.entries.length

/-! ## Looking up -/

/-- The value of a site in a list of pairs. -/
def lookup (s : Site) : List (Site × α) → Option α
  | [] => none
  | (t, x) :: rest => if t = s then some x else lookup s rest

/-- The value of a site. -/
def find? (m : SiteMap α) (s : Site) : Option α := lookup s m.entries

/-- Does the site have a value? -/
def contains (m : SiteMap α) (s : Site) : Bool := (m.find? s).isSome

@[simp] theorem find?_empty (s : Site) : (empty : SiteMap α).find? s = none := rfl

theorem lookup_eq_none_iff {s : Site} {xs : List (Site × α)} :
    lookup s xs = none ↔ s ∉ xs.map Prod.fst := by
  induction xs with
  | nil => simp [lookup]
  | cons head rest ih =>
    obtain ⟨t, x⟩ := head
    by_cases h : t = s
    · simp [lookup, h]
    · simp [lookup, h, ih, Ne.symm h]

/-- The site has a value exactly when it is among the sites. -/
theorem contains_iff {m : SiteMap α} {s : Site} : m.contains s = true ↔ s ∈ m.sites := by
  cases h : lookup s m.entries with
  | none =>
    have := lookup_eq_none_iff.mp h
    simp [contains, find?, h, sites, this]
  | some x =>
    have : ¬ lookup s m.entries = none := by simp [h]
    rw [lookup_eq_none_iff] at this
    simp only [contains, find?, h, Option.isSome_some, true_iff, sites]
    exact Decidable.not_not.mp this

/-! ## Inserting -/

/-- Of two texts that differ, the one that is not before the other is behind it. -/
theorem text_lt_of_not_lt {a b : Site} (h : ¬ a.text < b.text) (ne : a ≠ b) : b.text < a.text := by
  apply Decidable.byContradiction
  intro h'
  exact ne (Site.ext (String.le_antisymm (String.not_lt.mp h') (String.not_lt.mp h)))

/-- Puts a value at the place of its site, instead of one that is there. -/
def place (s : Site) (x : α) : List (Site × α) → List (Site × α)
  | [] => [(s, x)]
  | (t, y) :: rest =>
      if t = s then (s, x) :: rest
      else if s.text < t.text then (s, x) :: (t, y) :: rest
      else (t, y) :: place s x rest

theorem mem_place {s t : Site} {x : α} {xs : List (Site × α)}
    (h : t ∈ (place s x xs).map Prod.fst) : t = s ∨ t ∈ xs.map Prod.fst := by
  induction xs with
  | nil => simpa [place] using h
  | cons head rest ih =>
    obtain ⟨u, y⟩ := head
    unfold place at h
    split at h
    · next e =>
      subst e
      simp only [List.map_cons, List.mem_cons] at h ⊢
      exact h.elim Or.inl fun h => Or.inr (Or.inr h)
    · split at h
      · simp only [List.map_cons, List.mem_cons] at h ⊢
        exact h
      · simp only [List.map_cons, List.mem_cons] at h ⊢
        rcases h with h | h
        · exact Or.inr (Or.inl h)
        · exact (ih h).imp id Or.inr

theorem place_sorted {s : Site} {x : α} {xs : List (Site × α)}
    (h : (xs.map Prod.fst).Pairwise fun a b => a.text < b.text) :
    ((place s x xs).map Prod.fst).Pairwise fun a b => a.text < b.text := by
  induction xs with
  | nil => simp [place]
  | cons head rest ih =>
    obtain ⟨t, y⟩ := head
    simp only [List.map_cons, List.pairwise_cons] at h
    unfold place
    split
    · next e =>
      subst e
      simpa only [List.map_cons, List.pairwise_cons] using h
    · next ne =>
      split
      · next lt =>
        simp only [List.map_cons, List.pairwise_cons, List.mem_cons]
        refine ⟨?_, h⟩
        rintro u (rfl | hu)
        · exact lt
        · exact String.lt_trans lt (h.1 u hu)
      · next ge =>
        simp only [List.map_cons, List.pairwise_cons]
        refine ⟨?_, ih h.2⟩
        intro u hu
        rcases mem_place hu with rfl | hu
        · exact text_lt_of_not_lt ge (Ne.symm ne)
        · exact h.1 u hu

/-- The map with a value for a site. -/
def insert (m : SiteMap α) (s : Site) (x : α) : SiteMap α :=
  ⟨place s x m.entries, place_sorted m.sorted⟩

theorem lookup_place_self (s : Site) (x : α) (xs : List (Site × α)) :
    lookup s (place s x xs) = some x := by
  induction xs with
  | nil => simp [place, lookup]
  | cons head rest ih =>
    obtain ⟨t, y⟩ := head
    unfold place
    split
    · simp [lookup]
    · next ne => split <;> simp [lookup, ne, ih]

theorem lookup_place_of_ne {s t : Site} (h : t ≠ s) (x : α) (xs : List (Site × α)) :
    lookup t (place s x xs) = lookup t xs := by
  induction xs with
  | nil => simp [place, lookup, Ne.symm h]
  | cons head rest ih =>
    obtain ⟨u, y⟩ := head
    unfold place
    split
    · next e =>
      subst e
      simp [lookup, Ne.symm h]
    · split
      · simp [lookup, Ne.symm h]
      · simp [lookup, ih]

@[simp] theorem find?_insert_self (m : SiteMap α) (s : Site) (x : α) :
    (m.insert s x).find? s = some x := lookup_place_self s x m.entries

theorem find?_insert_of_ne {s t : Site} (h : t ≠ s) (m : SiteMap α) (x : α) :
    (m.insert s x).find? t = m.find? t := lookup_place_of_ne h x m.entries

end SiteMap

end ChassisRegistry
