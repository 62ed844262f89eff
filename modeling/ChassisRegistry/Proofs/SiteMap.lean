import ChassisRegistry.SiteMap
import Mathlib.Logic.Function.Basic

/-! # Maps from sites that agree

    A map keeps its entries in ascending order, so it is determined by what it
    answers: two maps that answer alike at every site are equal. -/

namespace ChassisRegistry

namespace SiteMap

variable {α : Type}

/-! ## Section 1: The first site -/

/-- A site that is found is the first one or behind it. -/
theorem eq_or_lt_of_lookup {s t : Site} {x y : α} {rest : List (Site × α)}
    (hsorted : (((t, x) :: rest).map Prod.fst).Pairwise fun a b => a.text < b.text)
    (hfound : lookup s ((t, x) :: rest) = some y) : t = s ∨ t.text < s.text := by
  by_cases hts : t = s
  · exact Or.inl hts
  · right
    rw [lookup, if_neg hts] at hfound
    have hmem : s ∈ rest.map Prod.fst := by
      apply Decidable.byContradiction
      intro hnot
      rw [lookup_eq_none_iff.mpr hnot] at hfound
      cases hfound
    exact (List.pairwise_cons.mp hsorted).1 s hmem

/-- The first site is not found a second time. -/
theorem lookup_rest {t : Site} {x : α} {rest : List (Site × α)}
    (hsorted : (((t, x) :: rest).map Prod.fst).Pairwise fun a b => a.text < b.text) :
    lookup t rest = none := by
  rw [lookup_eq_none_iff]
  intro hmem
  exact String.lt_irrefl t.text ((List.pairwise_cons.mp hsorted).1 t hmem)

/-- No site comes twice. -/
theorem nodup (m : SiteMap α) : (m.entries.map Prod.fst).Nodup := by
  refine m.sorted.imp ?_
  rintro s t hlt rfl
  exact String.lt_irrefl s.text hlt

theorem mem_of_lookup {s : Site} {x : α} {xs : List (Site × α)} (h : lookup s xs = some x) :
    (s, x) ∈ xs := by
  induction xs with
  | nil => cases h
  | cons head rest ih =>
    obtain ⟨t, y⟩ := head
    rw [lookup] at h
    split at h
    · next heq =>
      cases h
      rw [heq]
      exact List.mem_cons_self
    · exact List.mem_cons_of_mem _ (ih h)

theorem mem_of_find? {m : SiteMap α} {s : Site} {x : α} (hfound : m.find? s = some x) :
    (s, x) ∈ m.entries :=
  mem_of_lookup hfound

/-- A site of a list is none that the list does not have. -/
theorem ne_of_mem {s t : Site} {x : α} {xs : List (Site × α)} (hmem : (s, x) ∈ xs)
    (hnew : t ∉ xs.map Prod.fst) : s ≠ t := by
  rintro rfl
  exact hnew (List.mem_map.mpr ⟨_, hmem, rfl⟩)

/-- Where no site comes twice, every pair is found. -/
theorem lookup_of_mem {s : Site} {x : α} {xs : List (Site × α)}
    (hnodup : (xs.map Prod.fst).Nodup) (hmem : (s, x) ∈ xs) : lookup s xs = some x := by
  induction xs with
  | nil => cases hmem
  | cons head rest ih =>
    obtain ⟨t, y⟩ := head
    obtain ⟨hfresh, hrest⟩ := List.nodup_cons.mp hnodup
    rcases List.mem_cons.mp hmem with heq | hmem
    · cases heq
      rw [lookup, if_pos rfl]
    · rw [lookup, if_neg (ne_of_mem hmem hfresh).symm, ih hrest hmem]

/-- Where no site comes twice, the order is not seen. -/
theorem lookup_perm {xs ys : List (Site × α)} (hperm : xs.Perm ys)
    (hnodup : (xs.map Prod.fst).Nodup) (s : Site) : lookup s xs = lookup s ys := by
  cases hfound : lookup s ys with
  | some x => exact lookup_of_mem hnodup (hperm.mem_iff.mpr (mem_of_lookup hfound))
  | none =>
    rw [lookup_eq_none_iff] at hfound ⊢
    rwa [(hperm.map Prod.fst).mem_iff]

/-- Where all pairs of a site have one value, this is the one that is found. -/
theorem lookup_of_unique {s : Site} {x : α} {xs : List (Site × α)} (hmem : (s, x) ∈ xs)
    (hunique : ∀ y, (s, y) ∈ xs → y = x) : lookup s xs = some x := by
  cases hfound : lookup s xs with
  | none => exact absurd (List.mem_map.mpr ⟨_, hmem, rfl⟩) (lookup_eq_none_iff.mp hfound)
  | some y => rw [hunique y (mem_of_lookup hfound)]

/-- Of the pairs of a list, the last one of a site counts. -/
theorem lookup_reverse_concat (xs : List (Site × α)) (site : Site) (x : α) :
    (fun other => lookup other (xs ++ [(site, x)]).reverse) =
      Function.update (fun other => lookup other xs.reverse) site (some x) := by
  funext other
  rw [List.reverse_append, List.reverse_singleton, List.singleton_append, lookup]
  by_cases heq : site = other
  · rw [if_pos heq, heq, Function.update_self]
  · rw [if_neg heq, Function.update_of_ne (Ne.symm heq)]

theorem lookup_append (s : Site) (xs ys : List (Site × α)) :
    lookup s (xs ++ ys) = (lookup s xs).or (lookup s ys) := by
  induction xs with
  | nil => rfl
  | cons head rest ih =>
    obtain ⟨t, x⟩ := head
    rw [List.cons_append, lookup, lookup, ih]
    split
    · rfl
    · rfl

/-- Of the values that are inserted for a site, the last one is found. -/
theorem find?_foldl_insert (xs : List (Site × α)) (m : SiteMap α) (s : Site) :
    (xs.foldl (fun m x => m.insert x.1 x.2) m).find? s = (lookup s xs.reverse).or (m.find? s) := by
  induction xs generalizing m with
  | nil => rfl
  | cons head rest ih =>
    obtain ⟨t, x⟩ := head
    rw [List.foldl_cons, ih, List.reverse_cons, lookup_append, Option.or_assoc]
    congr 1
    by_cases hts : t = s
    · rw [hts, find?_insert_self, lookup, if_pos rfl, Option.some_or]
    · rw [find?_insert_of_ne (Ne.symm hts), lookup, if_neg hts, lookup, Option.none_or]

/-! ## Section 2: Equality -/

theorem lookup_injective {xs ys : List (Site × α)}
    (hxs : (xs.map Prod.fst).Pairwise fun a b => a.text < b.text)
    (hys : (ys.map Prod.fst).Pairwise fun a b => a.text < b.text)
    (hagree : ∀ s, lookup s xs = lookup s ys) : xs = ys := by
  induction xs generalizing ys with
  | nil =>
    cases ys with
    | nil => rfl
    | cons head rest => simpa [lookup] using hagree head.1
  | cons first xs ih =>
    cases ys with
    | nil => simpa [lookup] using hagree first.1
    | cons second ys =>
      obtain ⟨t, x⟩ := first
      obtain ⟨u, y⟩ := second
      have ht : lookup t ((u, y) :: ys) = some x := by rw [← hagree, lookup, if_pos rfl]
      have hu : lookup u ((t, x) :: xs) = some y := by rw [hagree, lookup, if_pos rfl]
      -- Each of the first sites is found in the other list, so neither is behind the other.
      have htu : t = u := by
        rcases eq_or_lt_of_lookup hys ht with heq | hlt
        · exact heq.symm
        · rcases eq_or_lt_of_lookup hxs hu with heq | hgt
          · exact heq
          · exact absurd (String.lt_trans hlt hgt) (String.lt_irrefl u.text)
      subst htu
      have hxy : x = y := by
        rw [lookup, if_pos rfl] at ht
        exact (Option.some.inj ht).symm
      have hrest : xs = ys := by
        refine ih (List.pairwise_cons.mp hxs).2 (List.pairwise_cons.mp hys).2 fun s => ?_
        by_cases hts : t = s
        · rw [← hts, lookup_rest hxs, lookup_rest hys]
        · have hs := hagree s
          rwa [lookup, if_neg hts, lookup, if_neg hts] at hs
      rw [hxy, hrest]

/-- Maps that answer alike at every site are equal. -/
theorem ext_find? {m n : SiteMap α} (hagree : ∀ s, m.find? s = n.find? s) : m = n := by
  obtain ⟨xs, hxs⟩ := m
  obtain ⟨ys, hys⟩ := n
  have hentries : xs = ys := lookup_injective hxs hys hagree
  subst hentries
  rfl

/-- A map does not change when a site gets the value that it has. -/
theorem insert_find? {m : SiteMap α} {s : Site} {x : α} (hfound : m.find? s = some x) :
    m.insert s x = m := by
  apply ext_find?
  intro t
  by_cases hts : t = s
  · rw [hts, find?_insert_self, hfound]
  · exact find?_insert_of_ne hts m x

end SiteMap

end ChassisRegistry
