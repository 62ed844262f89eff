import ChassisRegistry.Proofs.Interleaving
import Mathlib.Data.List.Induction

/-! # Visits one by one

    `Workload.oneByOne` is what visits come to when each of them is performed
    in one go, one after the other, and `Ledger` is what is kept of it: the
    registry, the answers, and the messages sent for each site.

    A site takes part in nothing but its own visits: with the visits of the
    other sites left out, it comes to the same (`Workload.oneByOne_ofSite`). -/

namespace ChassisRegistry

variable {ι : Type}

/-! ## Section 1: The ledger -/

/-- What visits came to that were performed one after the other. -/
structure Ledger (ι : Type) where
  registry : Registry
  answer   : ι → Option Visit.Result
  sent     : Site → List Message

namespace Workload

variable [DecidableEq ι]

/-- Performs a visit in one go. -/
def perform (load : Workload ι) (b : Ledger ι) (t : ι) : Ledger ι :=
  let (result, g, sent) := (load.visit t).alone (load.script t) b.registry
  { registry := g
    answer   := Function.update b.answer t (some result)
    sent     := Function.update b.sent (load.site t) (b.sent (load.site t) ++ sent) }

/-- Performs visits one after the other. -/
def oneByOne (load : Workload ι) (g : Registry) (order : List ι) : Ledger ι :=
  order.foldl load.perform ⟨g, fun _ => none, fun _ => []⟩

variable {load : Workload ι} {g g' : Registry} {b b' : Ledger ι} {s : Site} {t : ι}

theorem oneByOne_concat (g : Registry) (order : List ι) (t : ι) :
    load.oneByOne g (order ++ [t]) = load.perform (load.oneByOne g order) t := by
  rw [oneByOne, List.foldl_append]
  rfl

theorem perform_answer_of_ne {u : ι} (hut : u ≠ t) :
    (load.perform b t).answer u = b.answer u := Function.update_of_ne hut _ _

/-- Who was not performed has no answer. -/
theorem answer_of_not_mem {order : List ι} (hmem : t ∉ order) :
    (load.oneByOne g order).answer t = none := by
  induction order using List.reverseRecOn with
  | nil => rfl
  | append_singleton order u ih =>
    rw [List.mem_append, List.mem_singleton, not_or] at hmem
    rw [oneByOne_concat, perform_answer_of_ne hmem.2, ih hmem.1]

/-- A refused visit is answered and does nothing. -/
theorem perform_of_refused {x : RegistryError}
    (hscreen : (load.visit t).screen b.registry = .error x) :
    load.perform b t = { b with answer := Function.update b.answer t (some (.error x)) } := by
  simp only [perform, Visit.alone_of_refused hscreen, List.append_nil, Function.update_eq_self]

/-- An admitted visit runs its turn on the entry of its site. -/
theorem perform_of_admitted {e e' : Entry} {result : Visit.Result} {sent : List Message}
    (hscreen : (load.visit t).screen b.registry = .ok ())
    (hfound : b.registry.entries.find? (load.site t) = some e)
    (hrun : (load.visit t).turn.run (load.script t) e [] = (result, e', sent)) :
    load.perform b t =
      { registry := b.registry.put (load.site t) e'
        answer   := Function.update b.answer t (some result)
        sent     := Function.update b.sent (load.site t) (b.sent (load.site t) ++ sent) } := by
  simp only [perform, Visit.alone_of_admitted hscreen hfound hrun]
  rfl

/-! ## Section 2: One site -/

/-- Two ledgers agree in everything that concerns a site. -/
structure AgreeAt (load : Workload ι) (s : Site) (b b' : Ledger ι) : Prop where
  entry   : b.registry.entries.find? s = b'.registry.entries.find? s
  sent    : b.sent s = b'.sent s
  answers : ∀ t, load.site t = s → b.answer t = b'.answer t

/-- A visit leaves the other sites alone. -/
theorem AgreeAt.other (h : load.AgreeAt s b b') (hsite : load.site t ≠ s) :
    load.AgreeAt s (load.perform b t) b' := by
  have hanswers : ∀ {result} u, load.site u = s →
      Function.update b.answer t (some result) u = b'.answer u := by
    intro result u hu
    have hut : u ≠ t := by
      rintro rfl
      exact hsite hu
    rw [Function.update_of_ne hut]
    exact h.answers u hu
  cases hscreen : (load.visit t).screen b.registry with
  | error x =>
    rw [perform_of_refused hscreen]
    exact ⟨h.entry, h.sent, hanswers⟩
  | ok _ =>
    obtain ⟨e, hfound⟩ := Visit.exists_entry hscreen
    rw [perform_of_admitted hscreen hfound rfl]
    refine ⟨?_, ?_, hanswers⟩
    · exact (SiteMap.find?_insert_of_ne (Ne.symm hsite) _ _).trans h.entry
    · exact (Function.update_of_ne (Ne.symm hsite) _ _).trans h.sent

/-- What a visit does to its own site depends on that site only. -/
theorem AgreeAt.own (h : load.AgreeAt s b b') (hsite : load.site t = s) :
    load.AgreeAt s (load.perform b t) (load.perform b' t) := by
  subst hsite
  have hanswers : ∀ {result} u, load.site u = load.site t →
      Function.update b.answer t (some result) u = Function.update b'.answer t (some result) u := by
    intro result u hu
    by_cases hut : u = t
    · rw [hut, Function.update_self, Function.update_self]
    · rw [Function.update_of_ne hut, Function.update_of_ne hut]
      exact h.answers u hu
  -- Both ledgers admit the visit or both refuse it, as they agree on the entry of its site.
  have hsame : (load.visit t).screen b'.registry = (load.visit t).screen b.registry :=
    Visit.screen_congr (congrArg Option.isSome h.entry.symm)
  cases hscreen : (load.visit t).screen b.registry with
  | error x =>
    rw [perform_of_refused hscreen, perform_of_refused (hsame.trans hscreen)]
    exact ⟨h.entry, h.sent, hanswers⟩
  | ok _ =>
    obtain ⟨e, hfound⟩ := Visit.exists_entry hscreen
    have hfound' : b'.registry.entries.find? (load.site t) = some e := h.entry.symm.trans hfound
    rw [perform_of_admitted hscreen hfound rfl,
      perform_of_admitted (hsame.trans hscreen) hfound' rfl]
    refine ⟨?_, ?_, hanswers⟩
    · exact (SiteMap.find?_insert_self _ _ _).trans (SiteMap.find?_insert_self _ _ _).symm
    · simp only [Function.update_self, h.sent]

/-- **Non-interference**: a site comes to the same when the visits of all other sites are left out
    and their records are others. -/
theorem oneByOne_ofSite (hentry : g.entries.find? s = g'.entries.find? s) (order : List ι) :
    load.AgreeAt s (load.oneByOne g order) (load.oneByOne g' (load.ofSite s order)) := by
  -- On the order from its end: the last visit is one of the site, or it leaves the site alone.
  induction order using List.reverseRecOn with
  | nil => exact ⟨hentry, rfl, fun _ _ => rfl⟩
  | append_singleton order t ih =>
    rw [oneByOne_concat]
    by_cases hsite : load.site t = s
    · rw [ofSite_concat_self hsite, oneByOne_concat]
      exact ih.own hsite
    · rw [ofSite_concat_of_ne hsite]
      exact ih.other hsite

/-- Visits make no site come or go. -/
theorem isSome_oneByOne (g : Registry) (order : List ι) (s : Site) :
    ((load.oneByOne g order).registry.entries.find? s).isSome = (g.entries.find? s).isSome := by
  induction order using List.reverseRecOn with
  | nil => rfl
  | append_singleton order t ih =>
    rw [oneByOne_concat, ← ih]
    cases hscreen : (load.visit t).screen (load.oneByOne g order).registry with
    | error x => rw [perform_of_refused hscreen]
    | ok _ =>
      obtain ⟨e, hfound⟩ := Visit.exists_entry hscreen
      rw [perform_of_admitted hscreen hfound rfl]
      by_cases hs : s = load.site t
      · rw [hs]
        exact (congrArg Option.isSome (SiteMap.find?_insert_self _ _ _)).trans
          (congrArg Option.isSome hfound).symm
      · exact congrArg Option.isSome (SiteMap.find?_insert_of_ne hs _ _)

end Workload

end ChassisRegistry
