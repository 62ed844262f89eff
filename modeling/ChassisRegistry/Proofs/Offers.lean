import ChassisRegistry.Proofs.Durability
import ChassisRegistry.Proofs.Triggers
import Mathlib.Data.List.Induction

/-! # What a flusher offers

    A change that the sink has not taken leaves its mark. So a pass that began
    after the change offers the site, whatever else happens meanwhile, and
    offers it as it is then. Every offer is a store of the sink, and nothing
    else is done to the sink, so what it took last of a site it holds.

    Main statements: `FlushLoop.Offering.moves`, `FlushLoop.stores_moves` and
    `FlushLoop.Holding.moves`. -/

namespace ChassisRegistry

variable {σ : Type}

/-! ## Section 1: Changes in the log -/

namespace Deed

/-- The site was changed, and the sink has not taken it since. -/
def Unsaved (site : Site) : List Deed → Prop :=
  Since (fun _ d => ∃ r, d = .changed site r) (fun d => ∀ r, d ≠ .offered site r true)

/-- A pass has begun with a change that the sink had not taken, and has not offered the site
    since. -/
def Unvisited (cause : FlushCause) (site : Site) : List Deed → Prop :=
  Since (fun before d => d = .began cause ∧ Unsaved site before)
    (fun d => ∀ r taken, d ≠ .offered site r taken)

/-- This is what the sink took last of the site. -/
def Held (site : Site) (r : Record) : List Deed → Prop :=
  Since (fun _ d => d = .offered site r true) (fun d => ∀ r', d ≠ .offered site r' true)

/-- The site is as its last change left it, or as it was in the registry at the start. -/
def Latest (g : Registry) (site : Site) (r : Record) (deeds : List Deed) : Prop :=
  Since (fun _ d => d = .changed site r) (fun d => ∀ r', d ≠ .changed site r') deeds ∨
    (∀ r', .changed site r' ∉ deeds) ∧ ∃ e, g.entries.find? site = some e ∧ e.record = r

variable {deeds : List Deed} {d : Deed} {cause : FlushCause} {site : Site} {r : Record}
  {g : Registry}

@[simp] theorem unsaved_concat : Unsaved site (deeds ++ [d]) ↔
    (∃ r, d = .changed site r) ∨ Unsaved site deeds ∧ ∀ r, d ≠ .offered site r true :=
  since_concat

@[simp] theorem unvisited_concat : Unvisited cause site (deeds ++ [d]) ↔
    (d = .began cause ∧ Unsaved site deeds) ∨
      Unvisited cause site deeds ∧ ∀ r taken, d ≠ .offered site r taken :=
  since_concat

@[simp] theorem held_concat : Held site r (deeds ++ [d]) ↔
    d = .offered site r true ∨ Held site r deeds ∧ ∀ r', d ≠ .offered site r' true :=
  since_concat

/-- What a pass has not offered yet, the sink has not taken since the change. -/
theorem Unvisited.unsaved (h : Unvisited cause site deeds) : Unsaved site deeds := by
  obtain ⟨before, d, later, rfl, ⟨rfl, hunsaved⟩, hlater⟩ := h
  refine hunsaved.append fun d hd r => ?_
  rcases List.mem_cons.mp hd with rfl | hd
  · simp
  · exact hlater d hd r true

/-- Only a change of the site makes its record another one. -/
theorem Latest.concat (h : Latest g site r deeds) (hd : ∀ r', d ≠ .changed site r') :
    Latest g site r (deeds ++ [d]) := by
  rcases h with h | ⟨hnone, hfound⟩
  · exact .inl (since_concat.mpr (.inr ⟨h, hd⟩))
  · exact .inr ⟨fun r' => by simpa using ⟨hnone r', (hd r').symm⟩, hfound⟩

theorem latest_changed : Latest g site r (deeds ++ [.changed site r]) :=
  .inl (since_concat.mpr (.inl rfl))

/-- The offers in a log are stores of the sink, one after the other, each with the answer that was
    noted down. They take the content of the sink from `s` to where it is. -/
inductive Stores (sink : Sink σ) (s : σ) : List Deed → σ → Prop where
  | start : Stores sink s [] s
  | other {deeds : List Deed} {d : Deed} {s' : σ} (h : Stores sink s deeds s')
      (hother : ∀ site r taken, d ≠ .offered site r taken) : Stores sink s (deeds ++ [d]) s'
  | store {deeds : List Deed} {site : Site} {r : Record} {result : Except SinkError Unit}
      {s' s'' : σ} (h : Stores sink s deeds s')
      (hstore : sink.store site (Snapshot.write r).toUTF8 s' = (result, s'')) :
      Stores sink s (deeds ++ [.offered site r result.isOk]) s''

/-- Where nothing is offered the sink stays as it is. -/
theorem stores_of_no_offer (sink : Sink σ) (s : σ)
    (hnone : ∀ d ∈ deeds, ∀ site r taken, d ≠ .offered site r taken) : Stores sink s deeds s := by
  induction deeds using List.reverseRecOn with
  | nil => exact .start
  | append_singleton deeds d ih =>
    have hbefore : Stores sink s deeds s := ih fun d' hmem => hnone d' (by simp [hmem])
    exact hbefore.other (hnone d (by simp))

/-- An offer in the log is a store, made when the sink had come to be as the log tells. -/
theorem Stores.split {sink : Sink σ} {s s' : σ} {before later : List Deed} {taken : Bool}
    (h : Stores sink s (before ++ .offered site r taken :: later) s') :
    ∃ result t t', result.isOk = taken ∧ Stores sink s before t ∧
      sink.store site (Snapshot.write r).toUTF8 t = (result, t') := by
  generalize hlog : before ++ .offered site r taken :: later = log at h
  induction h generalizing later with
  | start => simp at hlog
  | other _ hother ih =>
    rcases concat_eq_append_cons_iff.mp hlog.symm with ⟨-, hd, -⟩ | ⟨later', -, hlog'⟩
    · exact absurd hd (hother site r taken)
    · exact ih hlog'.symm
  | store hbefore hstore ih =>
    rcases concat_eq_append_cons_iff.mp hlog.symm with ⟨rfl, hd, -⟩ | ⟨later', -, hlog'⟩
    · cases hd
      exact ⟨_, _, _, rfl, hbefore, hstore⟩
    · exact ih hlog'.symm

end Deed

/-! ## Section 2: Marks and offers -/

namespace FlushLoop

open Deed

/-- Marks, sites to be visited and offers are in step with the changes since the registry was
    this one. -/
structure Offering (g : Registry) (w : FlushLoop σ) : Prop where
  marked  : ∀ {site}, Unsaved site w.deeds →
    ∃ e, w.registry.entries.find? site = some e ∧ e.dirty = true
  visited : ∀ {cause site}, Unvisited cause site w.deeds →
    ∃ todo report, w.phase = .passing cause todo report ∧ site ∈ todo
  present : ∀ {site e}, w.registry.entries.find? site = some e → Latest g site e.record w.deeds
  offers  : Throughout (fun before d => ∀ site r taken, d = .offered site r taken →
    Latest g site r before) w.deeds

variable {g : Registry} {sink : Sink σ} {w w' : FlushLoop σ}

theorem Offering.moves (h : w.Offering g) (hmoves : Moves sink w w') : w'.Offering g where
  marked := by
    intro site
    have hmarked := @h.marked site
    cases hmoves with
    | idle | ticked | clean => exact hmarked
    | changed other hown =>
      by_cases heq : site = other
      · subst heq
        exact fun _ => ⟨_, SiteMap.find?_insert_self _ _ _, rfl⟩
      · simpa [Registry.put, SiteMap.find?_insert_of_ne heq, Ne.symm heq] using hmarked
    | @stored cause other todo report e s hphase hfound hstore =>
      by_cases heq : site = other
      · simp [heq]
      · simpa [Registry.put, SiteMap.find?_insert_of_ne heq, Ne.symm heq] using hmarked
    | _ => simpa [choose] using hmarked
  visited := by
    intro cause site
    have hvisited := @h.visited cause site
    cases hmoves with
    | idle | ticked => exact hvisited
    | changed | told | woken | asked => simpa using hvisited
    | chose hphase => simpa [choose, hphase] using hvisited
    | began hphase =>
      have hnot : ¬ Unvisited cause site w.deeds := by simpa [hphase] using hvisited
      intro hunvisited
      simp only [unvisited_concat, hnot, false_and, or_false] at hunvisited
      obtain ⟨heq, hunsaved⟩ := hunvisited
      cases heq
      obtain ⟨e, hfound, -⟩ := h.marked hunsaved
      exact ⟨_, _, rfl, SiteMap.contains_iff.mp (by simp [SiteMap.contains, hfound])⟩
    | @stored _ other _ _ e _ hphase | @failed _ other _ _ e _ _ hphase =>
      intro hunvisited
      simp only [unvisited_concat, reduceCtorEq, false_and, false_or] at hunvisited
      have hne : site ≠ other := by
        rintro rfl
        exact hunvisited.2 _ _ rfl
      obtain ⟨todo', report', heq, hmem⟩ := hvisited hunvisited.1
      cases hphase.symm.trans heq
      exact ⟨_, _, rfl, (List.mem_cons.mp hmem).resolve_left hne⟩
    | clean hphase hfound hclean =>
      intro hunvisited
      obtain ⟨todo', report', heq, hmem⟩ := hvisited hunvisited
      cases hphase.symm.trans heq
      refine ⟨_, _, rfl, (List.mem_cons.mp hmem).resolve_left ?_⟩
      -- A site that has not been offered since it was changed still has its mark.
      rintro rfl
      obtain ⟨e, hfound', hdirty⟩ := h.marked hunvisited.unsaved
      cases hfound.symm.trans hfound'
      exact absurd hdirty (by simp [hclean])
    | ended hphase =>
      intro hunvisited
      simp only [unvisited_concat, reduceCtorEq, false_and, false_or] at hunvisited
      obtain ⟨todo', report', heq, hmem⟩ := hvisited hunvisited.1
      cases hphase.symm.trans heq
      exact absurd hmem List.not_mem_nil
  present := by
    intro site e hfound'
    cases hmoves with
    | idle | ticked | clean => exact h.present hfound'
    | changed other hown =>
      by_cases heq : site = other
      · subst heq
        rw [Registry.put, SiteMap.find?_insert_self] at hfound'
        cases hfound'
        exact latest_changed
      · rw [Registry.put, SiteMap.find?_insert_of_ne heq] at hfound'
        exact (h.present hfound').concat (by simpa using fun h => absurd h.symm heq)
    | @stored cause other todo report e s hphase hfound hstore =>
      by_cases heq : site = other
      · subst heq
        rw [Registry.put, SiteMap.find?_insert_self] at hfound'
        cases hfound'
        exact (h.present hfound).concat (by simp)
      · rw [Registry.put, SiteMap.find?_insert_of_ne heq] at hfound'
        exact (h.present hfound').concat (by simp)
    | _ => exact (h.present hfound').concat (by simp)
  offers := by
    cases hmoves with
    | idle | ticked | clean => exact h.offers
    | stored hphase hfound hstore =>
      refine throughout_concat.mpr ⟨h.offers, fun site r taken heq => ?_⟩
      cases heq
      exact h.present hfound
    | failed hphase hfound hdirty hstore =>
      refine throughout_concat.mpr ⟨h.offers, fun site r taken heq => ?_⟩
      cases heq
      exact h.present hfound
    | _ => exact throughout_concat.mpr ⟨h.offers, by simp⟩

theorem offering_start {interval now : Nat} (positive : 0 < interval) (g : Registry) (s : σ) :
    (start interval positive now g s).Offering g where
  marked := by
    intro site hunsaved
    obtain ⟨-, d, hmem, r, rfl⟩ := Since.exists_mem hunsaved
    obtain ⟨site, e, hfound, hdirty, heq⟩ := Registry.exists_of_mem_marks hmem
    cases heq
    exact ⟨e, hfound, hdirty⟩
  visited := by
    intro cause site hunvisited
    obtain ⟨-, d, hmem, rfl, -⟩ := Since.exists_mem hunvisited
    exact absurd hmem (Registry.not_mem_marks rfl)
  present := by
    intro site e hfound
    by_cases hex : ∃ d ∈ g.marks, ∃ r, d = .changed site r
    · obtain ⟨before, d, later, heq, ⟨r, rfl⟩, hlast⟩ := exists_last hex
      obtain ⟨site, e', hfound', -, hd⟩ :=
        Registry.exists_of_mem_marks (g := g) (d := .changed site r) (by simp [heq])
      cases hd
      cases hfound.symm.trans hfound'
      exact .inl ⟨before, _, later, heq, rfl, fun d hd r' hd' => hlast d hd ⟨r', hd'⟩⟩
    · push Not at hex
      exact .inr ⟨fun r' hmem => hex _ hmem r' rfl, e, hfound, rfl⟩
  offers := throughout_of_mem fun d hmem before site r taken hd =>
    absurd hmem (Registry.not_mem_marks (by rw [hd]; rfl))

/-! ## Section 3: What the sink holds -/

/-- What is done to the sink is what the log says. -/
theorem stores_moves {s : σ} (h : Stores sink s w.deeds w.sink) (hmoves : Moves sink w w') :
    Stores sink s w'.deeds w'.sink := by
  cases hmoves with
  | idle | ticked | clean => exact h
  | stored _ _ hstore => exact h.store hstore
  | failed _ _ _ hstore => exact h.store hstore
  | _ => exact h.other (by simp)

theorem stores_start {interval now : Nat} (positive : 0 < interval) (g : Registry)
    (sink : Sink σ) (s : σ) : Stores sink s (start interval positive now g s).deeds s :=
  stores_of_no_offer sink s fun d hmem site r taken hd =>
    absurd hmem (Registry.not_mem_marks (by rw [hd]; rfl))

/-- The sink holds what it took last of each site. -/
def Holding (blobs : σ → Site → Option ByteArray) (w : FlushLoop σ) : Prop :=
  ∀ {site r}, Held site r w.deeds → blobs w.sink site = some (Snapshot.write r).toUTF8

theorem Holding.moves {blobs : σ → Site → Option ByteArray} (hkeeps : sink.Keeps blobs)
    (h : w.Holding blobs) (hmoves : Moves sink w w') : w'.Holding blobs := by
  intro site r
  have hheld := @h site r
  cases hmoves with
  | idle | ticked | clean => exact hheld
  | @stored _ other _ _ e s _ _ hstore =>
    simp only [held_concat, hkeeps.stored hstore]
    by_cases heq : site = other
    · subst heq
      simp +contextual
    · simpa [Function.update_of_ne heq, Ne.symm heq] using hheld
  | failed _ _ _ hstore => simpa [hkeeps.failed hstore] using hheld
  | _ => simpa [choose] using hheld

theorem holding_start {interval now : Nat} (positive : 0 < interval) (g : Registry) (s : σ)
    (blobs : σ → Site → Option ByteArray) : (start interval positive now g s).Holding blobs := by
  intro site r hheld
  obtain ⟨-, d, hmem, rfl⟩ := Since.exists_mem hheld
  exact absurd hmem (Registry.not_mem_marks rfl)

end FlushLoop

end ChassisRegistry
