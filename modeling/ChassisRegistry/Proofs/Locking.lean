import ChassisRegistry.Proofs.Interleaving

/-! # The locks of the sites

    Which visits wait for a lock, which one has it, and in which order they
    came by it. Nothing here depends on what the visits do with the entries.

    The invariant is `Workload.Orderly`: a visit is inside exactly when it is
    the holder of its site, and those that queued up for a site are those that
    acquired its lock and behind them those that wait, without a change of
    order. It is preserved by every step (`Orderly.moves`). -/

namespace ChassisRegistry

variable {ι : Type}

/-! ## Section 1: The invariant -/

/-- The visit has queued up, if it was not refused. -/
def Phase.HasQueued : Phase → Prop
  | outside | found => False
  | _ => True

namespace Workload

variable {load : Workload ι} {s : Site} {t : ι}

/-- What holds of the locks at any time. -/
structure Orderly (load : Workload ι) (w : World ι) : Prop where
  /-- The visits that are inside are the holders of their sites. -/
  holds : ∀ t, (w.phase t).Inside ↔ w.holder (load.site t) = some t
  /-- A lock is held by a visit of its own site. -/
  own : ∀ s t, w.holder s = some t → load.site t = s
  /-- The queue of a site is made of its visits that wait. -/
  inLine : ∀ s t, t ∈ w.queue s ↔ load.site t = s ∧ w.phase t = .queued
  /-- The lock is acquired in the order of the queue. -/
  order : ∀ s, load.ofSite s w.queued = load.ofSite s w.acquired ++ w.queue s
  /-- Nobody queues up twice. -/
  nodup : w.queued.Nodup
  /-- Who has queued up is no longer about to. -/
  past : ∀ t ∈ w.queued, (w.phase t).HasQueued

theorem orderly_start (load : Workload ι) (g : Registry) : load.Orderly (.start g) where
  holds t := by simp [World.start, Phase.Inside]
  own s t h := by cases h
  inLine s t := by simp [World.start]
  order s := rfl
  nodup := List.nodup_nil
  past t h := by cases h

namespace Orderly

variable {w w' : World ι}

/-- Who acquired a lock has queued up for it. -/
theorem mem_queued (h : load.Orderly w) (hacquired : t ∈ w.acquired) : t ∈ w.queued := by
  have hmem : t ∈ load.ofSite (load.site t) w.queued := by
    rw [h.order]
    exact List.mem_append_left _ (mem_ofSite.mpr ⟨hacquired, rfl⟩)
  exact (mem_ofSite.mp hmem).1

/-- A visit that is not inside holds no lock. -/
theorem ne_of_holder (h : load.Orderly w) (houtside : ¬ (w.phase t).Inside) {u : ι}
    (hheld : w.holder s = some u) : u ≠ t := by
  rintro rfl
  exact houtside ((h.holds u).mpr (by rw [h.own s u hheld, hheld]))

/-- A visit holds no lock of another site. -/
theorem ne_of_site (h : load.Orderly w) (hsite : s ≠ load.site t) {u : ι}
    (hheld : w.holder s = some u) : u ≠ t := by
  rintro rfl
  exact hsite (h.own s u hheld).symm

/-- No lock is acquired twice by the same visit. -/
theorem nodup_ofSite (h : load.Orderly w) (s : Site) : (load.ofSite s w.acquired).Nodup := by
  have hnodup : (load.ofSite s w.queued).Nodup := h.nodup.filter _
  rw [h.order] at hnodup
  exact (List.nodup_append.mp hnodup).1

/-- When all visits are over, nobody waits or holds a lock. -/
theorem of_finished (h : load.Orderly w) (hfinished : w.Finished) (s : Site) :
    w.holder s = none ∧ w.queue s = [] := by
  constructor
  · rw [Option.eq_none_iff_forall_ne_some]
    intro t hholder
    have hinside : (w.phase t).Inside := by rw [h.holds, h.own s t hholder, hholder]
    have hover := hfinished t
    cases hphase : w.phase t <;> rw [hphase] at hinside hover <;>
      first | exact hinside | exact hover
  · rw [List.eq_nil_iff_forall_not_mem]
    intro t hmem
    have hover := hfinished t
    rw [((h.inLine s t).mp hmem).2] at hover
    exact hover

/-! ## Section 2: One step -/

variable [DecidableEq ι]

/-- A step that leaves the locks alone. -/
theorem of_phase (h : load.Orderly w) {p : Phase} (hphase : w'.phase = Function.update w.phase t p)
    (hholder : w'.holder = w.holder) (hqueue : w'.queue = w.queue) (hqueued : w'.queued = w.queued)
    (hacquired : w'.acquired = w.acquired) (hinside : p.Inside ↔ (w.phase t).Inside)
    (hbefore : w.phase t ≠ .queued) (hafter : p ≠ .queued)
    (hpast : (w.phase t).HasQueued → p.HasQueued) : load.Orderly w' where
  holds u := by
    rw [hphase, hholder]
    by_cases hut : u = t
    · rw [hut, Function.update_self, hinside, h.holds]
    · rw [Function.update_of_ne hut, h.holds]
  own s u := by
    rw [hholder]
    exact h.own s u
  inLine s u := by
    rw [hphase, hqueue, h.inLine]
    by_cases hut : u = t
    · rw [hut, Function.update_self]
      simp [hbefore, hafter]
    · rw [Function.update_of_ne hut]
  order s := by rw [hqueued, hacquired, hqueue, h.order]
  nodup := by
    rw [hqueued]
    exact h.nodup
  past u hu := by
    rw [hqueued] at hu
    rw [hphase]
    by_cases hut : u = t
    · subst hut
      rw [Function.update_self]
      exact hpast (h.past u hu)
    · rw [Function.update_of_ne hut]
      exact h.past u hu

theorem lookUp (h : load.Orderly w) (hphase : w.phase t = .outside) :
    load.Orderly (load.lookUp w t) := by
  refine h.of_phase rfl rfl rfl rfl rfl ?_ ?_ ?_ ?_
  · rw [hphase]
    cases (load.visit t).screen w.registry <;> exact Iff.rfl
  · rw [hphase]
    nofun
  · cases (load.visit t).screen w.registry <;> nofun
  · rw [hphase]
    nofun

theorem queueUp (h : load.Orderly w) (hphase : w.phase t = .found) :
    load.Orderly (load.queueUp w t) := by
  -- A visit that is about to queue up has not done so before.
  have hnew : t ∉ w.queued := by
    intro hmem
    have hpast := h.past t hmem
    rw [hphase] at hpast
    exact hpast
  refine { holds := ?_, own := h.own, inLine := ?_, order := ?_, nodup := ?_, past := ?_ }
  · intro u
    show (Function.update w.phase t .queued u).Inside ↔ _
    by_cases hut : u = t
    · have hholds := h.holds t
      rw [hphase] at hholds
      rw [hut, Function.update_self]
      exact hholds
    · rw [Function.update_of_ne hut]
      exact h.holds u
  · intro s u
    show u ∈ Function.update w.queue (load.site t) _ s ↔
      _ ∧ Function.update w.phase t .queued u = _
    by_cases hut : u = t
    · subst hut
      rw [Function.update_self]
      by_cases hs : load.site u = s
      · simp [← hs]
      · rw [Function.update_of_ne (Ne.symm hs), h.inLine]
        simp [hs]
    · rw [Function.update_of_ne hut, ← h.inLine]
      by_cases hs : s = load.site t
      · simp [hs, hut]
      · rw [Function.update_of_ne hs]
  · intro s
    show load.ofSite s (w.queued ++ [t]) =
      load.ofSite s w.acquired ++ Function.update w.queue (load.site t) _ s
    by_cases hs : load.site t = s
    · rw [ofSite_concat_self hs, h.order, hs, Function.update_self, List.append_assoc]
    · rw [ofSite_concat_of_ne hs, h.order, Function.update_of_ne (Ne.symm hs)]
  · show (w.queued ++ [t]).Nodup
    exact List.nodup_append.mpr ⟨h.nodup, by simp, by
      intro u hu v hv huv
      rw [List.mem_singleton] at hv
      exact hnew (hv ▸ huv ▸ hu)⟩
  · intro u hu
    show (Function.update w.phase t .queued u).HasQueued
    by_cases hut : u = t
    · rw [hut, Function.update_self]
      trivial
    · rw [Function.update_of_ne hut]
      rcases List.mem_append.mp hu with hu | hu
      · exact h.past u hu
      · exact absurd (List.mem_singleton.mp hu) hut

theorem acquire (h : load.Orderly w) {rest : List ι} (hphase : w.phase t = .queued)
    (hfree : w.holder (load.site t) = none) (hqueue : w.queue (load.site t) = t :: rest) :
    load.Orderly (load.acquire w t) := by
  -- In the order of queueing nobody is named twice, and the queue is the end of that order.
  have hnot : t ∉ rest := by
    have hnodup : (load.ofSite (load.site t) w.queued).Nodup := h.nodup.filter _
    rw [h.order, hqueue] at hnodup
    exact (List.nodup_cons.mp (List.nodup_append.mp hnodup).2.1).1
  have htail : (w.queue (load.site t)).tail = rest := by rw [hqueue, List.tail_cons]
  refine { holds := ?_, own := ?_, inLine := ?_, order := ?_, nodup := h.nodup, past := ?_ }
  · intro u
    show (Function.update w.phase t _ u).Inside ↔
      Function.update w.holder (load.site t) (some t) (load.site u) = some u
    by_cases hut : u = t
    · rw [hut, Function.update_self, Function.update_self]
      simp [Phase.Inside]
    · rw [Function.update_of_ne hut, h.holds]
      by_cases hs : load.site u = load.site t
      · rw [hs, Function.update_self, hfree]
        simp [Ne.symm hut]
      · rw [Function.update_of_ne hs]
  · intro s u hholder
    have hholder : Function.update w.holder (load.site t) (some t) s = some u := hholder
    by_cases hs : s = load.site t
    · rw [hs, Function.update_self, Option.some.injEq] at hholder
      rw [← hholder, hs]
    · rw [Function.update_of_ne hs] at hholder
      exact h.own s u hholder
  · intro s u
    show u ∈ Function.update w.queue (load.site t) _ s ↔ _ ∧ Function.update w.phase t _ u = _
    rw [htail]
    by_cases hut : u = t
    · subst hut
      rw [Function.update_self]
      by_cases hs : load.site u = s
      · simp [← hs, hnot]
      · rw [Function.update_of_ne (Ne.symm hs), h.inLine]
        simp [hs]
    · rw [Function.update_of_ne hut, ← h.inLine]
      by_cases hs : s = load.site t
      · rw [hs, Function.update_self, hqueue]
        simp [hut]
      · rw [Function.update_of_ne hs]
  · intro s
    show load.ofSite s w.queued =
      load.ofSite s (w.acquired ++ [t]) ++ Function.update w.queue (load.site t) _ s
    -- At its own site the visit goes from the front of the queue to the end of those that acquired.
    by_cases hs : load.site t = s
    · rw [ofSite_concat_self hs, h.order, ← hs, Function.update_self, htail, hqueue,
        List.append_assoc, List.singleton_append]
    · rw [ofSite_concat_of_ne hs, h.order, Function.update_of_ne (Ne.symm hs)]
  · intro u hu
    show (Function.update w.phase t _ u).HasQueued
    by_cases hut : u = t
    · rw [hut, Function.update_self]
      trivial
    · rw [Function.update_of_ne hut]
      exact h.past u hu

theorem release (h : load.Orderly w) {result : Visit.Result}
    (hinside : (w.phase t).Inside) : load.Orderly (load.release w t result) := by
  -- The visit that releases is the holder, so nobody else is inside at this site.
  have hholder : w.holder (load.site t) = some t := (h.holds t).mp hinside
  refine { holds := ?_, own := ?_, inLine := ?_, order := h.order, nodup := h.nodup, past := ?_ }
  · intro u
    show (Function.update w.phase t (.done result) u).Inside ↔
      Function.update w.holder (load.site t) none (load.site u) = some u
    by_cases hut : u = t
    · rw [hut, Function.update_self, Function.update_self]
      simp [Phase.Inside]
    · rw [Function.update_of_ne hut, h.holds]
      by_cases hs : load.site u = load.site t
      · rw [hs, Function.update_self, hholder]
        simp [Ne.symm hut]
      · rw [Function.update_of_ne hs]
  · intro s u hheld
    have hheld : Function.update w.holder (load.site t) none s = some u := hheld
    by_cases hs : s = load.site t
    · rw [hs, Function.update_self] at hheld
      cases hheld
    · rw [Function.update_of_ne hs] at hheld
      exact h.own s u hheld
  · intro s u
    show u ∈ w.queue s ↔ _ ∧ Function.update w.phase t (.done result) u = _
    rw [h.inLine]
    by_cases hut : u = t
    · rw [hut, Function.update_self]
      cases hphase : w.phase t <;> rw [hphase] at hinside <;> simp
      exact absurd hinside id
    · rw [Function.update_of_ne hut]
  · intro u hu
    show (Function.update w.phase t (.done result) u).HasQueued
    by_cases hut : u = t
    · rw [hut, Function.update_self]
      trivial
    · rw [Function.update_of_ne hut]
      exact h.past u hu

/-- Every step keeps the locks in order. -/
theorem moves (h : load.Orderly w) (hmoves : load.Moves w t w') : load.Orderly w' := by
  cases hmoves with
  | lookUp hphase => exact h.lookUp hphase
  | queueUp hphase => exact h.queueUp hphase
  | acquire hphase hfree hqueue => exact h.acquire hphase hfree hqueue
  -- Inside a turn the visit stays inside, and the queues are as they were.
  | access hphase _ | send hphase | receive hphase =>
    refine h.of_phase rfl rfl rfl rfl rfl ?_ ?_ ?_ ?_
    · rw [hphase]
      exact Iff.rfl
    · rw [hphase]
      nofun
    · nofun
    · exact fun _ => trivial
  | release hphase =>
    refine h.release ?_
    rw [hphase]
    trivial

end Orderly

end Workload

end ChassisRegistry
