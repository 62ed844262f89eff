import ChassisRegistry.Proofs.Activations
import ChassisRegistry.Proofs.Simulation

/-! # Serializability

    Visits to any number of sites that are under way together come to what
    they come to one by one: the records and marks, the answers, and the
    messages for each site are those of the ledger in the order in which the
    visits acquired their locks.

    Main statement: `Workload.serializable`. -/

namespace ChassisRegistry

variable {ι : Type}

namespace Workload

variable [DecidableEq ι] {load : Workload ι} {g : Registry} {w : World ι} {s : Site} {t : ι}

/-! ## Section 1: When all visits are over -/

namespace Serial

/-- Who has acquired a lock has the answer that the ledger says. -/
theorem exists_answer (h : load.Serial g w) (hfinished : w.Finished) (hmem : t ∈ w.acquired) :
    ∃ result, w.answer t = some result ∧
      (load.oneByOne g w.acquired).answer t = some result := by
  have hqueued := h.orderly.mem_queued hmem
  have hpast := h.orderly.past t hqueued
  have hover := hfinished t
  -- It has queued up, so it was started and admitted; and as it is over, it has a result.
  cases hphase : w.phase t with
  | done result =>
    refine ⟨result, by rw [World.answer, hphase], ?_⟩
    rcases h.answered t result hphase with ⟨x, hscreen, _⟩ | hanswer
    · rw [h.admitted t (Or.inr hqueued)] at hscreen
      cases hscreen
    · exact hanswer
  | outside =>
    rw [hphase] at hpast
    exact absurd hpast id
  | _ =>
    rw [hphase] at hover
    exact absurd hover id

/-- Who has an answer without the lock was refused when it looked its site up. -/
theorem exists_refusal (h : load.Serial g w) {result : Visit.Result} (hmem : t ∉ w.acquired)
    (hanswer : w.answer t = some result) :
    ∃ x, (load.visit t).screen g = .error x ∧ result = .error x := by
  unfold World.answer at hanswer
  split at hanswer
  · next hphase =>
    cases hanswer
    rcases h.answered t result hphase with hrefused | hledger
    · exact hrefused
    · rw [answer_of_not_mem hmem] at hledger
      cases hledger
  · cases hanswer

/-- The registry is the one of the ledger. -/
theorem registry_eq (h : load.Serial g w) (hfinished : w.Finished) :
    w.registry = (load.oneByOne g w.acquired).registry := by
  have hentries : w.registry.entries = (load.oneByOne g w.acquired).registry.entries :=
    SiteMap.ext_find? fun s =>
      ((h.inStep s).free (h.orderly.of_finished hfinished s).1).1
  rw [Registry.mk.injEq]
  exact hentries

end Serial

/-! ## Section 2: What a finished run comes to -/

/-- The first of the activations of a terminal succeeds and is the only one. -/
structure OnlyFirst (load : Workload ι) (w : World ι) (s : Site) (c : TerminalCoordinate)
    (name : Site) (first : ι) : Prop where
  site     : load.site first = s
  /-- No other visit to the site queued up before. -/
  earliest : (load.ofSite s w.queued).head? = some first
  succeeds : w.answer first = some (.ok (.answer (.state .active)))
  refused  : ∀ t, t ≠ first → load.site t = s → (w.answer t).isSome →
    w.answer t = some (.error (.chassis (.alreadyActive name c)))
  /-- One call is made for the site. -/
  call     : ∃ notice, w.sent s = [.call (.activate notice)]

/-- What visits come to that were under way together. -/
structure Serialized (load : Workload ι) (g : Registry) (w : World ι) : Prop where
  /-- Records and marks are those of the visits performed one by one, in the order in which they
      acquired the locks of their sites. -/
  registry : w.registry = (load.oneByOne g w.acquired).registry
  /-- So are the messages that were sent for each site. -/
  sent : w.sent = (load.oneByOne g w.acquired).sent
  /-- So are the answers. -/
  answers : ∀ t ∈ w.acquired, ∃ result, w.answer t = some result ∧
    (load.oneByOne g w.acquired).answer t = some result
  /-- A visit that was refused before it came to a lock is refused for the same reason, and does
      nothing, wherever in such an order it is performed. -/
  refused : ∀ t result, t ∉ w.acquired → w.answer t = some result → ∀ before,
    (load.visit t).alone (load.script t) (load.oneByOne g before).registry =
      (result, (load.oneByOne g before).registry, [])
  /-- A lock is acquired once by each visit, -/
  once : w.acquired.Nodup
  /-- and for each site in the order in which the visits queued up. -/
  order : ∀ s, load.ofSite s w.acquired = load.ofSite s w.queued
  /-- A site comes to the same without the visits, and with any records, of the other sites. -/
  apart : ∀ s g', g.entries.find? s = g'.entries.find? s →
    load.AgreeAt s (load.oneByOne g w.acquired) (load.oneByOne g' (load.ofSite s w.acquired))
  /-- When all visits to a site activate one terminal, which is inactive, and all calls are
      accepted, the first one succeeds with one call, and the others find the terminal active. -/
  activations : ∀ s c e, g.entries.find? s = some e → Record.Reachable e.record →
    e.record.terminalState c = .inactive →
    (∀ t, load.site t = s → (w.answer t).isSome → (load.visit t).Activates c) →
    (∀ t sent call, load.site t = s → load.script t sent (.call call) = .ok ()) →
    (∃ t, load.site t = s ∧ (w.answer t).isSome) →
    ∃ first, load.OnlyFirst w s c e.record.site first

/-! ## Section 3: Every run -/

/-- Activations that were under way together. -/
theorem Serial.onlyFirst (h : load.Serial g w) (hfinished : w.Finished) {c : TerminalCoordinate}
    {e : Entry} (hfound : g.entries.find? s = some e) (hreachable : Record.Reachable e.record)
    (hstate : e.record.terminalState c = .inactive)
    (hvisits : ∀ t, load.site t = s → (w.answer t).isSome → (load.visit t).Activates c)
    (haccept : ∀ t sent call, load.site t = s → load.script t sent (.call call) = .ok ())
    (hsome : ∃ t, load.site t = s ∧ (w.answer t).isSome) :
    ∃ first, load.OnlyFirst w s c e.record.site first := by
  have hqueue := (h.orderly.of_finished hfinished s).2
  have hsent := ((h.inStep s).free (h.orderly.of_finished hfinished s).1).2
  have horder : load.ofSite s w.queued = load.ofSite s w.acquired := by
    rw [h.orderly.order, hqueue, List.append_nil]
  -- None of the activations is refused before it has the lock.
  have hacquired : ∀ t, load.site t = s → (w.answer t).isSome → t ∈ load.ofSite s w.acquired := by
    intro t hsite hanswered
    rw [mem_ofSite]
    refine ⟨?_, hsite⟩
    by_contra hmem
    obtain ⟨result, hanswer⟩ := Option.isSome_iff_exists.mp hanswered
    obtain ⟨x, hscreen, _⟩ := h.exists_refusal hmem hanswer
    have hfound' : g.entries.find? (load.visit t).site = some e := by
      rw [← hfound, ← hsite]
      rfl
    rw [(hvisits t hsite hanswered).screen_eq hfound'] at hscreen
    cases hscreen
  cases hfirst : load.ofSite s w.acquired with
  | nil =>
    obtain ⟨t, hsite, hanswered⟩ := hsome
    rw [hfirst] at hacquired
    exact absurd (hacquired t hsite hanswered) List.not_mem_nil
  | cons first rest =>
    have hagree : load.AgreeAt s (load.oneByOne g w.acquired)
        (load.oneByOne g (load.ofSite s w.acquired)) := oneByOne_ofSite rfl w.acquired
    rw [hfirst] at hagree
    have hmem : ∀ t ∈ first :: rest, t ∈ w.acquired ∧ load.site t = s := by
      intro t ht
      rw [← hfirst] at ht
      exact mem_ofSite.mp ht
    have hall : ∀ t ∈ first :: rest, load.site t = s ∧ (load.visit t).Activates c := by
      intro t ht
      obtain ⟨hacq, hsite⟩ := hmem t ht
      obtain ⟨result, hanswer, _⟩ := h.exists_answer hfinished hacq
      exact ⟨hsite, hvisits t hsite (by rw [hanswer]; rfl)⟩
    -- What a visit of the site is answered is what the ledger of the site says.
    have hsame : ∀ t ∈ first :: rest,
        w.answer t = (load.oneByOne g (first :: rest)).answer t := by
      intro t ht
      obtain ⟨hacq, hsite⟩ := hmem t ht
      obtain ⟨result, hanswer, hledger⟩ := h.exists_answer hfinished hacq
      rw [hanswer, ← hledger, hagree.answers t hsite]
    have hnodup := h.orderly.nodup_ofSite s
    rw [hfirst, List.nodup_cons] at hnodup
    obtain ⟨hactive, hrefused, notice, hcall⟩ :=
      oneByOne_activations hfound hreachable.coherent hstate hall
        (fun sent call => haccept first sent call (hmem first List.mem_cons_self).2) hnodup.1
    refine ⟨first, {
      site     := (hmem first List.mem_cons_self).2
      earliest := by rw [horder, hfirst, List.head?_cons]
      succeeds := by rw [hsame first List.mem_cons_self, hactive]
      refused  := ?_
      call     := ⟨notice, by rw [hsent, hagree.sent, hcall]⟩ }⟩
    intro t hne hsite hanswered
    have ht : t ∈ first :: rest := hfirst ▸ hacquired t hsite hanswered
    rw [hsame t ht]
    exact hrefused t ((List.mem_cons.mp ht).resolve_left hne)

/-- **Serializability**: visits that are under way together, in any number, to any sites, with
    any replies and in any interleaving of their steps, come to what they come to one by one, in
    the order in which they acquired the locks of their sites. -/
theorem serializable (load : Workload ι) (g : Registry) (schedule : List ι) (w : World ι)
    (hrun : load.run (.start g) schedule = some w) (hfinished : w.Finished) :
    load.Serialized g w := by
  have h : load.Serial g w := (serial_start load g).run hrun
  refine {
    registry    := h.registry_eq hfinished
    sent        := funext fun s => ((h.inStep s).free (h.orderly.of_finished hfinished s).1).2
    answers     := fun t hmem => h.exists_answer hfinished hmem
    refused     := ?_
    once        := ?_
    order       := ?_
    apart       := fun s g' hentry => oneByOne_ofSite hentry w.acquired
    activations := fun s c e => h.onlyFirst hfinished }
  · intro t result hmem hanswer before
    obtain ⟨x, hscreen, rfl⟩ := h.exists_refusal hmem hanswer
    refine Visit.alone_of_refused ?_
    rw [← hscreen]
    exact Visit.screen_congr (isSome_oneByOne g before _)
  -- A visit that is named twice would be named twice among those of its site.
  · rw [List.nodup_iff_sublist]
    intro t htwice
    have hfilter : [t, t] = load.ofSite (load.site t) [t, t] := by simp [ofSite]
    have hsublist : List.Sublist [t, t] (load.ofSite (load.site t) w.acquired) := by
      rw [hfilter]
      exact htwice.filter _
    exact List.nodup_iff_sublist.mp (h.orderly.nodup_ofSite _) t hsublist
  · intro s
    rw [h.orderly.order, (h.orderly.of_finished hfinished s).2, List.append_nil]

/-! ## Section 4: Three visits -/

/-- A site without cards. -/
def yard : Site := ⟨"yard", by decide +kernel, by decide⟩

/-- A site with one card, and one without that has changes. -/
def twoSites : Registry :=
  (Registry.empty.put Record.oneCard.site ⟨Record.oneCard, false⟩).put yard
    ⟨.create yard ⟨.v4 ⟨10, 0, 0, 3⟩ 8080, "olt", "secret"⟩ 1 3, true⟩

/-- The first terminal of the card. -/
def firstTerminal : TerminalCoordinate := ⟨⟨⟨0, by decide⟩, ⟨0, by decide⟩⟩, ⟨0, by decide⟩⟩

/-- Two activations of the first terminal of the card, and a flush of the other site. All calls are
    accepted, and the sink takes the snapshot. -/
def threeVisits : Workload (Fin 3) where
  visit
    | 0 => .change Record.oneCard.site (.terminal firstTerminal (.activate "sn-0"))
    | 1 => .change Record.oneCard.site (.terminal firstTerminal (.activateSerial " sn-1 "))
    | 2 => .flush yard
  script _ _ m :=
    match m with
    | .call _ => .ok ()
    | .blob _ => .ok ()

/-- The second visit queues up first, and the flush goes on while it waits for its reply. -/
def threeVisitsSchedule : List (Fin 3) :=
  [1, 0, 2, 1, 0, 2, 1, 2, 1, 2, 1, 2, 2, 1, 1, 2, 2, 1, 1, 0, 0, 0]

/-- The three visits run to their ends, and one of the two activations succeeds. -/
theorem serializable_threeVisits :
    ∃ w, threeVisits.run (.start twoSites) threeVisitsSchedule = some w ∧ w.Finished ∧
      threeVisits.Serialized twoSites w ∧ w.acquired = [1, 2, 0] ∧
      ∃ first, threeVisits.OnlyFirst w Record.oneCard.site firstTerminal Record.oneCard.site
        first := by
  -- The run is evaluated once, up to what is needed of the world that it ends in.
  have hend : (threeVisits.run (.start twoSites) threeVisitsSchedule).any
      fun w => decide (∀ t, (w.phase t).Over) && decide (w.acquired = [1, 2, 0]) &&
        (w.answer 0).isSome := by
    decide +kernel
  obtain ⟨w, hrun, hw⟩ := (Option.any_eq_true _ _).mp hend
  simp only [Bool.and_eq_true, decide_eq_true_eq] at hw
  obtain ⟨⟨hfinished, hacquired⟩, hanswered⟩ := hw
  have hserialized := serializable threeVisits twoSites threeVisitsSchedule w hrun hfinished
  have hyard : Record.oneCard.site ≠ yard := by decide +kernel
  refine ⟨w, hrun, hfinished, hserialized, hacquired, ?_⟩
  refine hserialized.activations Record.oneCard.site firstTerminal ⟨Record.oneCard, false⟩ ?_
    Record.reachable_oneCard (by decide +kernel) ?_ (fun _ _ _ _ => rfl) ⟨0, rfl, hanswered⟩
  · exact (SiteMap.find?_insert_of_ne hyard _ _).trans (SiteMap.find?_insert_self _ _ _)
  · intro t hsite _
    match t with
    | 0 => exact ⟨rfl, "sn-0", rfl, by decide +kernel⟩
    | 1 => exact ⟨rfl, " sn-1 ", rfl, by decide +kernel⟩
    | 2 => exact absurd hsite.symm hyard

end Workload

end ChassisRegistry
