import ChassisRegistry.Proofs.Offers

/-! # How a flusher closes

    A flusher that was told to close chooses nothing but its final pass, and
    that pass begins once, after it was told. When the pass has ended, the
    flusher does nothing more, and its result is the report of that pass, which
    counts what the sink took and what it refused in it.

    Main statement: `FlushLoop.Ending.moves`. -/

namespace ChassisRegistry

variable {σ : Type}

/-! ## Section 1: Passes in the log -/

namespace Deed

/-- Does it lead from one pass to the next? -/
def turns : Deed → Bool
  | chose _ | began _ | ended _ _ => true
  | _ => false

/-- Did the sink take an offer? -/
def taken : Deed → Bool
  | offered _ _ taken => taken
  | _ => false

/-- Did the sink refuse an offer? -/
def refused : Deed → Bool
  | offered _ _ taken => !taken
  | _ => false

/-- What is done in a pass, and the report of it so far. -/
structure Pass (deeds : List Deed) (report : FlushReport) : Prop where
  within : ∀ d ∈ deeds, d.turns = false
  stored : report.stored = deeds.countP taken
  failed : report.failed = deeds.countP refused

/-- A pass is the last thing that has begun. The final pass is the only one, and begins when the
    flusher was told to close. -/
def Passing (cause : FlushCause) (report : FlushReport) (deeds : List Deed) : Prop :=
  ∃ before during, deeds = before ++ .began cause :: during ∧ Pass during report ∧
    (cause = .close → .told ∈ before ∧ .began .close ∉ before)

variable {deeds : List Deed} {report report' : FlushReport} {d : Deed} {cause : FlushCause}

/-- A pass that goes on. -/
theorem Passing.concat (h : Passing cause report deeds) (hturns : d.turns = false)
    (hstored : report'.stored = report.stored + d.taken.toNat)
    (hfailed : report'.failed = report.failed + d.refused.toNat) :
    Passing cause report' (deeds ++ [d]) := by
  obtain ⟨before, during, rfl, hpass, hclose⟩ := h
  refine ⟨before, during ++ [d], by simp, ⟨fun d' hmem => ?_, ?_, ?_⟩, hclose⟩
  · rcases List.mem_append.mp hmem with hmem | hmem
    · exact hpass.within d' hmem
    · rw [List.mem_singleton.mp hmem]
      exact hturns
  · rw [List.countP_append, hstored, hpass.stored, List.countP_singleton]
    cases d.taken <;> rfl
  · rw [List.countP_append, hfailed, hpass.failed, List.countP_singleton]
    cases d.refused <;> rfl

/-- The one final pass of a flusher, with what was done before it, in it and after it. -/
structure FinalPass (deeds before during after : List Deed) (report : FlushReport) : Prop where
  deeds_eq : deeds = before ++ .began .close :: (during ++ .ended .close report :: after)
  told     : .told ∈ before
  once     : .began .close ∉ before
  pass     : Pass during report
  quiet    : ∀ d ∈ after, d.turns = false ∧ d.taken = false ∧ d.refused = false

/-- What others do when the flusher has stopped. -/
theorem FinalPass.concat {before during after : List Deed}
    (h : FinalPass deeds before during after report) (hturns : d.turns = false)
    (htaken : d.taken = false) (hrefused : d.refused = false) :
    FinalPass (deeds ++ [d]) before during (after ++ [d]) report where
  deeds_eq := by simp [h.deeds_eq]
  told     := h.told
  once     := h.once
  pass     := h.pass
  quiet    := by
    intro d' hmem
    rcases List.mem_append.mp hmem with hmem | hmem
    · exact h.quiet d' hmem
    · rw [List.mem_singleton.mp hmem]
      exact ⟨hturns, htaken, hrefused⟩

end Deed

/-! ## Section 2: From the word to close to the end -/

namespace FlushLoop

open Deed

/-- Choices and passes are in step with what the flusher was told. -/
structure Ending (w : FlushLoop σ) : Prop where
  told  : .told ∈ w.deeds ↔ w.flusher.closing = true
  /-- Having been told to close, it chooses nothing else. -/
  bound : Throughout (fun before d => ∀ cause, d = .chose cause → .told ∈ before → cause = .close)
    w.deeds
  due   : w.phase = .chosen .close → w.flusher.closing = true
  final : .began .close ∈ w.deeds → w.phase.isFinal = true
  pass  : ∀ {cause todo report}, w.phase = .passing cause todo report →
    Passing cause report w.deeds
  last  : ∀ {report}, w.phase = .stopped report → ∃ before during after,
    FinalPass w.deeds before during after report

variable {sink : Sink σ} {w w' : FlushLoop σ}

theorem Ending.moves (h : w.Ending) (hmoves : Moves sink w w') : w'.Ending where
  told := by
    have htold := h.told
    cases hmoves with
    | idle | ticked | clean => exact htold
    | told => simp
    | chose => simpa [choose_closing, choose_deeds] using htold
    | _ => simpa using htold
  bound := by
    have hbound := h.bound
    cases hmoves with
    | idle | ticked | clean => exact hbound
    | chose hphase hcause =>
      refine throughout_concat.mpr ⟨hbound, fun cause heq htold => ?_⟩
      cases heq
      have hclose := cause?_eq_close_iff.mpr (h.told.mp htold)
      exact Option.some_inj.mp (hcause.symm.trans hclose)
    | _ => exact throughout_concat.mpr ⟨hbound, by simp⟩
  due := by
    cases hmoves with
    | chose hphase hcause =>
      intro heq
      cases heq
      rw [choose_closing]
      exact cause?_eq_close_iff.mp hcause
    | @ended cause => cases cause <;> simp
    | told => simp
    | began | stored | failed | clean => simp
    | _ => exact h.due
  final := by
    have hfinal := h.final
    cases hmoves with
    | chose hphase => simpa [choose, hphase, FlushPhase.isFinal] using hfinal
    | @began cause hphase =>
      have hnot : .began .close ∉ w.deeds := by simpa [hphase, FlushPhase.isFinal] using hfinal
      simp [hnot, FlushPhase.isFinal, eq_comm]
    | stored hphase | failed hphase | clean hphase =>
      simpa [hphase, FlushPhase.isFinal] using hfinal
    | @ended cause report hphase =>
      cases cause with
      | close => simp [FlushPhase.isFinal]
      | request | interval => simpa [hphase, FlushPhase.isFinal] using hfinal
    | _ => simpa using hfinal
  pass := by
    intro cause todo report hphase'
    cases hmoves with
    | idle | ticked => exact h.pass hphase'
    | changed | told | woken | asked => exact (h.pass hphase').concat rfl rfl rfl
    | chose => cases hphase'
    | began hphase =>
      cases hphase'
      refine ⟨w.deeds, [], rfl, ⟨by simp, rfl, rfl⟩, ?_⟩
      rintro rfl
      refine ⟨h.told.mpr (h.due hphase), fun hmem => ?_⟩
      have hfinal := h.final hmem
      simp [hphase, FlushPhase.isFinal] at hfinal
    | stored hphase | failed hphase =>
      cases hphase'
      exact (h.pass hphase).concat rfl rfl rfl
    | clean hphase =>
      cases hphase'
      obtain ⟨before, during, heq, hpass, hclose⟩ := h.pass hphase
      exact ⟨before, during, heq, ⟨hpass.within, hpass.stored, hpass.failed⟩, hclose⟩
    | @ended other => cases other <;> cases hphase'
  last := by
    intro report hphase'
    cases hmoves with
    | idle | ticked => exact h.last hphase'
    | changed | told | woken | asked =>
      obtain ⟨before, during, after, hfinal⟩ := h.last hphase'
      exact ⟨before, during, _, hfinal.concat rfl rfl rfl⟩
    | chose | began | stored | failed | clean => cases hphase'
    | @ended cause report' hphase =>
      cases cause with
      | request | interval => cases hphase'
      | close =>
        cases hphase'
        obtain ⟨before, during, heq, hpass, hclose⟩ := h.pass hphase
        obtain ⟨htold, honce⟩ := hclose rfl
        exact ⟨before, during, [], by simp [heq], htold, honce, hpass, by simp⟩

theorem ending_start {interval now : Nat} (positive : 0 < interval) (g : Registry) (s : σ) :
    (start interval positive now g s).Ending where
  told  := by simp [start, Flusher.start, Registry.not_mem_marks (d := .told) rfl]
  bound := throughout_of_mem fun d hmem before cause hd =>
    absurd hmem (Registry.not_mem_marks (by rw [hd]; rfl))
  due   := nofun
  final := fun hmem => absurd hmem (Registry.not_mem_marks rfl)
  pass  := nofun
  last  := nofun

end FlushLoop

end ChassisRegistry
