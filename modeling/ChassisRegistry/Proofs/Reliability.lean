import ChassisRegistry.Proofs.Closing
import ChassisRegistry.Proofs.Progress
import ChassisRegistry.Registry.Query

/-! # A flusher loses nothing

    In every interleaving of its steps with requests, triggers, the word to
    close and the time that passes, and whatever the sink refuses: no flush
    that was asked for is forgotten, none is made on request that nobody asked
    for, and the end comes after one final pass, with every change made before
    it in the sink or refused in that pass and still marked. To be offered is
    to be handed to the sink in a store, and to be refused is that the store
    fails.

    Main statement: `FlushLoop.reliable`. -/

namespace ChassisRegistry

variable {σ : Type}

/-! ## Section 1: What a pass leaves in the log -/

namespace Deed

/-- After what was done before, the site was offered as it was then: the sink, which had come from
    `s`, was told to store it and gave this answer. -/
def Answered (g : Registry) (sink : Sink σ) (s : σ) (site : Site) (r : Record)
    (result : Except SinkError Unit) (before later : List Deed) : Prop :=
  ∃ between after t t', later = between ++ .offered site r result.isOk :: after ∧
    Latest g site r (before ++ between) ∧ Stores sink s (before ++ between) t ∧
      sink.store site (Snapshot.write r).toUTF8 t = (result, t')

/-- After what was done before, the site was offered to the sink as it was then. -/
def Offered (g : Registry) (sink : Sink σ) (s : σ) (site : Site) (before later : List Deed) :
    Prop :=
  ∃ r result, Answered g sink s site r result before later

/-- After what was done before, the sink took the site as it was then, and holds it now. -/
def Saved (g : Registry) (sink : Sink σ) (s now : σ) (site : Site) (before later : List Deed) :
    Prop :=
  ∃ r, Answered g sink s site r (.ok ()) before later ∧
    ∀ blobs, sink.Keeps blobs → blobs now site = some (Snapshot.write r).toUTF8

/-- After what was done before, the store of the site as it was then failed. -/
def Refused (g : Registry) (sink : Sink σ) (s : σ) (site : Site) (before later : List Deed) :
    Prop :=
  ∃ r x, Answered g sink s site r (.error x) before later

variable {deeds before between rest : List Deed} {site : Site} {r : Record} {cause : FlushCause}

/-- A pass that is not about to offer a site that was changed before it has offered it, unless the
    sink took it even before the pass. -/
theorem exists_offered (hvisited : ¬ Unvisited cause site deeds)
    (heq : deeds = before ++ .changed site r :: (between ++ .began cause :: rest)) :
    (∃ r', .offered site r' true ∈ between) ∨ ∃ r' taken, .offered site r' taken ∈ rest := by
  by_contra hnone
  push Not at hnone
  obtain ⟨hbetween, hrest⟩ := hnone
  refine hvisited ⟨before ++ .changed site r :: between, .began cause, rest, by simp [heq],
    ⟨rfl, before, .changed site r, between, rfl, ⟨r, rfl⟩, ?_⟩, ?_⟩
  · rintro d hmem r' rfl
    exact hbetween r' hmem
  · rintro d hmem r' taken rfl
    exact hrest r' taken hmem

end Deed

namespace FlushLoop

open Deed

/-- What is kept by every event. -/
structure Steady (g : Registry) (sink : Sink σ) (s : σ) (w : FlushLoop σ) : Prop where
  fit      : w.Fit
  alert    : w.Alert
  offering : w.Offering g
  ending   : w.Ending
  stores   : Stores sink s w.deeds w.sink
  holding  : ∀ blobs, sink.Keeps blobs → w.Holding blobs

variable {g : Registry} {sink : Sink σ} {s : σ} {w : FlushLoop σ}

theorem Steady.after (h : w.Steady g sink s) (event : Event) :
    (w.after sink event).Steady g sink s := by
  have hmoves : Moves sink w (w.after sink event) := h.fit.moves event
  exact ⟨hmoves.fit h.fit, h.alert.moves hmoves, h.offering.moves hmoves, h.ending.moves hmoves,
    stores_moves h.stores hmoves,
    fun blobs hkeeps => Holding.moves hkeeps (h.holding blobs hkeeps) hmoves⟩

theorem Steady.run (h : w.Steady g sink s) (events : List Event) :
    (w.run sink events).Steady g sink s := by
  induction events generalizing w with
  | nil => exact h
  | cons event rest ih => exact ih (h.after event)

theorem steady_start {interval now : Nat} (positive : 0 < interval) (hg : g.Sound) (sink : Sink σ)
    (s : σ) : (start interval positive now g s).Steady g sink s where
  fit      := fit_start positive hg s
  alert    := alert_start positive g s
  offering := offering_start positive g s
  ending   := ending_start positive g s
  stores   := stores_start positive g sink s
  holding  := fun blobs _ => holding_start positive g s blobs

/-- A flusher that waits, woken by nobody and without a permit, has heard every trigger. -/
theorem Alert.not_unheard (h : w.Alert) (hphase : w.phase = .waiting) (hwoken : w.woken = false)
    (hasked : w.flusher.asked = false) : ¬ Unheard w.deeds := by
  intro hunheard
  have := h.heard hunheard
  simp [Stirred, hphase, hwoken, hasked, FlushPhase.isFinal] at this

/-- A pass that has begun and is not going on has ended before the next one. -/
theorem Alert.exists_ended (h : w.Alert) {cause : FlushCause} {before later : List Deed}
    (hover : ∀ todo report, w.phase ≠ .passing cause todo report)
    (heq : w.deeds = before ++ .began cause :: later) :
    ∃ during report rest, later = during ++ .ended cause report :: rest ∧
      ∀ other, .began other ∉ during := by
  have hnot : ¬ Unended cause w.deeds := by
    intro hunended
    obtain ⟨todo, report, hphase⟩ := h.ended hunended
    exact hover todo report hphase
  obtain ⟨during, d, rest, rfl, hduring, hd⟩ := exists_first_of_not_since hnot heq rfl
  push Not at hd
  obtain ⟨report, rfl⟩ := hd
  refine ⟨during, report, rest, rfl, fun other hmem => ?_⟩
  obtain ⟨first, second, rfl⟩ := List.append_of_mem hmem
  -- Another pass would have begun while this one was going on.
  have heq' : w.deeds = (before ++ .began cause :: first) ++
      .began other :: (second ++ .ended cause report :: rest) := by simp [heq]
  have hapart := (h.ordered heq' other rfl).2 cause
  exact hapart ⟨before, .began cause, first, rfl, rfl, fun d hd => hduring d (by simp [hd])⟩

/-- A pass that was chosen begins and ends. -/
theorem Alert.carried (h : w.Alert) {cause : FlushCause} {before later : List Deed}
    (heq : w.deeds = before ++ .chose cause :: later) :
    w.phase = .chosen cause ∨ ∃ between rest, later = between ++ .began cause :: rest ∧
      ((∃ todo report, w.phase = .passing cause todo report) ∨
        ∃ report, .ended cause report ∈ rest) := by
  by_cases hunbegun : Unbegun cause w.deeds
  · exact .inl (h.begun hunbegun)
  obtain ⟨between, d, rest, rfl, -, hd⟩ := exists_first_of_not_since hunbegun heq rfl
  obtain rfl : d = .began cause := by simpa using hd
  refine .inr ⟨between, rest, rfl, ?_⟩
  by_cases hpassing : ∃ todo report, w.phase = .passing cause todo report
  · exact .inl hpassing
  · push Not at hpassing
    have heq' : w.deeds = (before ++ .chose cause :: between) ++ .began cause :: rest := by
      simp [heq]
    obtain ⟨during, report, rest', rfl, -⟩ := h.exists_ended hpassing heq'
    exact .inr ⟨report, by simp⟩

/-- Behind an offer in the log is a store of the site as it was then. -/
theorem Steady.answered (h : w.Steady g sink s) {site : Site} {r : Record} {taken : Bool}
    {before later between after : List Deed} (hlog : before ++ later <+: w.deeds)
    (hlater : later = between ++ .offered site r taken :: after) :
    ∃ result, result.isOk = taken ∧ Answered g sink s site r result before later := by
  obtain ⟨rest, heq⟩ := hlog
  have heq' : w.deeds = (before ++ between) ++ .offered site r taken :: (after ++ rest) := by
    simp [← heq, hlater]
  have hstores := h.stores
  rw [heq'] at hstores
  obtain ⟨result, t, t', rfl, hbefore, hstore⟩ := hstores.split
  have hlatest := h.offering.offers heq' site r _ rfl
  exact ⟨result, rfl, between, after, t, t', hlater, hlatest, hbefore, hstore⟩

/-- A site that a pass has not to visit any more was offered, as it was then, after every change
    that was made before the pass. -/
theorem Steady.exists_offered (h : w.Steady g sink s) {cause : FlushCause} {site : Site}
    {r : Record} {before between rest : List Deed}
    (hover : ∀ todo report, w.phase = .passing cause todo report → site ∉ todo)
    (heq : w.deeds = before ++ .changed site r :: (between ++ .began cause :: rest)) :
    Offered g sink s site (before ++ [.changed site r]) (between ++ .began cause :: rest) := by
  have hvisited : ¬ Unvisited cause site w.deeds := by
    intro hunvisited
    obtain ⟨todo, report, hphase, hmem⟩ := h.offering.visited hunvisited
    exact hover todo report hphase hmem
  have hmem : ∃ r' taken, .offered site r' taken ∈ between ++ .began cause :: rest := by
    rcases Deed.exists_offered hvisited heq with ⟨r', hmem⟩ | ⟨r', taken, hmem⟩
    · exact ⟨r', true, by simp [hmem]⟩
    · exact ⟨r', taken, by simp [hmem]⟩
  obtain ⟨r', taken, hmem⟩ := hmem
  obtain ⟨first, second, hsplit⟩ := List.append_of_mem hmem
  have hlog : (before ++ [.changed site r]) ++ (between ++ .began cause :: rest) <+: w.deeds :=
    ⟨[], by simp [heq]⟩
  obtain ⟨result, -, hanswered⟩ := h.answered hlog hsplit
  exact ⟨r', result, hanswered⟩

/-- What was changed before the final pass is in the sink, or was refused in that pass and is
    still marked. -/
theorem Steady.saved_or_refused (h : w.Steady g sink s) {report : FlushReport}
    (hphase : w.phase = .stopped report) {before during after : List Deed}
    (hfinal : FinalPass w.deeds before during after report) {first between : List Deed}
    {site : Site} {r : Record} (heq : before = first ++ .changed site r :: between) :
    Saved g sink s w.sink site (first ++ [.changed site r])
        (between ++ .began .close :: (during ++ .ended .close report :: after)) ∨
      Refused g sink s site (before ++ [.began .close]) during ∧
        ∃ e, w.registry.entries.find? site = some e ∧ e.dirty = true := by
  set later := between ++ .began .close :: (during ++ .ended .close report :: after) with hlater
  have hdeeds : w.deeds = first ++ .changed site r :: later := by
    simp [hfinal.deeds_eq, heq, hlater]
  by_cases htaken : ∃ d ∈ later, ∃ r', d = .offered site r' true
  · left
    obtain ⟨before', d, after', hsplit, ⟨r', rfl⟩, hlast⟩ := exists_last htaken
    have heq' : w.deeds = (first ++ .changed site r :: before') ++
        .offered site r' true :: after' := by simp [hdeeds, hsplit]
    have hheld : Held site r' w.deeds :=
      ⟨_, _, after', heq', rfl, fun d hd r'' hd' => hlast d hd ⟨r'', hd'⟩⟩
    have hlog : (first ++ [.changed site r]) ++ later <+: w.deeds := ⟨[], by simp [hdeeds]⟩
    obtain ⟨result, htook, hanswered⟩ := h.answered hlog hsplit
    cases result with
    | error x => cases htook
    | ok _ => exact ⟨r', hanswered, fun blobs hkeeps => h.holding blobs hkeeps hheld⟩
  · right
    push Not at htaken
    have hunsaved : Unsaved site w.deeds :=
      ⟨first, _, later, hdeeds, ⟨r, rfl⟩, fun d hd r' hd' => htaken d hd r' hd'⟩
    refine ⟨?_, h.offering.marked hunsaved⟩
    have hover : ∀ todo report', w.phase ≠ .passing .close todo report' := by simp [hphase]
    have hvisited : ¬ Unvisited .close site w.deeds := by
      intro hunvisited
      obtain ⟨todo, report', hphase', -⟩ := h.offering.visited hunvisited
      exact hover todo report' hphase'
    -- It was offered in the final pass or after it, and after it nothing is offered.
    rcases Deed.exists_offered hvisited hdeeds with ⟨r', hmem⟩ | ⟨r', taken, hmem⟩
    · exact absurd rfl (htaken _ (List.mem_append_left _ hmem) r')
    · cases taken with
      | true => exact absurd rfl (htaken _ (List.mem_append_right _ (.tail _ hmem)) r')
      | false =>
        rcases List.mem_append.mp hmem with hmem | hmem
        · obtain ⟨between', rest, hduring⟩ := List.append_of_mem hmem
          have hlog : (before ++ [.began .close]) ++ during <+: w.deeds :=
            ⟨.ended .close report :: after, by simp [hfinal.deeds_eq]⟩
          obtain ⟨result, hfailed, hanswered⟩ := h.answered hlog hduring
          cases result with
          | error x => exact ⟨r', x, hanswered⟩
          | ok _ => cases hfailed
        · have hafter : .offered site r' false ∈ after := by simpa using hmem
          cases (hfinal.quiet _ hafter).2.2

/-! ## Section 2: Nothing is lost -/

/-- A flusher that loses neither triggers nor changes, from a registry and a content of its sink
    on. -/
structure Reliable (g : Registry) (sink : Sink σ) (s : σ) (w : FlushLoop σ) : Prop where
  /-- The sink has become what it is by the offers in the log: each is a store with its answer. -/
  stores   : Stores sink s w.deeds w.sink
  /-- When it waits, woken by nobody and without a permit, a pass has begun since it was last asked
      for a flush, and has ended. -/
  heard    : w.phase = .waiting → w.woken = false → w.flusher.asked = false →
    ∀ {before after}, w.deeds = before ++ .asked :: after →
      ∃ first cause during report rest,
        after = first ++ .began cause :: (during ++ .ended cause report :: rest) ∧
          ∀ other, .began other ∉ during
  /-- Then every site that was changed before it was asked has been offered with the change. -/
  offered  : w.phase = .waiting → w.woken = false → w.flusher.asked = false →
    ∀ {before site r after}, w.deeds = before ++ .changed site r :: after → .asked ∈ after →
      Offered g sink s site (before ++ [.changed site r]) after
  /-- No pass is made on request that nobody asked for. -/
  spare    : w.deeds.count (.began .request) ≤ w.deeds.count .asked
  /-- When it was asked and has begun no pass since, another one begins, whatever comes between its
      steps, unless it has begun its final pass. -/
  next     : ∀ {before after}, w.deeds = before ++ .asked :: after →
    (∀ cause, .began cause ∉ after) → w.phase.isFinal = false → ∀ {later}, Fair later →
      ∃ n new cause, (w.along sink later n).deeds = w.deeds ++ new ∧ .began cause ∈ new
  /-- Told to close, it chooses nothing but its final pass. -/
  bound    : ∀ {before cause after}, w.deeds = before ++ .chose cause :: after → .told ∈ before →
    cause = .close
  /-- A pass that it has chosen is about to begin or has begun, and is going on or has ended. -/
  finishes : ∀ {before cause after}, w.deeds = before ++ .chose cause :: after →
    w.phase = .chosen cause ∨ ∃ between rest, after = between ++ .began cause :: rest ∧
      ((∃ todo report, w.phase = .passing cause todo report) ∨
        ∃ report, .ended cause report ∈ rest)
  /-- Told to close, it comes to its end, whatever comes between its steps. -/
  stops    : .told ∈ w.deeds → ∀ {later}, Fair later →
    ∃ n report, (w.along sink later n).phase = .stopped report
  /-- At its end it has made one final pass, after it was told to close, and its result is the
      report of that pass. What was changed before the pass is in the sink, or its store in the pass
      failed, and it is counted as failed and still marked. -/
  closes   : ∀ {report}, w.phase = .stopped report → ∃ before during after,
    FinalPass w.deeds before during after report ∧
      ∀ {first site r between}, before = first ++ .changed site r :: between →
        Saved g sink s w.sink site (first ++ [.changed site r])
            (between ++ .began .close :: (during ++ .ended .close report :: after)) ∨
          Refused g sink s site (before ++ [.began .close]) during ∧ 0 < report.failed ∧
            ∃ e, w.registry.entries.find? site = some e ∧ e.dirty = true

theorem Steady.loses_nothing (h : w.Steady g sink s) : w.Reliable g sink s where
  stores := h.stores
  heard := by
    intro hphase hwoken hasked before after heq
    have hnot := h.alert.not_unheard hphase hwoken hasked
    obtain ⟨first, d, rest, rfl, -, hd⟩ := exists_first_of_not_since hnot heq rfl
    push Not at hd
    obtain ⟨cause, rfl⟩ := hd
    have heq' : w.deeds = (before ++ .asked :: first) ++ .began cause :: rest := by simp [heq]
    obtain ⟨during, report, rest', rfl, hduring⟩ :=
      h.alert.exists_ended (by simp [hphase]) heq'
    exact ⟨first, cause, during, report, rest', rfl, hduring⟩
  offered := by
    intro hphase hwoken hasked before site r after heq hmem
    obtain ⟨between, rest, rfl⟩ := List.append_of_mem hmem
    have hnot := h.alert.not_unheard hphase hwoken hasked
    have heq' : w.deeds = (before ++ .changed site r :: between) ++ .asked :: rest := by simp [heq]
    obtain ⟨first, d, rest', rfl, -, hd⟩ := exists_first_of_not_since hnot heq' rfl
    push Not at hd
    obtain ⟨cause, rfl⟩ := hd
    have hpass : w.deeds = before ++
        .changed site r :: ((between ++ .asked :: first) ++ .began cause :: rest') := by simp [heq]
    have hoffered := h.exists_offered (by simp [hphase]) hpass
    simpa using hoffered
  spare := by
    have hspent := h.alert.spent
    omega
  next := by
    intro before after heq hafter hgoes later hfair
    have hunheard : Unheard w.deeds :=
      ⟨before, .asked, after, heq, rfl, fun d hd cause hd' => hafter cause (hd' ▸ hd)⟩
    have hstirred : w.Stirred := by simpa [hgoes] using h.alert.heard hunheard
    exact exists_began hstirred hgoes hfair
  bound := fun heq htold => h.ending.bound heq _ rfl htold
  finishes := h.alert.carried
  stops := fun htold _ hfair => exists_stopped (h.ending.told.mp htold) hfair
  closes := by
    intro report hphase
    obtain ⟨before, during, after, hfinal⟩ := h.ending.last hphase
    refine ⟨before, during, after, hfinal, fun heq => ?_⟩
    rcases h.saved_or_refused hphase hfinal heq with hsaved | ⟨hrefused, hmarked⟩
    · exact .inl hsaved
    · refine .inr ⟨hrefused, ?_, hmarked⟩
      obtain ⟨r', x, between', rest, -, -, hduring, -⟩ := hrefused
      rw [hfinal.pass.failed, hduring]
      exact List.countP_pos_iff.mpr ⟨_, List.mem_append_right _ List.mem_cons_self, rfl⟩

/-- Whatever happens while it is at work, and whatever the sink refuses, a flusher loses neither a
    trigger nor a change. -/
theorem reliable {interval now : Nat} (positive : 0 < interval) (hg : g.Sound) (sink : Sink σ)
    (s : σ) (events : List Event) :
    ((start interval positive now g s).run sink events).Reliable g sink s :=
  ((steady_start positive hg sink s).run events).loses_nothing

/-- A sink that takes as many blobs as it has room for. -/
def small : Sink Nat where
  store _ _ room := if 0 < room then (.ok (), room - 1) else (.error (.unavailable "full"), room)
  load _         := .ok []

/-- A flush is asked for, and once more in the pass. Its site is changed when it has been offered,
    the flusher is told to close, and the sink has no room for the change. -/
def lastRun : List Event :=
  [.flushNow true, .go, .go, .flushNow false, .go,
    .mutate (.change Record.oneCard.site (.login "olt" "changed")) fun _ => .ok (),
    .shutDown, .go, .go, .go, .go, .go]

/-- The change is refused in the final pass and still has its mark. -/
theorem reliable_lastRun :
    let w := (start 60 (by decide) 0 .oneSite 1).run small lastRun
    0 < 60 ∧ Registry.oneSite.Sound ∧ w.phase = .stopped ⟨0, 0, 1⟩ ∧
      w.registry.dirtySites = [Record.oneCard.site] ∧ w.Reliable .oneSite small 1 := by
  intro w
  exact ⟨by decide, Registry.sound_oneSite, by decide +kernel, by decide +kernel,
    reliable (by decide) Registry.sound_oneSite small 1 lastRun⟩

end FlushLoop

end ChassisRegistry
