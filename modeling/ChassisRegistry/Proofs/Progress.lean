import ChassisRegistry.Proofs.Triggers
import Mathlib.Data.Nat.Find
import Mathlib.Data.Prod.Lex

/-! # Progress of a flusher

    Whatever comes between its steps, a flusher that goes on taking steps comes
    to its next pass when one is due, and comes to its end when it was told to
    close. Each of its steps takes it to a later phase, or leaves fewer sites
    to be visited in the same one, and nothing else changes its phase.

    Main statements: `FlushLoop.exists_began` and `FlushLoop.exists_stopped`. -/

namespace ChassisRegistry

variable {σ : Type}

namespace FlushLoop

/-! ## Section 1: Going on -/

/-- The flusher goes on taking steps. -/
def Fair (later : Nat → Event) : Prop :=
  ∀ n, ∃ m, n ≤ m ∧ later m = .go

/-- The flusher after the first events of an endless run. -/
def along (sink : Sink σ) (w : FlushLoop σ) (later : Nat → Event) : Nat → FlushLoop σ
  | 0 => w
  | n + 1 => (w.along sink later n).after sink (later n)

variable {sink : Sink σ} {w : FlushLoop σ} {later : Nat → Event}

theorem along_add (n m : Nat) : w.along sink later (n + m) =
    (w.along sink later n).along sink (fun k => later (n + k)) m := by
  induction m with
  | zero => rfl
  | succ m ih => rw [← Nat.add_assoc, along, ih, along]

theorem Fair.shift (hfair : Fair later) (n : Nat) : Fair fun k => later (n + k) := by
  intro k
  obtain ⟨m, hle, hgo⟩ := hfair (n + k)
  refine ⟨m - n, by omega, ?_⟩
  dsimp only
  rw [Nat.add_sub_cancel' (by omega)]
  exact hgo

theorem Fair.exists_next (hfair : Fair later) :
    ∃ m, later m = .go ∧ ∀ k, k < m → later k ≠ .go := by
  classical
  obtain ⟨m, -, hgo⟩ := hfair 0
  have hex : ∃ m, later m = .go := ⟨m, hgo⟩
  exact ⟨Nat.find hex, Nat.find_spec hex, fun k => Nat.find_min hex⟩

/-- Nothing but a step of the flusher changes its phase. -/
theorem after_phase {event : Event} (hother : event ≠ .go) :
    (w.after sink event).phase = w.phase := by
  cases event with
  | go => exact absurd rfl hother
  | flushNow wakes =>
    simp only [after, flushNow]
    split <;> rfl
  | _ => rfl

/-- What is done stays done. -/
theorem deeds_stay (event : Event) : w.deeds <+: (w.after sink event).deeds := by
  cases event with
  | mutate request answers => exact List.prefix_append ..
  | flushNow wakes =>
    simp only [after, flushNow]
    split <;> exact List.prefix_append ..
  | shutDown => exact List.prefix_append ..
  | tick seconds => exact List.prefix_rfl
  | go =>
    simp only [after, go]
    split
    · split
      · exact List.prefix_rfl
      · exact List.prefix_append ..
    · exact List.prefix_append ..
    · split
      · exact List.prefix_rfl
      · exact List.prefix_append ..
    · exact List.prefix_append ..
    · exact List.prefix_rfl

/-- Where each step of the flusher comes closer to a goal, and nothing else leads away from it, the
    flusher reaches it. -/
theorem exists_goal (good goal : FlushLoop σ → Prop) (μ : FlushPhase → Nat ×ₗ Nat)
    (hstay : ∀ {w : FlushLoop σ} {event}, event ≠ .go → good w → good (w.after sink event))
    (hgo : ∀ {w : FlushLoop σ}, good w →
      goal (w.go sink) ∨ good (w.go sink) ∧ μ (w.go sink).phase < μ w.phase)
    (hfair : Fair later) (hw : good w) : ∃ n, goal (w.along sink later n) := by
  induction hμ : μ w.phase using WellFoundedLT.induction generalizing w later with
  | _ measure ih =>
    obtain ⟨m, hnext, hbefore⟩ := hfair.exists_next
    -- Until its next step the flusher stays where it is.
    have hwaits : ∀ k, k ≤ m → good (w.along sink later k) ∧
        (w.along sink later k).phase = w.phase := by
      intro k
      induction k with
      | zero => exact fun _ => ⟨hw, rfl⟩
      | succ k ihk =>
        intro hle
        obtain ⟨hgood, hphase⟩ := ihk (by omega)
        have hother := hbefore k (by omega)
        exact ⟨hstay hother hgood, (after_phase hother).trans hphase⟩
    obtain ⟨hgood, hphase⟩ := hwaits m le_rfl
    have hstep : w.along sink later (m + 1) = (w.along sink later m).go sink := by
      rw [along, hnext]
      rfl
    rcases hgo hgood with hgoal | ⟨hgood', hless⟩
    · exact ⟨m + 1, hstep ▸ hgoal⟩
    · rw [hphase, hμ] at hless
      rw [← hstep] at hgood' hless
      obtain ⟨n, hgoal⟩ := ih _ hless (hfair.shift (m + 1)) hgood' rfl
      exact ⟨m + 1 + n, by rw [along_add]; exact hgoal⟩

/-! ## Section 2: The next pass -/

/-- How far it is to the beginning of the next pass. -/
def toNext : FlushPhase → Nat ×ₗ Nat
  | .chosen _ | .stopped _ => toLex (0, 0)
  | .waiting               => toLex (1, 0)
  | .passing _ todo _      => toLex (2, todo.length)

/-- How far it is to the end, once the flusher was told to close. -/
def toEnd : FlushPhase → Nat ×ₗ Nat
  | .stopped _            => toLex (0, 0)
  | .passing cause todo _ => toLex (if cause = .close then 1 else 4, todo.length)
  | .chosen cause         => toLex (if cause = .close then 2 else 5, 0)
  | .waiting              => toLex (3, 0)

/-- A turn of a site in a pass takes it off the list and touches no trigger. -/
theorem go_passing (sink : Sink σ) {cause : FlushCause} {site : Site} {todo : List Site}
    {report : FlushReport}
    (hphase : w.phase = .passing cause (site :: todo) report) :
    (∃ report', (w.go sink).phase = .passing cause todo report') ∧
      (w.go sink).flusher = w.flusher ∧ (w.go sink).woken = w.woken := by
  simp only [go, hphase]
  split
  · exact ⟨⟨_, rfl⟩, rfl, rfl⟩
  · exact ⟨⟨_, rfl⟩, rfl, rfl⟩

theorem Stirred.after {event : Event} (hother : event ≠ .go) (h : w.Stirred) :
    (w.after sink event).Stirred := by
  unfold Stirred at h ⊢
  rw [after_phase hother]
  cases event with
  | go => exact absurd rfl hother
  | flushNow wakes =>
    simp only [FlushLoop.after, flushNow]
    split
    · exact .inl rfl
    · exact .inr (.inl rfl)
  | _ => exact h

/-- A flusher that waits and is stirred has a cause. -/
theorem Stirred.exists_cause (h : w.Stirred) (hphase : w.phase = .waiting) :
    ∃ cause, w.cause? = some cause := by
  have hasked : (w.flusher.asked || w.woken) = true := by
    rcases h with hwoken | hasked | ⟨cause, hchosen⟩
    · simp [hwoken]
    · simp [hasked]
    · cases hphase.symm.trans hchosen
  unfold cause? Flusher.cause?
  dsimp only
  split
  · exact ⟨_, rfl⟩
  · exact ⟨_, rfl⟩

/-- A step of the flusher begins the pass that is due, or comes closer to it. -/
theorem Stirred.go (sink : Sink σ) (hstirred : w.Stirred) (hgoes : w.phase.isFinal = false) :
    (∃ cause, (w.go sink).deeds = w.deeds ++ [.began cause]) ∨
      ((w.go sink).Stirred ∧ (w.go sink).phase.isFinal = false) ∧
        toNext (w.go sink).phase < toNext w.phase := by
  cases hphase : w.phase with
  | waiting =>
    obtain ⟨cause, hcause⟩ := hstirred.exists_cause hphase
    have hgo : w.go sink = w.choose cause := by
      simp only [FlushLoop.go, hphase, hcause]
    rw [hgo]
    exact .inr ⟨⟨.inr (.inr ⟨cause, rfl⟩), rfl⟩, Prod.Lex.toLex_lt_toLex.mpr (.inl (by decide))⟩
  | chosen cause => exact .inl ⟨cause, by simp only [FlushLoop.go, hphase]⟩
  | passing cause todo report =>
    have hopen : cause ≠ .close := by simpa [hphase, FlushPhase.isFinal] using hgoes
    have hdue : w.woken = true ∨ w.flusher.asked = true := by simpa [Stirred, hphase] using hstirred
    have hstill : ∀ {w' : FlushLoop σ}, w'.flusher = w.flusher → w'.woken = w.woken →
        w'.Stirred := by
      intro w' hflusher hwoken
      rw [Stirred, hflusher, hwoken]
      exact hdue.elim .inl fun h => .inr (.inl h)
    cases todo with
    | nil =>
      have hgo : w.go sink = { w with
          phase := .waiting
          deeds := w.deeds ++ [.ended cause report] } := by
        simp only [FlushLoop.go, hphase, if_neg hopen]
      rw [hgo]
      exact .inr ⟨⟨hstill rfl rfl, rfl⟩, Prod.Lex.toLex_lt_toLex.mpr (.inl (by decide))⟩
    | cons site todo =>
      obtain ⟨⟨report', hphase'⟩, hflusher, hwoken⟩ := go_passing sink hphase
      rw [hphase']
      refine .inr ⟨⟨hstill hflusher hwoken, ?_⟩, ?_⟩
      · simpa [FlushPhase.isFinal] using hopen
      · exact Prod.Lex.toLex_lt_toLex.mpr (.inr ⟨rfl, by simp⟩)
  | stopped report => simp [hphase, FlushPhase.isFinal] at hgoes

/-- A pass that is due begins, unless the flusher is in its final pass or has stopped. -/
theorem exists_began (hstirred : w.Stirred) (hgoes : w.phase.isFinal = false)
    (hfair : Fair later) : ∃ n new cause,
      (w.along sink later n).deeds = w.deeds ++ new ∧ .began cause ∈ new := by
  let good (w' : FlushLoop σ) : Prop :=
    w.deeds <+: w'.deeds ∧ w'.Stirred ∧ w'.phase.isFinal = false
  let goal (w' : FlushLoop σ) : Prop :=
    ∃ new cause, w'.deeds = w.deeds ++ new ∧ .began cause ∈ new
  have hstay : ∀ {w' : FlushLoop σ} {event}, event ≠ .go → good w' →
      good (w'.after sink event) := by
    rintro w' event hother ⟨hstays, hstirred, hgoes⟩
    exact ⟨hstays.trans (deeds_stay event), hstirred.after hother,
      (after_phase hother).symm ▸ hgoes⟩
  have hgo : ∀ {w' : FlushLoop σ}, good w' →
      goal (w'.go sink) ∨ good (w'.go sink) ∧ toNext (w'.go sink).phase < toNext w'.phase := by
    rintro w' ⟨⟨more, hmore⟩, hstirred, hgoes⟩
    rcases hstirred.go sink hgoes with ⟨cause, hdeeds⟩ | ⟨hgood, hless⟩
    · exact .inl ⟨more ++ [.began cause], cause, by rw [hdeeds, ← hmore, List.append_assoc],
        by simp⟩
    · have hstays : w.deeds <+: w'.deeds := ⟨more, hmore⟩
      exact .inr ⟨⟨hstays.trans (deeds_stay .go), hgood⟩, hless⟩
  exact exists_goal good goal toNext hstay hgo hfair
    ⟨List.prefix_rfl, hstirred, hgoes⟩

/-! ## Section 3: The end -/

/-- A step of a flusher that was told to close takes it to its end, or closer to it. -/
theorem go_closing (hclosing : w.flusher.closing = true) :
    (∃ report, (w.go sink).phase = .stopped report) ∨
      (w.go sink).flusher.closing = true ∧ toEnd (w.go sink).phase < toEnd w.phase := by
  cases hphase : w.phase with
  | waiting =>
    have hgo : w.go sink = w.choose .close := by
      simp only [go, hphase, cause?_eq_close_iff.mpr hclosing]
    rw [hgo]
    exact .inr ⟨(choose_closing ..).trans hclosing, Prod.Lex.toLex_lt_toLex.mpr (.inl (by decide))⟩
  | chosen cause =>
    have hgo : w.go sink = { w with
        phase := .passing cause w.registry.entries.sites {}
        deeds := w.deeds ++ [.began cause] } := by
      simp only [go, hphase]
    rw [hgo]
    refine .inr ⟨hclosing, Prod.Lex.toLex_lt_toLex.mpr (.inl ?_)⟩
    dsimp only
    split <;> decide
  | passing cause todo report =>
    cases todo with
    | nil =>
      by_cases hclose : cause = .close
      · exact .inl ⟨report, by simp only [go, hphase, if_pos hclose]⟩
      · have hgo : w.go sink = { w with
            phase := .waiting
            deeds := w.deeds ++ [.ended cause report] } := by
          simp only [go, hphase, if_neg hclose]
        rw [hgo]
        refine .inr ⟨hclosing, Prod.Lex.toLex_lt_toLex.mpr (.inl ?_)⟩
        simp [hclose]
    | cons site todo =>
      obtain ⟨⟨report', hphase'⟩, hflusher, -⟩ := go_passing sink hphase
      rw [hphase', hflusher]
      exact .inr ⟨hclosing, Prod.Lex.toLex_lt_toLex.mpr (.inr ⟨rfl, by simp⟩)⟩
  | stopped report => exact .inl ⟨report, by simp only [go, hphase]⟩

/-- A flusher that was told to close comes to its end. -/
theorem exists_stopped (hclosing : w.flusher.closing = true) (hfair : Fair later) :
    ∃ n report, (w.along sink later n).phase = .stopped report := by
  refine exists_goal (fun w => w.flusher.closing = true)
    (fun w => ∃ report, w.phase = .stopped report) toEnd ?_ go_closing hfair hclosing
  intro w event hother hclosing
  cases event with
  | go => exact absurd rfl hother
  | flushNow wakes =>
    simp only [after, flushNow]
    split <;> exact hclosing
  | shutDown => rfl
  | _ => exact hclosing

end FlushLoop

end ChassisRegistry
