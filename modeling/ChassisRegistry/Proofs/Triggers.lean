import ChassisRegistry.Proofs.FlushLoop

/-! # Triggers of a flusher

    A flush that is asked for is heard: until a pass has begun after it, the
    flusher was woken or has the permit, or it has chosen its next pass, or it
    is in its final pass or has stopped. Every pass is chosen, then begun, then
    ended, each before the next one, and no more passes are made on request
    than were asked for.

    Main statement: `FlushLoop.Alert.moves`. -/

namespace ChassisRegistry

variable {σ : Type}

/-! ## Section 1: Logs -/

section Logs

variable {α : Type} {P : List α → α → Prop} {Q : α → Prop} {log : List α} {y : α}

/-- At some entry of a log `P` came about, and `Q` has held of every entry since. -/
def Since (P : List α → α → Prop) (Q : α → Prop) (log : List α) : Prop :=
  ∃ before x later, log = before ++ x :: later ∧ P before x ∧ ∀ z ∈ later, Q z

/-- `P` holds of every entry of a log and what comes before it. -/
def Throughout (P : List α → α → Prop) (log : List α) : Prop :=
  ∀ ⦃before x later⦄, log = before ++ x :: later → P before x

/-- An entry of a longer log is the new one, or one of the old log. -/
theorem concat_eq_append_cons_iff {before later : List α} {x : α} :
    log ++ [y] = before ++ x :: later ↔
      (log = before ∧ y = x ∧ later = []) ∨
        ∃ later', later = later' ++ [y] ∧ log = before ++ x :: later' := by
  constructor
  · intro heq
    rcases later.eq_nil_or_concat with rfl | ⟨later', z, rfl⟩
    · obtain ⟨hlog, hy⟩ := List.append_inj' heq rfl
      exact .inl ⟨hlog, List.singleton_inj.mp hy, rfl⟩
    · have heq' : log ++ [y] = (before ++ x :: later') ++ [z] := by simpa using heq
      obtain ⟨hlog, hy⟩ := List.append_inj' heq' rfl
      exact .inr ⟨later', by rw [List.concat_eq_append, List.singleton_inj.mp hy], hlog⟩
  · rintro (⟨rfl, rfl, rfl⟩ | ⟨later', rfl, rfl⟩)
    · rfl
    · simp

theorem since_concat : Since P Q (log ++ [y]) ↔ P log y ∨ Since P Q log ∧ Q y := by
  constructor
  · rintro ⟨before, x, later, heq, hP, hQ⟩
    obtain ⟨rfl, rfl, rfl⟩ | ⟨later', rfl, rfl⟩ := concat_eq_append_cons_iff.mp heq
    · exact .inl hP
    · exact .inr ⟨⟨before, x, later', rfl, hP, fun z hz => hQ z (by simp [hz])⟩, hQ _ (by simp)⟩
  · rintro (hP | ⟨⟨before, x, later, rfl, hP, hQ⟩, hy⟩)
    · exact ⟨log, y, [], rfl, hP, by simp⟩
    · refine ⟨before, x, later ++ [y], by simp, hP, fun z hz => ?_⟩
      rcases List.mem_append.mp hz with hz | hz
      · exact hQ z hz
      · rw [List.mem_singleton.mp hz]
        exact hy

theorem Since.exists_mem (h : Since P Q log) : ∃ before, ∃ x ∈ log, P before x := by
  obtain ⟨before, x, later, rfl, hP, -⟩ := h
  exact ⟨before, x, by simp, hP⟩

/-- What has held since, and goes on to hold, has held since. -/
theorem Since.append {more : List α} (h : Since P Q log) (hmore : ∀ y ∈ more, Q y) :
    Since P Q (log ++ more) := by
  obtain ⟨before, x, later, rfl, hP, hQ⟩ := h
  refine ⟨before, x, later ++ more, by simp, hP, fun y hy => ?_⟩
  exact (List.mem_append.mp hy).elim (hQ y) (hmore y)

/-- Where something does not last, there is a first entry at which it ends. -/
theorem exists_first_of_not_since {before later : List α} {x : α} (hnot : ¬ Since P Q log)
    (heq : log = before ++ x :: later) (hP : P before x) :
    ∃ between z after, later = between ++ z :: after ∧ (∀ z ∈ between, Q z) ∧ ¬ Q z := by
  classical
  have hex : ∃ z ∈ later, ¬ Q z := by
    by_contra hnone
    push Not at hnone
    exact hnot ⟨before, x, later, heq, hP, hnone⟩
  have hsome : (later.find? fun z => decide ¬ Q z).isSome = true := by
    simpa [List.find?_isSome] using hex
  obtain ⟨z, hfound⟩ := Option.isSome_iff_exists.mp hsome
  obtain ⟨hz, between, after, hlater, hbetween⟩ := List.find?_eq_some_iff_append.mp hfound
  exact ⟨between, z, after, hlater, by simpa using hbetween, by simpa using hz⟩

/-- Of the entries with a property there is a last one. -/
theorem exists_last {p : α → Prop} (hex : ∃ x ∈ log, p x) :
    ∃ before x later, log = before ++ x :: later ∧ p x ∧ ∀ y ∈ later, ¬ p y := by
  classical
  have hsome : (log.reverse.find? fun x => decide (p x)).isSome = true := by
    simpa [List.find?_isSome] using hex
  obtain ⟨x, hfound⟩ := Option.isSome_iff_exists.mp hsome
  obtain ⟨hx, later, before, hlog, hlater⟩ := List.find?_eq_some_iff_append.mp hfound
  refine ⟨before.reverse, x, later.reverse, ?_, by simpa using hx, by simpa using hlater⟩
  rw [← log.reverse_reverse, hlog]
  simp

theorem throughout_of_mem (h : ∀ x ∈ log, ∀ before, P before x) : Throughout P log := by
  rintro before x later rfl
  exact h x (by simp) before

theorem throughout_concat : Throughout P (log ++ [y]) ↔ Throughout P log ∧ P log y := by
  constructor
  · intro h
    exact ⟨fun before x later heq => h (concat_eq_append_cons_iff.mpr (.inr ⟨_, rfl, heq⟩)),
      h rfl⟩
  · rintro ⟨hold, hnew⟩ before x later heq
    obtain ⟨rfl, rfl, rfl⟩ | ⟨later', rfl, rfl⟩ := concat_eq_append_cons_iff.mp heq
    · exact hnew
    · exact hold rfl

end Logs

/-! ## Section 2: From the trigger to the end of a pass -/

/-- Is it in its final pass, or has it stopped? -/
def FlushPhase.isFinal : FlushPhase → Bool
  | waiting | chosen _ => false
  | passing cause _ _  => decide (cause = .close)
  | stopped _          => true

/-- How many passes on request it has chosen and not begun. -/
def FlushPhase.requested : FlushPhase → Nat
  | chosen .request => 1
  | _ => 0

namespace Deed

/-- A flush was asked for, and no pass has begun since. -/
def Unheard : List Deed → Prop :=
  Since (fun _ d => d = .asked) (fun d => ∀ cause, d ≠ .began cause)

/-- A pass was chosen, and has not begun since. -/
def Unbegun (cause : FlushCause) : List Deed → Prop :=
  Since (fun _ d => d = .chose cause) (fun d => d ≠ .began cause)

/-- A pass has begun, and has not ended since. -/
def Unended (cause : FlushCause) : List Deed → Prop :=
  Since (fun _ d => d = .began cause) (fun d => ∀ report, d ≠ .ended cause report)

variable {deeds : List Deed} {d : Deed} {cause : FlushCause}

@[simp] theorem unheard_concat :
    Unheard (deeds ++ [d]) ↔ d = .asked ∨ Unheard deeds ∧ ∀ cause, d ≠ .began cause :=
  since_concat

@[simp] theorem unbegun_concat :
    Unbegun cause (deeds ++ [d]) ↔ d = .chose cause ∨ Unbegun cause deeds ∧ d ≠ .began cause :=
  since_concat

@[simp] theorem unended_concat : Unended cause (deeds ++ [d]) ↔
    d = .began cause ∨ Unended cause deeds ∧ ∀ report, d ≠ .ended cause report :=
  since_concat

end Deed

/-- Is it a change of the registry? -/
def Deed.isChange : Deed → Bool
  | changed _ _ => true
  | _ => false

/-- Marks are left by changes only. -/
theorem Registry.not_mem_marks {g : Registry} {d : Deed} (hd : d.isChange = false) :
    d ∉ g.marks := by
  intro hmem
  obtain ⟨site, e, -, -, rfl⟩ := exists_of_mem_marks hmem
  cases hd

namespace FlushLoop

open Deed Registry

/-- A pass is due: the flusher was woken or has the permit, or it has chosen a pass. -/
def Stirred (w : FlushLoop σ) : Prop :=
  w.woken = true ∨ w.flusher.asked = true ∨ ∃ cause, w.phase = .chosen cause

/-- How many passes on request can begin before anybody asks again. -/
def permits (w : FlushLoop σ) : Nat :=
  w.woken.toNat + w.flusher.asked.toNat + w.phase.requested

/-- Triggers, choices, beginnings and ends are in step with the phase of the flusher. -/
structure Alert (w : FlushLoop σ) : Prop where
  heard   : Unheard w.deeds → w.phase.isFinal = true ∨ w.Stirred
  begun   : ∀ {cause}, Unbegun cause w.deeds → w.phase = .chosen cause
  ended   : ∀ {cause}, Unended cause w.deeds → ∃ todo report, w.phase = .passing cause todo report
  /-- The flusher has chosen what it is about to begin. -/
  chosen  : ∀ {cause}, w.phase = .chosen cause → Unbegun cause w.deeds
  /-- A pass begins only when it was chosen, and when those before it are over. -/
  ordered : Throughout (fun before d => ∀ cause, d = .began cause →
    Unbegun cause before ∧ ∀ other, ¬ Unended other before) w.deeds
  /-- Passes on request use up what was asked for. -/
  spent   : w.deeds.count (.began .request) + w.permits ≤ w.deeds.count .asked

variable {sink : Sink σ} {w w' : FlushLoop σ}

/-- A pass on request is chosen only for a request, and takes it. -/
theorem permits_choose {cause : FlushCause} (hphase : w.phase = .waiting)
    (hcause : w.cause? = some cause) : (w.choose cause).permits ≤ w.permits := by
  cases cause with
  | close | interval => simp [permits, choose, hphase, FlushPhase.requested, Flusher.begin]
  | request =>
    by_cases hwoken : w.woken = true
    · simp [permits, choose, hphase, hwoken, FlushPhase.requested, Nat.add_comm]
    · have hasked : w.flusher.asked = true := by
        simp only [cause?, Flusher.cause?, hwoken, Bool.or_false] at hcause
        split at hcause
        · cases hcause
        · split at hcause
          · assumption
          · split at hcause <;> cases hcause
      simp [permits, choose, hphase, hwoken, hasked, FlushPhase.requested, Flusher.begin]

/-- Whatever comes next, no trigger is lost. -/
theorem Alert.moves (h : w.Alert) (hmoves : Moves sink w w') : w'.Alert where
  heard := by
    have hheard := h.heard
    cases hmoves with
    | idle | ticked => exact hheard
    | changed | told => simpa [Stirred] using hheard
    | woken | asked | chose | began => simp [Stirred, choose]
    | stored hphase | failed hphase | clean hphase =>
      simpa [Stirred, hphase, FlushPhase.isFinal] using hheard
    | @ended cause report hphase =>
      cases cause with
      | close => simp [FlushPhase.isFinal]
      | request | interval => simpa [Stirred, hphase, FlushPhase.isFinal] using hheard
  begun := by
    intro cause
    have hbegun := @h.begun cause
    cases hmoves with
    | idle | ticked => exact hbegun
    | changed | told | woken | asked => simpa using hbegun
    | chose hphase =>
      have hnot : ¬ Unbegun cause w.deeds := by simpa [hphase] using hbegun
      simp [choose, hnot]
    | began hphase | stored hphase | failed hphase | clean hphase =>
      simpa [hphase] using hbegun
    | ended hphase =>
      have hnot : ¬ Unbegun cause w.deeds := by simpa [hphase] using hbegun
      simp [hnot]
  ended := by
    intro cause
    have hended := @h.ended cause
    cases hmoves with
    | idle | ticked => exact hended
    | changed | told | woken | asked => simpa using hended
    | chose hphase => simpa [choose, hphase] using hended
    | began hphase =>
      have hnot : ¬ Unended cause w.deeds := by simpa [hphase] using hended
      simp [hnot]
    | stored hphase | failed hphase | clean hphase => simpa [hphase] using hended
    | @ended other report hphase =>
      have hsame : Unended cause w.deeds → other = cause := by simpa [hphase] using hended
      rintro hunended
      simp only [unended_concat, reduceCtorEq, false_or] at hunended
      cases hsame hunended.1
      exact absurd rfl (hunended.2 report)
  chosen := by
    intro cause
    have hchosen := @h.chosen cause
    cases hmoves with
    | idle | ticked => exact hchosen
    | changed | told | woken | asked => simpa using hchosen
    | chose => simp +contextual [choose]
    | began | stored | failed | clean => simp
    | @ended other => cases other <;> simp
  ordered := by
    have hordered := h.ordered
    cases hmoves with
    | idle | ticked | clean => exact hordered
    | began hphase =>
      refine throughout_concat.mpr ⟨hordered, fun cause hcause => ?_⟩
      cases hcause
      refine ⟨h.chosen hphase, fun other hunended => ?_⟩
      obtain ⟨todo, report, hpassing⟩ := h.ended hunended
      cases hphase.symm.trans hpassing
    | _ => simpa [choose, throughout_concat] using hordered
  spent := by
    have hspent := h.spent
    cases hmoves with
    | idle | ticked => exact hspent
    | changed | told => simpa [permits] using hspent
    | woken hphase hwoken =>
      simp [permits, hwoken] at hspent ⊢
      omega
    | asked =>
      simp [permits] at hspent ⊢
      omega
    | @chose cause hphase hcause =>
      have hless := permits_choose hphase hcause
      have hdeeds : ∀ d, d ≠ .chose cause → (w.choose cause).deeds.count d = w.deeds.count d := by
        intro d hd
        simp [choose, hd.symm]
      rw [hdeeds (.began .request) (by simp), hdeeds .asked (by simp)]
      omega
    | @began cause hphase =>
      cases cause <;> simp [hphase, permits, FlushPhase.requested] at hspent ⊢ <;> omega
    | stored hphase | failed hphase | clean hphase =>
      simpa [hphase, permits, FlushPhase.requested] using hspent
    | @ended cause report hphase =>
      cases cause <;> simpa [hphase, permits, FlushPhase.requested] using hspent

theorem alert_start {interval now : Nat} (positive : 0 < interval) (g : Registry) (s : σ) :
    (start interval positive now g s).Alert where
  heard := by
    intro hunheard
    obtain ⟨-, d, hmem, rfl⟩ := Since.exists_mem hunheard
    exact absurd hmem (not_mem_marks rfl)
  begun := by
    intro cause hunbegun
    obtain ⟨-, d, hmem, rfl⟩ := Since.exists_mem hunbegun
    exact absurd hmem (not_mem_marks rfl)
  ended := by
    intro cause hunended
    obtain ⟨-, d, hmem, rfl⟩ := Since.exists_mem hunended
    exact absurd hmem (not_mem_marks rfl)
  chosen := nofun
  ordered := throughout_of_mem fun d hmem before cause hd =>
    absurd hmem (not_mem_marks (by rw [hd]; rfl))
  spent := by
    have hnone : g.marks.count (.began .request) = 0 :=
      List.count_eq_zero.mpr (not_mem_marks rfl)
    simp [start, permits, FlushPhase.requested, Flusher.start, hnone]

end FlushLoop

end ChassisRegistry
