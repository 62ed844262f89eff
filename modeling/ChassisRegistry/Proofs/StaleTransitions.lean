import ChassisRegistry.Proofs.TerminalMachine

/-! # Transitions that are held back

    Preparing a transition checks the state of its terminal, committing it
    does not. A caller that keeps transitions, and commits them in any order,
    has every one of them written. It leaves the way from inactive to active
    and back only with a transition that has gone stale: as long as nothing
    else was committed at its coordinate, the state that it started from
    still holds.

    Main statement: `Record.Reachable.commits`. -/

namespace ChassisRegistry

/-! ## Section 1: Preparing and committing -/

namespace Record

variable {r : Record}

/-- Whatever was prepared for a bound coordinate of the site is written. -/
theorem Coherent.commit_written (h : r.Coherent) {t : Transition} {old : Cell}
    (hsite : t.site = r.site) (hcell : r.cell? t.coordinate = some old) :
    (r.commit t).1 = .ok t.action.target ∧ (r.commit t).2.site = r.site ∧
      (r.commit t).2.cell? =
        Function.update r.cell? t.coordinate (some (t.written old)) := by
  rcases h.terminal_cases t.coordinate with ⟨_, hnone, _⟩ | ⟨here, there, hbound, hold, hsome, _⟩
  · rw [hnone] at hcell
    cases hcell
  · rw [hsome, Option.some.injEq] at hcell
    rw [commit_of_terminal hsite hbound hold, hcell]
    exact ⟨rfl, rfl, h.cell?_writeCell hbound _⟩

/-- What is prepared is for its site, and starts from the present state. -/
theorem Coherent.source_of_prepare (h : r.Coherent) {c : TerminalCoordinate}
    {request : TerminalRequest} {t : Transition} (hprepare : r.prepare c request = .ok t) :
    t.site = r.site ∧ t.coordinate = c ∧
      ∃ old, r.cell? c = some old ∧ old.state = t.action.source := by
  cases hrespond : r.machine.respond c request with
  | error e =>
    rw [h.prepare_refused hrespond] at hprepare
    cases hprepare
  | ok cell =>
    obtain ⟨old, hold, hstate⟩ := Machine.state_of_respond hrespond
    rcases h.terminal_cases c with ⟨_, hnone, _⟩ | ⟨here, _, hbound, _, _, _⟩
    · exact absurd (hnone.symm.trans hold) nofun
    · obtain ⟨notice, _, hprepared⟩ := h.exists_prepared hbound hrespond
      rw [hprepared] at hprepare
      cases hprepare
      exact ⟨rfl, rfl, old, hold, hstate⟩

end Record

/-! ## Section 2: Sessions -/

/-- A transition in the hands of a caller. -/
structure HeldTransition where
  transition : Transition
  /-- Nothing was committed at its coordinate since it was prepared. -/
  current    : Bool

/-- A record, and the transitions that were prepared on it. -/
structure Session where
  record : Record
  held   : List HeldTransition

namespace Session

/-- A call on the record of a session. -/
inductive Step where
  | prepare (c : TerminalCoordinate) (request : TerminalRequest)
  /-- Commits the transition that was prepared as number `i`, for the first time or again. -/
  | commit (i : Nat)
  deriving DecidableEq

/-- The transitions after one was committed at a coordinate. -/
def outdated (c : TerminalCoordinate) (held : List HeldTransition) : List HeldTransition :=
  held.map fun k => if k.transition.coordinate = c then { k with current := false } else k

/-- The session after a call. -/
def step (s : Session) : Step → Session
  | .prepare c request =>
      match s.record.prepare c request with
      | .error _ => s
      | .ok t => { s with held := s.held ++ [⟨t, true⟩] }
  | .commit i =>
      match s.held[i]? with
      | none => s
      | some k =>
          ⟨(s.record.commit k.transition).2, outdated k.transition.coordinate s.held⟩

/-- What is known of a transition that is held. -/
structure Ready (r : Record) (k : HeldTransition) : Prop where
  site    : k.transition.site = r.site
  cell    : (r.cell? k.transition.coordinate).isSome
  current : k.current = true →
    (r.cell? k.transition.coordinate).map Cell.state = some k.transition.action.source

/-- What every call preserves. -/
structure Sound (s : Session) : Prop where
  coherent : s.record.Coherent
  ready    : ∀ k ∈ s.held, Ready s.record k

theorem Sound.step {s : Session} (h : s.Sound) (call : Step) : (s.step call).Sound := by
  cases call with
  | prepare c request =>
    simp only [Session.step]
    cases hprepare : s.record.prepare c request with
    | error e => exact h
    | ok t =>
      obtain ⟨hsite, rfl, old, hold, hstate⟩ := h.coherent.source_of_prepare hprepare
      refine ⟨h.coherent, ?_⟩
      intro k hk
      rcases List.mem_append.mp hk with hk | hk
      · exact h.ready k hk
      · obtain rfl := List.mem_singleton.mp hk
        exact ⟨hsite, by simp [hold], fun _ => by simp [hold, hstate]⟩
  | commit i =>
    simp only [Session.step]
    cases hi : s.held[i]? with
    | none => exact h
    | some k =>
      have hready := h.ready k (List.mem_of_getElem? hi)
      obtain ⟨old, hold⟩ := Option.isSome_iff_exists.mp hready.cell
      obtain ⟨_, hsite, hcells⟩ := h.coherent.commit_written hready.site hold
      refine ⟨h.coherent.commit _, ?_⟩
      intro other hmem
      obtain ⟨before, hbefore, rfl⟩ := List.mem_map.mp hmem
      have hother := h.ready before hbefore
      -- At the coordinate nothing is current any more; elsewhere the cells are as they were.
      by_cases heq : before.transition.coordinate = k.transition.coordinate
      · rw [if_pos heq]
        exact ⟨hother.site.trans hsite.symm, by simp [hcells, heq], nofun⟩
      · rw [if_neg heq]
        have hsame : (s.record.commit k.transition).2.cell? before.transition.coordinate =
            s.record.cell? before.transition.coordinate := by
          rw [hcells, Function.update_of_ne heq]
        exact ⟨hother.site.trans hsite.symm, by rw [hsame]; exact hother.cell,
          by rw [hsame]; exact hother.current⟩

theorem Sound.foldl {s : Session} (h : s.Sound) (calls : List Step) :
    (calls.foldl Session.step s).Sound := by
  induction calls generalizing s with
  | nil => exact h
  | cons call rest ih => exact ih (h.step call)

/-! ## Section 3: What committing does -/

/-- How a held transition is committed. -/
structure Commits (r : Record) (k : HeldTransition) : Prop where
  /-- It is never refused, and makes the terminal what its action leads to. -/
  accepted : (r.commit k.transition).1 = .ok k.transition.action.target ∧
    (r.commit k.transition).2.terminalState k.transition.coordinate = k.transition.action.target
  /-- What was stored is replaced, unless it deactivates. No other terminal changes. -/
  written : ∃ old, r.cell? k.transition.coordinate = some old ∧
    (r.commit k.transition).2.cell? =
      Function.update r.cell? k.transition.coordinate (some (k.transition.written old))
  /-- It is committed in the state that it was prepared in, unless another one was committed at
      its coordinate in between. -/
  current : k.current = true →
    r.terminalState k.transition.coordinate = k.transition.action.source

theorem Sound.commits_held {s : Session} (h : s.Sound) {k : HeldTransition} (hk : k ∈ s.held) :
    Commits s.record k := by
  have hready := h.ready k hk
  obtain ⟨old, hold⟩ := Option.isSome_iff_exists.mp hready.cell
  obtain ⟨haccepted, _, hcells⟩ := h.coherent.commit_written hready.site hold
  refine ⟨⟨haccepted, ?_⟩, ⟨old, hold, hcells⟩, ?_⟩
  · rw [(h.coherent.commit k.transition).terminalState_eq, hcells, Function.update_self,
      Option.map_some, Option.getD_some, Transition.state_written]
  · intro hcurrent
    rw [h.coherent.terminalState_eq, hready.current hcurrent]
    rfl

end Session

namespace Record

open Session (Commits)

/-- Whatever is prepared on a reachable record and held is committed without a refusal, and by the
    diagram as long as it is current. -/
theorem Reachable.commits {r : Record} (h : Reachable r) (calls : List Session.Step) :
    ∀ k ∈ (calls.foldl Session.step ⟨r, []⟩).held,
      Commits (calls.foldl Session.step ⟨r, []⟩).record k := by
  have hstart : Session.Sound ⟨r, []⟩ := ⟨h.coherent, by simp⟩
  intro k hk
  exact (hstart.foldl calls).commits_held hk

/-- Values for later and an activation are both prepared while a terminal is inactive. Then the
    activation is committed. -/
def overtaken (c : TerminalCoordinate) : List Session.Step :=
  [.prepare c (.preProvision none none "" "" none none), .prepare c (.activate "sn-1"), .commit 1]

theorem commits_overtaken :
    let s := (overtaken ⟨⟨⟨0, by decide⟩, ⟨0, by decide⟩⟩, ⟨0, by decide⟩⟩).foldl Session.step
      ⟨oneCard, []⟩
    Reachable oneCard ∧
      ∃ k ∈ s.held, k.transition.action = .preProvision ∧ k.current = false ∧
        Commits s.record k := by
  intro s
  have hheld : s.held.any
      fun k => decide (k.transition.action = .preProvision ∧ k.current = false) := by
    decide +kernel
  obtain ⟨k, hk, hstale⟩ := List.any_eq_true.mp hheld
  obtain ⟨haction, hcurrent⟩ := of_decide_eq_true hstale
  exact ⟨reachable_oneCard, k, hk, haction, hcurrent,
    Reachable.commits reachable_oneCard (overtaken _) k hk⟩

/-- The values are committed last. They make the active terminal inactive, and take away its serial
    number. -/
theorem overtaken_leaves_diagram :
    let c : TerminalCoordinate := ⟨⟨⟨0, by decide⟩, ⟨0, by decide⟩⟩, ⟨0, by decide⟩⟩
    let s := (overtaken c).foldl Session.step ⟨oneCard, []⟩
    s.held[0]?.map (·.transition.action) = some .preProvision ∧
      s.record.terminalState c = .active ∧
      (s.record.cell? c).map (·.service.serial) = some "sn-1" ∧
      (s.step (.commit 0)).record.terminalState c = .inactive ∧
      ((s.step (.commit 0)).record.cell? c).map (·.service.serial) = some "" := by
  decide +kernel

end Record

end ChassisRegistry
