import ChassisRegistry.Proofs.LockFloor
import Mathlib.Logic.Relation

/-! # No deadlock

    On a floor in order nobody waits for a lock with another lock in hand, and
    nobody waits for the outside with the lock of all sites in hand. Whoever has
    the lock of all sites can go on at once, and whoever has the lock of a site
    can go on or waits for the outside. So whoever waits, waits in the end for
    somebody who can go on or for the outside, and at a site only for those who
    have business there.

    Main statement: `Floor.untangled`. -/

namespace ChassisRegistry

namespace Floor

variable {ι : Type} [DecidableEq ι]

/-! ## Section 1: Waiting -/

/-- A party can take a step. -/
def CanStep (f : Floor ι) (p : Party ι) : Prop := ∃ f', f.step? p = some f'

omit [DecidableEq ι] in
/-- A party waits for the outside. -/
def Outstanding (f : Floor ι) (p : Party ι) : Prop :=
  ∃ d next, f.post p = .awaitingReply d next

omit [DecidableEq ι] in
/-- A party has the lock of all sites. -/
def HasAll (f : Floor ι) (p : Party ι) : Prop := p ∈ f.readers ∨ f.writer = some p

omit [DecidableEq ι] in
/-- A party has begun and is not over. -/
def Unfinished (f : Floor ι) (p : Party ι) : Prop :=
  (f.post p).Active ∨ f.post p = .joining

end Floor

/-- Whom a party waits for: its task, the first in its line or queue, and who has the lock that it
    wants. -/
inductive Floor.WaitsFor {ι : Type} (f : Floor ι) : Party ι → Party ι → Prop where
  | task {t : ι} (hpost : f.post (.caller t) = .joining) : WaitsFor f (.caller t) (.task t)
  | line {p q : Party ι} {mode mode' : Mode} {next : Route}
      (hpost : f.post p = .awaitingAll mode next) (hfirst : f.line.head? = some (q, mode')) :
      WaitsFor f p q
  | all {p q : Party ι} {mode : Mode} {next : Route} (hpost : f.post p = .awaitingAll mode next)
      (hhas : f.HasAll q) : WaitsFor f p q
  | queue {p q : Party ι} {site : Site} {next : Route} (hpost : f.post p = .awaiting site next)
      (hfirst : (f.queue site).head? = some q) : WaitsFor f p q
  | site {p q : Party ι} {site : Site} {next : Route} (hpost : f.post p = .awaiting site next)
      (hholds : f.holder site = some q) : WaitsFor f p q

namespace Floor

variable {ι : Type} [DecidableEq ι] {load : ι → Duty} {f : Floor ι} {p : Party ι}

/-- Nobody waits in vain on a floor. -/
structure Untangled (load : ι → Duty) (f : Floor ι) : Prop where
  /-- Nobody has the locks of two sites. -/
  oneSite    : ∀ p site site', f.holder site = some p → f.holder site' = some p → site = site'
  /-- Nobody waits for the lock of all sites with a lock in hand. -/
  awaitsAll  : ∀ p mode next, f.post p = .awaitingAll mode next →
    ¬ f.HasAll p ∧ ∀ site, f.holder site ≠ some p
  /-- Nobody waits for the lock of a site with a lock in hand. -/
  awaitsSite : ∀ p site next, f.post p = .awaiting site next →
    ¬ f.HasAll p ∧ ∀ site, f.holder site ≠ some p
  /-- Nobody waits for the outside, or has the lock of a site, with the lock of all sites in
      hand. -/
  brief      : ∀ p, f.HasAll p → ¬ f.Outstanding p ∧ f.CanStep p ∧ ∀ site, f.holder site ≠ some p
  /-- Who has the lock of all sites for writing is the only one to have it. -/
  alone      : ∀ p q, f.writer = some p → f.HasAll q → q = p
  /-- Whoever is not over waits for somebody who can go on or waits for the outside. -/
  progress   : ∀ p, f.Unfinished p →
    ∃ q, Relation.ReflTransGen f.WaitsFor p q ∧ (f.CanStep q ∨ f.Outstanding q)
  /-- In a queue are those who wait for the lock. -/
  queued     : ∀ p site, p ∈ f.queue site ↔ ∃ next, f.post p = .awaiting site next
  /-- Who comes first in the queue of a site takes the lock, if nobody has it. -/
  opens      : ∀ p site, (f.queue site).head? = some p → f.holder site = none →
    ∃ f', f.step? p = some f' ∧ f'.holder site = some p
  /-- Who has the lock of a site has business there, and can go on or waits for the outside. -/
  keeps      : ∀ p site, f.holder site = some p →
    (load p.job).Concerns site ∧ (f.CanStep p ∨ f.Outstanding p)

end Floor

/-! ## Section 2: Who can go on -/

/-- What a party does that stands here. -/
def Standing.Tells : Standing → Post → Prop
  | free, _ => True
  | inLine mode, post => ∃ next, post = .awaitingAll mode next
  | all _, post => ∃ route, post = .going route
  | inQueue place, post => ∃ next, post = .awaiting place next
  | site _, post => (∃ route, post = .going route) ∨ ∃ d next, post = .awaitingReply d next

/-- Only who waits for a lock stands in a line or a queue, and who has a lock is on its way, or
    waits for the outside with the lock of a site. -/
theorem Post.Fits.tells {concerns known : Site → Prop} {caller : Prop} {post : Post} {st : Standing}
    (h : post.Fits concerns caller known st) : st.Tells post := by
  cases post with
  | going route =>
    rcases Route.Fits.standing h with rfl | ⟨_, rfl⟩ | ⟨_, rfl⟩
    · trivial
    · exact ⟨route, rfl⟩
    · exact Or.inl ⟨route, rfl⟩
  | awaitingAll mode next =>
    obtain ⟨rfl, _⟩ := h
    exact ⟨next, rfl⟩
  | awaiting site next =>
    obtain ⟨rfl, _⟩ := h
    exact ⟨next, rfl⟩
  | awaitingReply d next =>
    rcases h.1 with rfl | ⟨_, rfl⟩
    · trivial
    · exact Or.inr ⟨d, next, rfl⟩
  | joining | gone =>
    obtain ⟨rfl, _⟩ := h
    trivial
  | absent | done result =>
    obtain rfl := h
    trivial

namespace Floor

variable {ι : Type} {load : ι → Duty} {f : Floor ι} {p : Party ι} {site : Site}

theorem Sound.exists_standing (h : f.Sound load) (p : Party ι) :
    ∃ st, f.Stands p st ∧ st.Tells (f.post p) := by
  obtain ⟨st, hstands, hfits⟩ := h.fits p
  exact ⟨st, hstands, hfits.tells⟩

/-- Who has the lock of all sites is on its way. -/
theorem Sound.going_of_all (h : f.Sound load) (hhas : f.HasAll p) :
    (∃ mode, f.Stands p (.all mode)) ∧ ∃ route, f.post p = .going route := by
  obtain ⟨st, hstands, htells⟩ := h.exists_standing p
  have hall : ∃ mode, st = .all mode := by
    rcases hhas with hreads | hwrites
    · exact ⟨_, hstands.reads.mp hreads⟩
    · exact ⟨_, hstands.writes.mp hwrites⟩
  obtain ⟨mode, rfl⟩ := hall
  exact ⟨⟨mode, hstands⟩, htells⟩

/-- Who has the lock of a site is on its way or waits for the outside. -/
theorem Sound.of_holder (h : f.Sound load) (hholds : f.holder site = some p) :
    f.Stands p (.site site) ∧ ((∃ route, f.post p = .going route) ∨ f.Outstanding p) := by
  obtain ⟨st, hstands, htells⟩ := h.exists_standing p
  obtain rfl := (hstands.holds site).mp hholds
  exact ⟨hstands, htells⟩

/-- Who stands in the line waits for the lock of all sites. -/
theorem Sound.of_mem_line (h : f.Sound load) {mode : Mode} (hmem : (p, mode) ∈ f.line) :
    ∃ next, f.post p = .awaitingAll mode next := by
  obtain ⟨st, hstands, htells⟩ := h.exists_standing p
  obtain rfl := (hstands.inLine mode).mp hmem
  exact htells

/-- Who waits for the lock of all sites stands in the line. -/
theorem Sound.inLine_of_awaitingAll (h : f.Sound load) {mode : Mode} {next : Route}
    (hpost : f.post p = .awaitingAll mode next) : f.Stands p (.inLine mode) := by
  obtain ⟨st, hstands, hfits⟩ := h.fits p
  rw [hpost] at hfits
  obtain ⟨rfl, _⟩ := hfits
  exact hstands

/-- Who waits for the lock of a site stands in its queue. -/
theorem Sound.inQueue_of_awaiting (h : f.Sound load) {next : Route}
    (hpost : f.post p = .awaiting site next) : f.Stands p (.inQueue site) := by
  obtain ⟨st, hstands, hfits⟩ := h.fits p
  rw [hpost] at hfits
  obtain ⟨rfl, _⟩ := hfits
  exact hstands

theorem Sound.mem_queue_iff (h : f.Sound load) :
    p ∈ f.queue site ↔ ∃ next, f.post p = .awaiting site next := by
  constructor
  · intro hmem
    obtain ⟨st, hstands, htells⟩ := h.exists_standing p
    obtain rfl := (hstands.queued site).mp hmem
    exact htells
  · rintro ⟨next, hpost⟩
    exact ((h.inQueue_of_awaiting hpost).queued site).mpr rfl

/-- Who stands at one lock has no other one. -/
theorem not_hasAll {st : Standing} (hstands : f.Stands p st) (hother : ∀ mode, st ≠ .all mode) :
    ¬ f.HasAll p := by
  intro hhas
  rcases hhas with hreads | hwrites
  · exact hother _ (hstands.reads.mp hreads)
  · exact hother _ (hstands.writes.mp hwrites)

theorem not_holds {st : Standing} (hstands : f.Stands p st)
    (hother : ∀ site, st ≠ .site site) (site : Site) : f.holder site ≠ some p := by
  intro hholds
  exact hother site ((hstands.holds site).mp hholds)

variable [DecidableEq ι]

/-- A party on its way can take a step. -/
theorem Sound.canStep_of_going (h : f.Sound load) {route : Route}
    (hpost : f.post p = .going route) : f.CanStep p := by
  obtain ⟨st, _, hfits⟩ := h.fits p
  rw [hpost] at hfits
  unfold CanStep step?
  rw [hpost]
  cases route with
  | atSite site write next =>
    obtain ⟨_, ⟨e, hfound⟩, _⟩ := hfits
    simp only [hfound]
    exact ⟨_, rfl⟩
  | detach work =>
    cases p with
    | caller t => exact ⟨_, rfl⟩
    | task t => exact hfits.2.1.elim
  | _ => exact ⟨_, rfl⟩

theorem Sound.canStep_of_hasAll (h : f.Sound load) (hhas : f.HasAll p) : f.CanStep p := by
  obtain ⟨_, _, hpost⟩ := h.going_of_all hhas
  exact h.canStep_of_going hpost

theorem Sound.canStep_of_holder (h : f.Sound load) (hholds : f.holder site = some p) :
    f.CanStep p ∨ f.Outstanding p := by
  rcases (h.of_holder hholds).2 with ⟨_, hpost⟩ | houtside
  · exact Or.inl (h.canStep_of_going hpost)
  · exact Or.inr houtside

/-- Who comes first in the queue of a site takes the lock, if nobody has it. -/
theorem Sound.exists_take (h : f.Sound load) (hfirst : (f.queue site).head? = some p)
    (hfree : f.holder site = none) : ∃ f', f.step? p = some f' ∧ f'.holder site = some p := by
  obtain ⟨next, hpost⟩ := h.mem_queue_iff.mp (List.mem_of_mem_head? hfirst)
  have hopens : f.Opens p site := ⟨hfirst, hfree⟩
  refine ⟨(f.take p site).move p (.going next), ?_, ?_⟩
  · simp only [step?, hpost, if_pos hopens]
  · simp only [move, take, Function.update_self]

/-! ## Section 3: Progress -/

/-- Who waits for the lock of all sites waits for somebody who can go on: the first in the line, or
    one who has the lock. -/
theorem Sound.progress_of_awaitingAll (h : f.Sound load) {mode : Mode} {next : Route}
    (hpost : f.post p = .awaitingAll mode next) : ∃ q, f.WaitsFor p q ∧ f.CanStep q := by
  have hmem : (p, mode) ∈ f.line := ((h.inLine_of_awaitingAll hpost).inLine mode).mpr rfl
  cases hline : f.line with
  | nil =>
    rw [hline] at hmem
    cases hmem
  | cons head rest =>
    obtain ⟨q, wanted⟩ := head
    have hhead : f.line.head? = some (q, wanted) := by rw [hline, List.head?_cons]
    by_cases hadmits : f.Admits q wanted
    · obtain ⟨next', hpost'⟩ := h.of_mem_line (List.mem_of_mem_head? hhead)
      refine ⟨q, .line hpost hhead, (f.takeAll q wanted).move q (.going next'), ?_⟩
      simp only [step?, hpost', if_pos hadmits]
    · -- The first in the line is kept out by who has the lock.
      have hhas : ∃ u, f.HasAll u := by
        by_contra hnobody
        have hwriter : f.writer = none := by
          rw [Option.eq_none_iff_forall_ne_some]
          exact fun u hu => hnobody ⟨u, Or.inr hu⟩
        have hreaders : f.readers = [] := by
          rw [List.eq_nil_iff_forall_not_mem]
          exact fun u hu => hnobody ⟨u, Or.inl hu⟩
        exact hadmits ⟨hhead, hwriter, fun _ => hreaders⟩
      obtain ⟨u, hu⟩ := hhas
      exact ⟨u, .all hpost hu, h.canStep_of_hasAll hu⟩

/-- Who waits for the lock of a site waits for the first in the queue, who takes it, or for who has
    it. -/
theorem Sound.progress_of_awaiting (h : f.Sound load) {next : Route}
    (hpost : f.post p = .awaiting site next) :
    ∃ q, f.WaitsFor p q ∧ (f.CanStep q ∨ f.Outstanding q) := by
  have hmem : p ∈ f.queue site := h.mem_queue_iff.mpr ⟨next, hpost⟩
  cases hholder : f.holder site with
  | some q => exact ⟨q, .site hpost hholder, h.canStep_of_holder hholder⟩
  | none =>
    obtain ⟨q, hfirst⟩ : ∃ q, (f.queue site).head? = some q := by
      cases hqueue : f.queue site with
      | nil =>
        rw [hqueue] at hmem
        cases hmem
      | cons q rest => exact ⟨q, List.head?_cons⟩
    obtain ⟨f', hstep, _⟩ := h.exists_take hfirst hholder
    exact ⟨q, .queue hpost hfirst, Or.inl ⟨f', hstep⟩⟩

/-- Whoever is not over, and does not wait for a task, waits for somebody who can go on or waits for
    the outside. -/
theorem Sound.progress_of_active (h : f.Sound load) (hactive : (f.post p).Active) :
    ∃ q, Relation.ReflTransGen f.WaitsFor p q ∧ (f.CanStep q ∨ f.Outstanding q) := by
  cases hpost : f.post p with
  | going route => exact ⟨p, .refl, Or.inl (h.canStep_of_going hpost)⟩
  | awaitingReply d next => exact ⟨p, .refl, Or.inr ⟨d, next, hpost⟩⟩
  | awaitingAll mode next =>
    obtain ⟨q, hwaits, hgoes⟩ := h.progress_of_awaitingAll hpost
    exact ⟨q, .single hwaits, Or.inl hgoes⟩
  | awaiting site next =>
    obtain ⟨q, hwaits, hgoes⟩ := h.progress_of_awaiting hpost
    exact ⟨q, .single hwaits, hgoes⟩
  | _ =>
    rw [hpost] at hactive
    exact hactive.elim

theorem Sound.progress (h : f.Sound load) (hunfinished : f.Unfinished p) :
    ∃ q, Relation.ReflTransGen f.WaitsFor p q ∧ (f.CanStep q ∨ f.Outstanding q) := by
  rcases hunfinished with hactive | hjoining
  · exact h.progress_of_active hactive
  · obtain ⟨st, _, hfits⟩ := h.fits p
    rw [hjoining] at hfits
    cases p with
    | task t => exact hfits.2.elim
    | caller t =>
      obtain ⟨_, _, htask⟩ := h.fits (.task t)
      -- A task does not wait for a task, and nobody can give it up.
      by_cases hactive : (f.post (.task t)).Active
      · obtain ⟨q, hpath, hgoes⟩ := h.progress_of_active hactive
        exact ⟨q, .head (.task hjoining) hpath, hgoes⟩
      · cases hpost : f.post (.task t) with
        | done result =>
          refine ⟨.caller t, .refl, Or.inl ⟨f.move (.caller t) (.done result), ?_⟩⟩
          simp only [step?, hjoining, Party.job, hpost]
        | absent => exact absurd hpost ((h.paired t).late hjoining)
        | joining | gone =>
          rw [hpost] at htask
          exact htask.2.elim
        | _ =>
          rw [hpost] at hactive
          exact absurd trivial hactive

/-! ## Section 4: Every run -/

theorem untangled_of_sound (h : f.Sound load) : f.Untangled load where
  oneSite p site site' hholds hholds' := by
    have hst := ((h.of_holder hholds).1.holds site').mp hholds'
    cases hst
    rfl
  awaitsAll p mode next hpost := by
    have hstands := h.inLine_of_awaitingAll hpost
    exact ⟨not_hasAll hstands (by simp), not_holds hstands (by simp)⟩
  awaitsSite p site next hpost := by
    have hstands := h.inQueue_of_awaiting hpost
    exact ⟨not_hasAll hstands (by simp), not_holds hstands (by simp)⟩
  brief p hhas := by
    obtain ⟨⟨mode, hstands⟩, route, hpost⟩ := h.going_of_all hhas
    refine ⟨?_, h.canStep_of_going hpost, not_holds hstands (by simp)⟩
    rintro ⟨d, next, hwaits⟩
    rw [hpost] at hwaits
    cases hwaits
  alone p q hwriter hhas := by
    rcases hhas with hreads | hwrites
    · rw [h.alone p hwriter] at hreads
      cases hreads
    · rw [hwriter, Option.some.injEq] at hwrites
      exact hwrites.symm
  progress p hunfinished := h.progress hunfinished
  queued p site := h.mem_queue_iff
  opens p site hfirst hfree := h.exists_take hfirst hfree
  keeps p site hholds := ⟨h.held site p hholds, h.canStep_of_holder hholds⟩

/-- **No deadlock**: with any operations under way in any interleaving, with any replies at any
    time and with callers that give up, nobody waits in vain; and the steps that are interleaved
    are those of the operations. -/
theorem untangled (load : ι → Duty) (g : Registry) (events : List (Event ι)) :
    ((start load g).run events).Untangled load ∧
      ∀ (t : ι) (σ : Type) (o : Outside σ) (g : Registry) (s : σ),
        (load t).route.run o g s = (load t).alone o g s :=
  ⟨untangled_of_sound ((sound_start load g).run events), fun t _ o g s => (load t).run_route o g s⟩

end Floor

end ChassisRegistry
