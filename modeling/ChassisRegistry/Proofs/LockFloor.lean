import ChassisRegistry.Proofs.Errands
import ChassisRegistry.Proofs.Routes
import Mathlib.Logic.Function.Basic

/-! # The floor

    Callers and their tasks follow their routes at the same time and meet at
    the locks: the lock of all sites, which readers share and a writer has for
    itself, and the locks of the sites. Each lock is handed out in the order of
    asking. The outside replies when it likes and what it likes, and callers may
    stop waiting at any time.

    A floor does not keep anybody from taking locks in a bad order; a route may
    fit or not (`Route.Fits`). The routes of all operations fit
    (`Duty.fits_route`), and then every party stands at one lock at most, which
    is what every step preserves.

    Main statement: `Floor.Sound.run`. -/

namespace ChassisRegistry

/-! ## Section 1: Floors -/

/-- How far a party has come on its route. -/
inductive Post where
  /-- There is no such task. -/
  | absent
  | going (route : Route)
  /-- It waits for the lock of all sites. -/
  | awaitingAll (mode : Mode) (next : Route)
  /-- It waits for the lock of a site. -/
  | awaiting (site : Site) (next : Route)
  /-- It waits for the outside. -/
  | awaitingReply (d : Demand) (next : d.Reply → Route)
  /-- It waits for its task. -/
  | joining
  | done (result : Duty.Result)
  /-- It has stopped waiting. -/
  | gone

/-- The locks between parties. -/
structure Locks (ι : Type) where
  /-- Who has the lock of all sites together with others. -/
  readers  : List (Party ι)
  /-- Who has the lock of all sites alone. -/
  writer   : Option (Party ι)
  /-- Who waits for the lock of all sites, first come first. -/
  line     : List (Party ι × Mode)
  /-- Who has the lock of a site. -/
  holder   : Site → Option (Party ι)
  /-- Who waits for the lock of a site, first come first. -/
  queue    : Site → List (Party ι)

/-- Parties at work on the sites. -/
structure Floor (ι : Type) extends Locks ι where
  registry : Registry
  post     : Party ι → Post

namespace Floor

variable {ι : Type} [DecidableEq ι]

/-- A party goes on to another post. -/
def move (f : Floor ι) (p : Party ι) (post : Post) : Floor ι :=
  { f with post := Function.update f.post p post }

def joinLine (f : Floor ι) (p : Party ι) (mode : Mode) : Floor ι :=
  { f with line := f.line ++ [(p, mode)] }

/-- The first in the line leaves it and has the lock of all sites. -/
def takeAll (f : Floor ι) (p : Party ι) : Mode → Floor ι
  | .shared => { f with line := f.line.filter (·.1 ≠ p), readers := p :: f.readers }
  | .exclusive => { f with line := f.line.filter (·.1 ≠ p), writer := some p }

def giveAll (f : Floor ι) (p : Party ι) : Floor ι :=
  { f with
    readers := f.readers.filter (· ≠ p)
    writer  := if f.writer = some p then none else f.writer }

def joinQueue (f : Floor ι) (p : Party ι) (site : Site) : Floor ι :=
  { f with queue := Function.update f.queue site (f.queue site ++ [p]) }

/-- The first in the queue leaves it and has the lock of the site. -/
def take (f : Floor ι) (p : Party ι) (site : Site) : Floor ι :=
  { f with
    queue  := Function.update f.queue site ((f.queue site).filter (· ≠ p))
    holder := Function.update f.holder site (some p) }

def give (f : Floor ι) (site : Site) : Floor ι :=
  { f with holder := Function.update f.holder site none }

/-- The locks without a party: it has none and waits for none. -/
def without (f : Floor ι) (p : Party ι) : Floor ι :=
  { f with
    readers := f.readers.filter (· ≠ p)
    writer  := if f.writer = some p then none else f.writer
    line    := f.line.filter (·.1 ≠ p)
    holder  := fun site => if f.holder site = some p then none else f.holder site
    queue   := fun site => (f.queue site).filter (· ≠ p) }

/-! ## Section 2: Steps -/

/-- The lock of all sites is free for a party: it comes first in the line, nobody has the lock
    alone, and who wants it alone meets no readers. -/
def Admits (f : Floor ι) (p : Party ι) (mode : Mode) : Prop :=
  f.line.head? = some (p, mode) ∧ f.writer = none ∧ (mode = .exclusive → f.readers = [])

instance (f : Floor ι) (p : Party ι) (mode : Mode) : Decidable (f.Admits p mode) :=
  inferInstanceAs (Decidable (_ ∧ _ ∧ (_ → _)))

/-- The lock of a site is free for a party: it comes first in the queue, and nobody has the
    lock. -/
def Opens (f : Floor ι) (p : Party ι) (site : Site) : Prop :=
  (f.queue site).head? = some p ∧ f.holder site = none

instance (f : Floor ι) (p : Party ι) (site : Site) : Decidable (f.Opens p site) :=
  inferInstanceAs (Decidable (_ ∧ _))

/-- The next step of a party, if it can take one. -/
def step? (f : Floor ι) (p : Party ι) : Option (Floor ι) :=
  match f.post p with
  | .going (.lockAll mode next) => some ((f.joinLine p mode).move p (.awaitingAll mode next))
  | .going (.atAll write next) =>
      some { f.move p (.going (next f.registry)) with registry := write f.registry }
  | .going (.unlockAll next) => some ((f.giveAll p).move p (.going next))
  | .going (.lock site next) => some ((f.joinQueue p site).move p (.awaiting site next))
  | .going (.atSite site write next) =>
      match f.registry.entries.find? site with
      | some e => some { f.move p (.going (next e)) with registry := f.registry.put site (write e) }
      | none => none
  | .going (.unlock site next) => some ((f.give site).move p (.going next))
  | .going (.send d next) => some (f.move p (.awaitingReply d next))
  | .going (.detach work) =>
      match p with
      | .caller t => some ((f.move (.caller t) .joining).move (.task t) (.going work))
      -- A task has no task of its own.
      | .task _ => none
  | .going (.finish result) => some (f.move p (.done result))
  | .awaitingAll mode next =>
      if f.Admits p mode then some ((f.takeAll p mode).move p (.going next)) else none
  | .awaiting site next =>
      if f.Opens p site then some ((f.take p site).move p (.going next)) else none
  | .joining =>
      match f.post (.task p.job) with
      | .done result => some (f.move p (.done result))
      | _ => none
  | .awaitingReply _ _ | .absent | .done _ | .gone => none

/-- A caller stops waiting, unless it is over. -/
def giveUp (f : Floor ι) (t : ι) : Floor ι :=
  match f.post (.caller t) with
  | .absent | .done _ => f
  | _ => (f.without (.caller t)).move (.caller t) .gone

/-- What may come next. An event that cannot come changes nothing. -/
inductive Event (ι : Type) where
  | step (p : Party ι)
  /-- The outside replies to what a party asks for, whatever that is. -/
  | reply (p : Party ι) (answer : (d : Demand) → d.Reply)
  | giveUp (t : ι)

/-- The floor after an event. -/
def after (f : Floor ι) : Event ι → Floor ι
  | .step p => (f.step? p).getD f
  | .reply p answer =>
      match f.post p with
      | .awaitingReply d next => f.move p (.going (next (answer d)))
      | _ => f
  | .giveUp t => f.giveUp t

/-- The floor after a run of events. -/
def run (f : Floor ι) (events : List (Event ι)) : Floor ι := events.foldl after f

/-- Everybody has an operation ahead, and all locks are free. -/
def start (load : ι → Duty) (g : Registry) : Floor ι where
  registry := g
  readers  := []
  writer   := none
  line     := []
  holder _ := none
  queue _  := []
  post
    | .caller t => .going (load t).route
    | .task _ => .absent

end Floor

/-! ## Section 3: Routes that fit -/

/-- Where a party stands with the locks. -/
inductive Standing where
  | free
  | inLine (mode : Mode)
  | all (mode : Mode)
  | inQueue (site : Site)
  | site (site : Site)

/-- A site is there. -/
def Registry.There (g : Registry) (site : Site) : Prop := ∃ e, g.entries.find? site = some e

/-- A route takes one lock at a time and asks the outside only without the lock of all sites. It
    locks sites that it knows to be there and that concern it, writes under a lock that it has for
    itself, and only a caller leaves work to a task. -/
def Route.Fits (concerns : Site → Prop) : Route → Prop → Standing → (Site → Prop) → Prop
  | lockAll mode next, caller, st, known => st = .free ∧ next.Fits concerns caller (.all mode) known
  | atAll write next, caller, st, known =>
      (st = .all .shared ∧ write = id ∨ st = .all .exclusive) ∧
        ∀ g : Registry, (∀ site, known site → g.There site) →
          (∀ site, g.There site → (write g).There site) ∧
            (next g).Fits concerns caller st g.There
  | unlockAll next, caller, st, known =>
      (∃ mode, st = .all mode) ∧ next.Fits concerns caller .free known
  | lock site next, caller, st, known =>
      st = .free ∧ known site ∧ concerns site ∧ next.Fits concerns caller (.site site) known
  | atSite site _ next, caller, st, known =>
      st = .site site ∧ known site ∧ ∀ e, (next e).Fits concerns caller st known
  | unlock site next, caller, st, known =>
      st = .site site ∧ next.Fits concerns caller .free known
  | send _ next, caller, st, known =>
      (st = .free ∨ ∃ site, st = .site site) ∧
        ∀ reply, (next reply).Fits concerns caller st known
  | detach work, caller, st, known => st = .free ∧ caller ∧ work.Fits concerns False .free known
  | finish _, _, st, _ => st = .free

namespace Route

variable {concerns : Site → Prop} {caller : Prop} {st : Standing} {known known' : Site → Prop}
  {route : Route}

/-- More sites may become known. -/
theorem Fits.mono (h : route.Fits concerns caller st known)
    (hmore : ∀ site, known site → known' site) : route.Fits concerns caller st known' := by
  induction route generalizing caller st known known' with
  | lockAll mode next ih => exact ⟨h.1, ih h.2 hmore⟩
  | atAll write next ih => exact ⟨h.1, fun g hg => h.2 g fun site hsite => hg site (hmore site hsite)⟩
  | unlockAll next ih => exact ⟨h.1, ih h.2 hmore⟩
  | lock site next ih => exact ⟨h.1, hmore site h.2.1, h.2.2.1, ih h.2.2.2 hmore⟩
  | atSite site write next ih => exact ⟨h.1, hmore site h.2.1, fun e => ih e (h.2.2 e) hmore⟩
  | unlock site next ih => exact ⟨h.1, ih h.2 hmore⟩
  | send d next ih => exact ⟨h.1, fun reply => ih reply (h.2 reply) hmore⟩
  | detach work ih => exact ⟨h.1, h.2.1, ih h.2.2 hmore⟩
  | finish result => exact h

/-- A party that is on its way does not stand in a line or a queue. -/
theorem Fits.standing (h : route.Fits concerns caller st known) :
    st = .free ∨ (∃ mode, st = .all mode) ∨ ∃ site, st = .site site := by
  cases route with
  | lockAll mode next => exact Or.inl h.1
  | atAll write next =>
    rcases h.1 with ⟨hst, _⟩ | hst
    · exact Or.inr (Or.inl ⟨_, hst⟩)
    · exact Or.inr (Or.inl ⟨_, hst⟩)
  | unlockAll next => exact Or.inr (Or.inl h.1)
  | lock site next => exact Or.inl h.1
  | atSite site write next => exact Or.inr (Or.inr ⟨site, h.1⟩)
  | unlock site next => exact Or.inr (Or.inr ⟨site, h.1⟩)
  | send d next =>
    rcases h.1 with hst | hst
    · exact Or.inl hst
    · exact Or.inr (Or.inr hst)
  | detach work => exact Or.inl h.1
  | finish result => exact Or.inl h

/-- A look at the sites fits if it goes on with what is there. -/
theorem fits_look {next : Registry → Route}
    (hnext : ∀ g : Registry, (∀ site, known site → g.There site) →
      (next g).Fits concerns caller .free g.There) :
    (look next).Fits concerns caller .free known :=
  ⟨rfl, Or.inl ⟨rfl, rfl⟩, fun g hg => ⟨fun _ hsite => hsite, ⟨_, rfl⟩, hnext g hg⟩⟩

theorem fits_alter {write : Registry → Registry} {next : Registry → Route}
    (hwrite : ∀ g site, g.There site → (write g).There site)
    (hnext : ∀ g : Registry, (next g).Fits concerns caller .free g.There) :
    (alter write next).Fits concerns caller .free known :=
  ⟨rfl, Or.inr rfl, fun g _ => ⟨hwrite g, ⟨_, rfl⟩, hnext g⟩⟩

end Route

/-! ## Section 4: The routes of operations fit -/

/-- The sites that an operation is about. A creation takes the lock of no site. -/
def Duty.Concerns : Duty → Site → Prop
  | request r, site => r.held? = some site
  | ask q, site => q.site = site
  | sites, _ | restore, _ => False
  | dirtySites, _ | inventories, _ | reflow, _ | flush, _ => True

section Fits

variable {concerns : Site → Prop} {caller : Prop} {known : Site → Prop}

/-- A turn keeps to the lock of its site and gives it back. -/
theorem Turn.fits_route {site : Site} (hknown : known site) {next : Visit.Result → Route}
    (hnext : ∀ result, (next result).Fits concerns caller .free known) (turn : Turn) :
    (turn.route site next).Fits concerns caller (.site site) known := by
  induction turn with
  | access write more ih => exact ⟨rfl, hknown, fun e => ih e⟩
  | send m more ih =>
    cases m with
    | call c => exact ⟨Or.inr ⟨site, rfl⟩, fun reply => ih reply⟩
    | blob bytes => exact ⟨Or.inr ⟨site, rfl⟩, fun reply => ih reply⟩
  | leave result => exact ⟨rfl, hnext result⟩

theorem Visit.fits_route {v : Visit} (hknown : known v.site) (hconcerns : concerns v.site)
    {next : Visit.Result → Route} (hnext : ∀ result, (next result).Fits concerns caller .free known) :
    (v.route next).Fits concerns caller .free known :=
  ⟨rfl, hknown, hconcerns, v.turn.fits_route hknown hnext⟩

/-- A pass visits sites that are there, one at a time. -/
theorem Route.fits_pass {α : Type} {visit : Site → Visit} {gather : α → Site → Visit.Result → α}
    {done : α → Route} (hsite : ∀ site, (visit site).site = site) (hconcerns : ∀ site, concerns site)
    (hdone : ∀ found, (done found).Fits concerns caller .free known) {sites : List Site}
    (hsites : ∀ site ∈ sites, known site) (found : α) :
    (pass visit gather done sites found).Fits concerns caller .free known := by
  induction sites generalizing found with
  | nil => exact hdone found
  | cons site rest ih =>
    have hknown : known (visit site).site := by
      rw [hsite]
      exact hsites site List.mem_cons_self
    exact Visit.fits_route hknown (hconcerns _) fun result =>
      ih (fun other hother => hsites other (List.mem_cons_of_mem _ hother)) _

theorem Registry.there_of_mem {g : Registry} {site : Site} (hsite : site ∈ g.sites) :
    g.There site :=
  Option.isSome_iff_exists.mp (SiteMap.contains_iff.mpr hsite)

theorem Registry.Extends.there {g g' : Registry} (h : g.Extends g') {site : Site}
    (hthere : g.There site) : g'.There site := by
  obtain ⟨e, hfound⟩ := hthere
  exact ⟨e, h hfound⟩

theorem Request.fits_founding (site : Site) (endpoint : Endpoint) (rack shelf : UInt32) :
    (founding site endpoint rack shelf).Fits concerns caller .free known := by
  refine ⟨Or.inl rfl, fun reply => ?_⟩
  beta_reduce
  cases Registry.replyTo (.login endpoint) reply with
  | error x => rfl
  | ok _ =>
    exact Route.fits_alter
      (fun g site' => (g.extends_resume_create site endpoint rack shelf (.ok ())).there)
      fun g => rfl

theorem Request.fits_route (r : Request) (hcaller : caller) :
    r.route.Fits (Duty.request r).Concerns caller .free known := by
  cases r with
  | create site endpoint rack shelf =>
    simp only [route]
    cases requireLogin endpoint.user endpoint.password with
    | error x => rfl
    | ok _ =>
      refine Route.fits_look fun g _ => ?_
      split
      · rfl
      · exact ⟨rfl, hcaller, fits_founding site endpoint rack shelf⟩
  | change site what =>
    simp only [route]
    cases (Visit.change site what).checkLogin with
    | error x => rfl
    | ok _ =>
      refine Route.fits_look fun g _ => ?_
      cases hfound : g.entries.find? site with
      | none =>
        rw [Registry.entry_of_none hfound]
        rfl
      | some e =>
        rw [Registry.entry_of_some hfound]
        refine ⟨rfl, hcaller, ?_⟩
        refine Visit.fits_route ⟨e, hfound⟩ ?_ fun result => ?_
        · rfl
        · rfl

/-- **The routes of operations fit**, whatever sites are there. -/
theorem Duty.fits_route (d : Duty) (hcaller : caller) :
    d.route.Fits d.Concerns caller .free known := by
  cases d with
  | request r => exact r.fits_route hcaller
  | ask q =>
    refine Route.fits_look fun g _ => ?_
    cases hfound : g.entries.find? q.site with
    | none =>
      rw [Registry.entry_of_none hfound]
      rfl
    | some e =>
      rw [Registry.entry_of_some hfound]
      exact Visit.fits_route (v := .query q) ⟨e, hfound⟩ rfl fun result => rfl
  | sites => exact Route.fits_look fun g _ => rfl
  | dirtySites | inventories | reflow | flush =>
    refine Route.fits_look fun g _ => Route.fits_pass (fun _ => rfl) (fun _ => trivial) ?_
      (fun _ hsite => Registry.there_of_mem hsite) _
    intro found
    rfl
  | restore =>
    refine ⟨Or.inl rfl, fun reply => ?_⟩
    beta_reduce
    cases reply with
    | error e => rfl
    | ok blobs =>
      exact Route.fits_alter
        (fun g site => (Registry.extends_restoreEach blobs {} g).there) fun g => rfl

end Fits

/-! ## Section 5: Where a party stands -/

variable {ι : Type}

/-- A party stands here, and nowhere else. -/
structure Locks.Stands (l : Locks ι) (p : Party ι) (st : Standing) : Prop where
  reads  : p ∈ l.readers ↔ st = .all .shared
  writes : l.writer = some p ↔ st = .all .exclusive
  inLine : ∀ mode, (p, mode) ∈ l.line ↔ st = .inLine mode
  queued : ∀ site, p ∈ l.queue site ↔ st = .inQueue site
  holds  : ∀ site, l.holder site = some p ↔ st = .site site

/-- Whether something holds of the value of a site does not hang on a value that another is put in
    the place of, if it holds of both or of neither. -/
theorem Locks.update_iff {α : Type} {values : Site → α} {site : Site} {x : α} (holds : α → Prop)
    (h : holds x ↔ holds (values site)) (other : Site) :
    holds (Function.update values site x other) ↔ holds (values other) := by
  by_cases heq : other = site
  · rw [heq, Function.update_self, h]
  · rw [Function.update_of_ne heq]

/-- A lock that is taken away from one party stays with another that has it. -/
theorem Locks.cleared_eq_iff [DecidableEq ι] {held : Option (Party ι)} {p q : Party ι}
    (hne : q ≠ p) : (if held = some p then none else held) = some q ↔ held = some q := by
  split
  · next hheld => simp [hheld, hne.symm]
  · rfl

namespace Floor

open Locks (update_iff cleared_eq_iff)

variable {f : Floor ι} {p q : Party ι} {st : Standing} {mode : Mode} {site : Site}

theorem stands_joinLine (h : f.Stands p .free) : (f.joinLine p mode).Stands p (.inLine mode) where
  reads  := by simpa [joinLine] using h.reads
  writes := by simpa [joinLine] using h.writes
  inLine mode' := by
    have hnot := h.inLine mode'
    simp only [joinLine, List.mem_append, List.mem_singleton, Prod.mk.injEq, true_and,
      Standing.inLine.injEq]
    simp only [reduceCtorEq, iff_false] at hnot
    simp [hnot, eq_comm]
  queued site := by simpa [joinLine] using h.queued site
  holds site := by simpa [joinLine] using h.holds site

theorem stands_joinLine_of_ne (h : f.Stands q st) (hne : q ≠ p) :
    (f.joinLine p mode).Stands q st where
  reads  := h.reads
  writes := h.writes
  inLine mode' := by simpa [joinLine, hne] using h.inLine mode'
  queued := h.queued
  holds  := h.holds

theorem stands_joinQueue (h : f.Stands p .free) :
    (f.joinQueue p site).Stands p (.inQueue site) where
  reads  := by simpa [joinQueue] using h.reads
  writes := by simpa [joinQueue] using h.writes
  inLine mode := by simpa [joinQueue] using h.inLine mode
  queued other := by
    have hnot := h.queued other
    simp only [reduceCtorEq, iff_false] at hnot
    by_cases heq : other = site
    · subst heq
      simp [joinQueue]
    · simp [joinQueue, Function.update_of_ne heq, hnot, Ne.symm heq]
  holds other := by simpa [joinQueue] using h.holds other

theorem stands_joinQueue_of_ne (h : f.Stands q st) (hne : q ≠ p) :
    (f.joinQueue p site).Stands q st where
  reads  := h.reads
  writes := h.writes
  inLine := h.inLine
  queued other := by
    rw [← h.queued]
    exact update_iff (q ∈ ·) (by simp [hne]) other
  holds  := h.holds

theorem stands_give (h : f.Stands p (.site site)) : (f.give site).Stands p .free where
  reads  := by simpa [give] using h.reads
  writes := by simpa [give] using h.writes
  inLine mode := by simpa [give] using h.inLine mode
  queued other := by simpa [give] using h.queued other
  holds other := by
    have hold := h.holds other
    by_cases heq : other = site
    · subst heq
      simp [give]
    · simpa [give, Function.update_of_ne heq, Ne.symm heq] using hold

theorem stands_give_of_ne (h : f.Stands q st) (hne : q ≠ p) (hheld : f.holder site = some p) :
    (f.give site).Stands q st where
  reads  := h.reads
  writes := h.writes
  inLine := h.inLine
  queued := h.queued
  holds other := by
    rw [← h.holds]
    exact update_iff (· = some q) (by simp [hheld, hne.symm]) other

variable [DecidableEq ι]

theorem stands_takeAll (h : f.Stands p (.inLine mode)) :
    (f.takeAll p mode).Stands p (.all mode) := by
  have hreads := h.reads
  have hwrites := h.writes
  cases mode with
  | shared =>
    exact {
      reads  := by simp [takeAll]
      writes := by simpa [takeAll] using hwrites
      inLine := fun mode' => by simp [takeAll]
      queued := fun site => by simpa [takeAll] using h.queued site
      holds  := fun site => by simpa [takeAll] using h.holds site }
  | exclusive =>
    exact {
      reads  := by simpa [takeAll] using hreads
      writes := by simp [takeAll]
      inLine := fun mode' => by simp [takeAll]
      queued := fun site => by simpa [takeAll] using h.queued site
      holds  := fun site => by simpa [takeAll] using h.holds site }

theorem stands_takeAll_of_ne (h : f.Stands q st) (hne : q ≠ p) (hfree : f.writer = none) :
    (f.takeAll p mode).Stands q st := by
  have hwrites := h.writes
  rw [hfree] at hwrites
  cases mode with
  | shared =>
    exact {
      reads  := by simpa [takeAll, hne] using h.reads
      writes := h.writes
      inLine := fun mode' => by simpa [takeAll, hne] using h.inLine mode'
      queued := h.queued
      holds  := h.holds }
  | exclusive =>
    exact {
      reads  := h.reads
      writes := by simpa [takeAll, hne.symm] using hwrites
      inLine := fun mode' => by simpa [takeAll, hne] using h.inLine mode'
      queued := h.queued
      holds  := h.holds }

theorem stands_giveAll (h : f.Stands p (.all mode)) : (f.giveAll p).Stands p .free where
  reads  := by simp [giveAll]
  writes := by simp [giveAll]
  inLine mode' := by simpa [giveAll] using h.inLine mode'
  queued site := by simpa [giveAll] using h.queued site
  holds site := by simpa [giveAll] using h.holds site

theorem stands_giveAll_of_ne (h : f.Stands q st) (hne : q ≠ p) : (f.giveAll p).Stands q st where
  reads  := by simpa [giveAll, hne] using h.reads
  writes := by
    rw [← h.writes]
    exact cleared_eq_iff hne
  inLine := h.inLine
  queued := h.queued
  holds  := h.holds

theorem stands_take (h : f.Stands p (.inQueue site)) : (f.take p site).Stands p (.site site) where
  reads  := by simpa [take] using h.reads
  writes := by simpa [take] using h.writes
  inLine mode := by simpa [take] using h.inLine mode
  queued other := by
    have hold := h.queued other
    by_cases heq : other = site
    · subst heq
      simp [take]
    · simpa [take, Function.update_of_ne heq, Ne.symm heq] using hold
  holds other := by
    have hold := h.holds other
    by_cases heq : other = site
    · subst heq
      simp [take]
    · simpa [take, Function.update_of_ne heq, Ne.symm heq] using hold

theorem stands_take_of_ne (h : f.Stands q st) (hne : q ≠ p) (hfree : f.holder site = none) :
    (f.take p site).Stands q st where
  reads  := h.reads
  writes := h.writes
  inLine := h.inLine
  queued other := by
    rw [← h.queued]
    exact update_iff (q ∈ ·) (by simp [hne]) other
  holds other := by
    rw [← h.holds]
    exact update_iff (· = some q) (by simp [hfree, hne.symm]) other

theorem stands_without (f : Floor ι) (p : Party ι) : (f.without p).Stands p .free where
  reads  := by simp [without]
  writes := by simp [without]
  inLine mode := by simp [without]
  queued site := by simp [without]
  holds site := by simp [without]

theorem stands_without_of_ne (h : f.Stands q st) (hne : q ≠ p) : (f.without p).Stands q st where
  reads  := by simpa [without, hne] using h.reads
  writes := by
    rw [← h.writes]
    exact cleared_eq_iff hne
  inLine mode := by simpa [without, hne] using h.inLine mode
  queued site := by simpa [without, hne] using h.queued site
  holds site := by
    rw [← h.holds]
    exact cleared_eq_iff hne

end Floor

/-! ## Section 6: Floors in order -/

/-- A party is on its route, or waits on it for a lock or a reply. -/
def Post.Active : Post → Prop
  | going _ | awaitingAll _ _ | awaiting _ _ | awaitingReply _ _ => True
  | absent | joining | done _ | gone => False

/-- A post fits where its party stands. -/
def Post.Fits (concerns : Site → Prop) (caller : Prop) (known : Site → Prop) :
    Post → Standing → Prop
  | going route, st => route.Fits concerns caller st known
  | awaitingAll mode next, st => st = .inLine mode ∧ next.Fits concerns caller (.all mode) known
  | awaiting site next, st => st = .inQueue site ∧ known site ∧ concerns site ∧
      next.Fits concerns caller (.site site) known
  | awaitingReply d next, st => (Route.send d next).Fits concerns caller st known
  | joining, st | gone, st => st = .free ∧ caller
  | absent, st | done _, st => st = .free

theorem Post.Fits.mono {concerns known known' : Site → Prop} {caller : Prop} {post : Post}
    {st : Standing} (h : post.Fits concerns caller known st)
    (hmore : ∀ site, known site → known' site) : post.Fits concerns caller known' st := by
  cases post with
  | going route => exact Route.Fits.mono h hmore
  | awaitingAll mode next => exact ⟨h.1, h.2.mono hmore⟩
  | awaiting site next => exact ⟨h.1, hmore site h.2.1, h.2.2.1, h.2.2.2.mono hmore⟩
  | awaitingReply d next => exact Route.Fits.mono h hmore
  | _ => exact h

/-- A party is a caller. -/
def Party.IsCaller : Party ι → Prop
  | caller _ => True
  | task _ => False

/-- A caller has a task as soon as it waits for one, and not before. -/
structure Post.Paired (caller task : Post) : Prop where
  early : caller.Active → task = .absent
  late  : caller = .joining → task ≠ .absent

namespace Floor

/-- Every party stands at one lock at most, where its post fits; a lock of a site belongs to an
    operation on the site; and who has the lock of all sites alone has it alone. -/
structure Sound (load : ι → Duty) (f : Floor ι) : Prop where
  fits   : ∀ p, ∃ st, f.Stands p st ∧
    (f.post p).Fits (load p.job).Concerns p.IsCaller f.registry.There st
  held   : ∀ site p, f.holder site = some p → (load p.job).Concerns site
  alone  : ∀ p, f.writer = some p → f.readers = []
  paired : ∀ t, (f.post (.caller t)).Paired (f.post (.task t))

theorem sound_start (load : ι → Duty) (g : Registry) : (start load g).Sound load where
  fits p := by
    refine ⟨.free, ?_, ?_⟩
    · exact ⟨by simp [start], by simp [start], by simp [start], by simp [start], by simp [start]⟩
    · cases p with
      | caller t => exact (load t).fits_route trivial
      | task t => rfl
  held site p hheld := by cases hheld
  alone p hwriter := by cases hwriter
  paired t := ⟨fun _ => rfl, fun hjoining => by cases hjoining⟩

variable [DecidableEq ι] {load : ι → Duty} {f f' : Floor ι} {p : Party ι} {post : Post}

/-- A step of one party is in order if it leaves the others where they stand. -/
theorem Sound.of_move (h : f.Sound load) (hpost : f'.post = Function.update f.post p post)
    (hothers : ∀ q st, q ≠ p → f.Stands q st → f'.Stands q st)
    (hthere : ∀ site, f.registry.There site → f'.registry.There site)
    (hown : ∃ st, f'.Stands p st ∧
      post.Fits (load p.job).Concerns p.IsCaller f'.registry.There st)
    (hheld : ∀ site q, f'.holder site = some q → (load q.job).Concerns site)
    (halone : ∀ q, f'.writer = some q → f'.readers = [])
    (hbefore : f.post p ≠ .absent) (hafter : post ≠ .absent ∧ post ≠ .joining)
    (hactive : post.Active → (f.post p).Active) : f'.Sound load where
  fits q := by
    by_cases heq : q = p
    · subst heq
      rw [hpost, Function.update_self]
      exact hown
    · obtain ⟨st, hstands, hfits⟩ := h.fits q
      rw [hpost, Function.update_of_ne heq]
      exact ⟨st, hothers q st heq hstands, hfits.mono hthere⟩
  held := hheld
  alone := halone
  paired t := by
    have hpaired := h.paired t
    rw [hpost]
    cases p with
    | caller u =>
      have htask : Function.update f.post (.caller u) post (.task t) = f.post (.task t) :=
        Function.update_of_ne (by simp) ..
      rw [htask]
      by_cases heq : t = u
      · subst heq
        rw [Function.update_self]
        exact ⟨fun hnow => hpaired.early (hactive hnow), fun hjoining => absurd hjoining hafter.2⟩
      · rw [Function.update_of_ne (by simpa using heq)]
        exact hpaired
    | task u =>
      have hcaller : Function.update f.post (.task u) post (.caller t) = f.post (.caller t) :=
        Function.update_of_ne (by simp) ..
      rw [hcaller]
      by_cases heq : t = u
      · subst heq
        rw [Function.update_self]
        exact ⟨fun hnow => absurd (hpaired.early hnow) hbefore, fun _ => hafter.1⟩
      · rw [Function.update_of_ne (by simpa using heq)]
        exact hpaired

/-- A party that leaves its work to a task goes on in order. -/
theorem Sound.detach (h : f.Sound load) {t : ι} {work : Route}
    (hpost : f.post (.caller t) = .going (.detach work)) :
    ((f.move (.caller t) .joining).move (.task t) (.going work)).Sound load where
  fits q := by
    obtain ⟨st, hstands, hfits⟩ := h.fits q
    by_cases htask : q = .task t
    · subst htask
      obtain ⟨st', _, hwork⟩ := h.fits (.caller t)
      rw [hpost] at hwork
      -- Before its caller hands over the work, a task is not there and stands nowhere.
      have habsent : f.post (.task t) = .absent := (h.paired t).early (by rw [hpost]; trivial)
      rw [habsent] at hfits
      refine ⟨.free, hfits ▸ hstands, ?_⟩
      simp only [move, Function.update_self]
      exact hwork.2.2
    · by_cases hcaller : q = .caller t
      · subst hcaller
        rw [hpost] at hfits
        refine ⟨st, hstands, ?_⟩
        simp only [move, Function.update_of_ne htask, Function.update_self]
        exact ⟨hfits.1, trivial⟩
      · refine ⟨st, hstands, ?_⟩
        simp only [move, Function.update_of_ne htask, Function.update_of_ne hcaller]
        exact hfits
  held := h.held
  alone := h.alone
  paired u := by
    have hpaired := h.paired u
    by_cases heq : u = t
    · subst heq
      simp only [move, Function.update_self]
      rw [Function.update_of_ne (by simp), Function.update_self]
      exact ⟨fun hnow => hnow.elim, fun _ => nofun⟩
    · simp only [move]
      rw [Function.update_of_ne (by simp), Function.update_of_ne (by simpa using heq),
        Function.update_of_ne (by simpa using heq), Function.update_of_ne (by simp)]
      exact hpaired

/-! ## Section 7: Every run -/

/-- A step of a party on its route, case by case. -/
theorem Sound.step_going (h : f.Sound load) {route : Route} (hpost : f.post p = .going route)
    (hstep : f.step? p = some f') : f'.Sound load := by
  obtain ⟨st, hstands, hfits⟩ := h.fits p
  have hbefore : f.post p ≠ .absent := by
    rw [hpost]
    nofun
  have hactive : (f.post p).Active := by
    rw [hpost]
    trivial
  rw [hpost] at hfits
  unfold step? at hstep
  rw [hpost] at hstep
  cases route with
  | lockAll mode next =>
    cases hstep
    obtain ⟨rfl, hnext⟩ := hfits
    exact h.of_move rfl (fun q st hne hq => stands_joinLine_of_ne hq hne) (fun _ hsite => hsite)
      ⟨_, stands_joinLine hstands, rfl, hnext⟩ h.held h.alone hbefore ⟨nofun, nofun⟩
      fun _ => hactive
  | atAll write next =>
    cases hstep
    obtain ⟨_, hwrite⟩ := hfits
    obtain ⟨hgrows, hnext⟩ := hwrite f.registry fun _ hsite => hsite
    exact h.of_move rfl (fun q st _ hq => hq) hgrows ⟨st, hstands, Route.Fits.mono hnext hgrows⟩
      h.held h.alone hbefore ⟨nofun, nofun⟩ fun _ => hactive
  | unlockAll next =>
    cases hstep
    obtain ⟨⟨mode, rfl⟩, hnext⟩ := hfits
    refine h.of_move rfl (fun q st hne hq => stands_giveAll_of_ne hq hne) (fun _ hsite => hsite)
      ⟨_, stands_giveAll hstands, hnext⟩ h.held ?_ hbefore ⟨nofun, nofun⟩ fun _ => hactive
    intro q hwriter
    simp only [move, giveAll] at hwriter ⊢
    split at hwriter
    · cases hwriter
    · rw [h.alone q hwriter, List.filter_nil]
  | lock site next =>
    cases hstep
    obtain ⟨rfl, hthere, hconcerns, hnext⟩ := hfits
    exact h.of_move rfl (fun q st hne hq => stands_joinQueue_of_ne hq hne) (fun _ hsite => hsite)
      ⟨_, stands_joinQueue hstands, rfl, hthere, hconcerns, hnext⟩ h.held h.alone hbefore
      ⟨nofun, nofun⟩ fun _ => hactive
  | atSite site write next =>
    obtain ⟨rfl, ⟨e, hfound⟩, hnext⟩ := hfits
    simp only [hfound, Option.some.injEq] at hstep
    subst hstep
    have hgrows : ∀ other, f.registry.There other →
        (f.registry.put site (write e)).There other := by
      intro other hthere
      by_cases heq : other = site
      · rw [heq]
        exact ⟨_, SiteMap.find?_insert_self _ _ _⟩
      · obtain ⟨e', hfound'⟩ := hthere
        exact ⟨e', (SiteMap.find?_insert_of_ne heq _ _).trans hfound'⟩
    exact h.of_move rfl (fun q st _ hq => hq) hgrows
      ⟨_, hstands, Route.Fits.mono (hnext e) hgrows⟩ h.held h.alone hbefore ⟨nofun, nofun⟩
      fun _ => hactive
  | unlock site next =>
    cases hstep
    obtain ⟨rfl, hnext⟩ := hfits
    have hholds : f.holder site = some p := (hstands.holds site).mpr rfl
    refine h.of_move rfl (fun q st hne hq => stands_give_of_ne hq hne hholds)
      (fun _ hsite => hsite) ⟨_, stands_give hstands, hnext⟩ ?_ h.alone hbefore ⟨nofun, nofun⟩
      fun _ => hactive
    intro other q hheld
    by_cases heq : other = site
    · subst heq
      simp only [move, give, Function.update_self] at hheld
      cases hheld
    · simp only [move, give, Function.update_of_ne heq] at hheld
      exact h.held other q hheld
  | send d next =>
    cases hstep
    exact h.of_move rfl (fun q st _ hq => hq) (fun _ hsite => hsite) ⟨st, hstands, hfits⟩ h.held
      h.alone hbefore ⟨nofun, nofun⟩ fun _ => hactive
  | detach work =>
    cases p with
    | caller t =>
      cases hstep
      exact h.detach hpost
    | task t => cases hstep
  | finish result =>
    cases hstep
    exact h.of_move rfl (fun q st _ hq => hq) (fun _ hsite => hsite) ⟨st, hstands, hfits⟩ h.held
      h.alone hbefore ⟨nofun, nofun⟩ fun hnow => hnow.elim

/-- A party that takes the lock of all sites goes on in order. -/
theorem Sound.enterAll (h : f.Sound load) {mode : Mode} {next : Route}
    (hpost : f.post p = .awaitingAll mode next) (hadmits : f.Admits p mode) :
    ((f.takeAll p mode).move p (.going next)).Sound load := by
  obtain ⟨st, hstands, hfits⟩ := h.fits p
  rw [hpost] at hfits
  obtain ⟨rfl, hnext⟩ := hfits
  obtain ⟨_, hfree, hreaders⟩ := hadmits
  have hmoved : ((f.takeAll p mode).move p (.going next)).post =
      Function.update f.post p (.going next) := by
    cases mode <;> rfl
  refine h.of_move hmoved (fun q st hne hq => stands_takeAll_of_ne hq hne hfree) ?_
    ⟨_, stands_takeAll hstands, ?_⟩ ?_ ?_ (by rw [hpost]; nofun) ⟨nofun, nofun⟩
    fun _ => by rw [hpost]; trivial
  · cases mode <;> exact fun _ hsite => hsite
  · cases mode <;> exact hnext
  · cases mode <;> exact h.held
  · intro q hwriter
    cases mode with
    | shared =>
      simp only [move, takeAll] at hwriter
      rw [hfree] at hwriter
      cases hwriter
    | exclusive => exact hreaders rfl

/-- A party that takes the lock of a site goes on in order. -/
theorem Sound.enter (h : f.Sound load) {site : Site} {next : Route}
    (hpost : f.post p = .awaiting site next) (hfree : f.holder site = none) :
    ((f.take p site).move p (.going next)).Sound load := by
  obtain ⟨st, hstands, hfits⟩ := h.fits p
  rw [hpost] at hfits
  obtain ⟨rfl, hthere, hconcerns, hnext⟩ := hfits
  have hmoved : ((f.take p site).move p (.going next)).post =
      Function.update f.post p (.going next) := rfl
  refine h.of_move hmoved (fun q st hne hq => stands_take_of_ne hq hne hfree)
    (fun _ hsite => hsite) ⟨_, stands_take hstands, hnext⟩ ?_ h.alone (by rw [hpost]; nofun)
    ⟨nofun, nofun⟩ fun _ => by rw [hpost]; trivial
  intro other q hheld
  by_cases heq : other = site
  · subst heq
    simp only [move, take, Function.update_self, Option.some.injEq] at hheld
    exact hheld ▸ hconcerns
  · simp only [move, take, Function.update_of_ne heq] at hheld
    exact h.held other q hheld

theorem Sound.step (h : f.Sound load) (hstep : f.step? p = some f') : f'.Sound load := by
  cases hpost : f.post p with
  | going route => exact h.step_going hpost hstep
  | awaitingAll mode next =>
    simp only [step?, hpost, Option.ite_none_right_eq_some, Option.some.injEq] at hstep
    obtain ⟨hadmits, rfl⟩ := hstep
    exact h.enterAll hpost hadmits
  | awaiting site next =>
    simp only [step?, hpost, Option.ite_none_right_eq_some, Option.some.injEq] at hstep
    obtain ⟨⟨_, hfree⟩, rfl⟩ := hstep
    exact h.enter hpost hfree
  | joining =>
    obtain ⟨st, hstands, hfits⟩ := h.fits p
    rw [hpost] at hfits
    simp only [step?, hpost] at hstep
    split at hstep
    · cases hstep
      exact h.of_move rfl (fun q st _ hq => hq) (fun _ hsite => hsite)
        ⟨st, hstands, hfits.1⟩ h.held h.alone (by rw [hpost]; nofun) ⟨nofun, nofun⟩
        fun hnow => hnow.elim
    · cases hstep
  | _ =>
    simp only [step?, hpost] at hstep
    cases hstep

theorem Sound.reply (h : f.Sound load) {d : Demand} {next : d.Reply → Route}
    (hpost : f.post p = .awaitingReply d next) (reply : d.Reply) :
    (f.move p (.going (next reply))).Sound load := by
  obtain ⟨st, hstands, hfits⟩ := h.fits p
  rw [hpost] at hfits
  exact h.of_move rfl (fun q st _ hq => hq) (fun _ hsite => hsite)
    ⟨st, hstands, hfits.2 reply⟩ h.held h.alone (by rw [hpost]; nofun) ⟨nofun, nofun⟩
    fun _ => by rw [hpost]; trivial

theorem Sound.giveUp (h : f.Sound load) (t : ι) : (f.giveUp t).Sound load := by
  have hgone : f.post (.caller t) ≠ .absent →
      ((f.without (.caller t)).move (.caller t) .gone).Sound load := by
    intro hbefore
    refine h.of_move rfl (fun q st hne hq => stands_without_of_ne hq hne) (fun _ hsite => hsite)
      ⟨.free, stands_without f _, rfl, trivial⟩ ?_ ?_ hbefore ⟨nofun, nofun⟩
      fun hnow => hnow.elim
    · intro site q hheld
      simp only [move, without] at hheld
      split at hheld
      · cases hheld
      · exact h.held site q hheld
    · intro q hwriter
      simp only [move, without] at hwriter ⊢
      split at hwriter
      · cases hwriter
      · rw [h.alone q hwriter, List.filter_nil]
  unfold Floor.giveUp
  split
  · exact h
  · exact h
  · next habsent _ => exact hgone habsent

/-- Every event leaves a floor in order. -/
theorem Sound.after (h : f.Sound load) (event : Event ι) : (f.after event).Sound load := by
  cases event with
  | step p =>
    show ((f.step? p).getD f).Sound load
    cases hstep : f.step? p with
    | none => exact h
    | some f' => exact h.step hstep
  | reply p answer =>
    cases hpost : f.post p with
    | awaitingReply d next =>
      simp only [Floor.after, hpost]
      exact h.reply hpost (answer d)
    | _ =>
      simp only [Floor.after, hpost]
      exact h
  | giveUp t => exact h.giveUp t

/-- **Order**: in every run every party stands at one lock at most. -/
theorem Sound.run (h : f.Sound load) (events : List (Event ι)) : (f.run events).Sound load := by
  induction events generalizing f with
  | nil => exact h
  | cons event rest ih => exact ih (h.after event)

end Floor

end ChassisRegistry
