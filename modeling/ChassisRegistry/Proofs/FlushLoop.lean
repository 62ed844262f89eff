import ChassisRegistry.Flusher
import ChassisRegistry.Proofs.AllOrNothing
import ChassisRegistry.Proofs.FlushPass

/-! # A flusher at work

    A flusher runs beside a registry that changes. It waits for a cause, chooses
    it, begins a pass with the sites that are there then, and offers one site
    after the other to the sink. Between two of its steps requests may be
    served, a flush may be asked for, the flusher may be told to close, and time
    goes by.

    Asking for a flush wakes the flusher if it is waiting, or leaves a permit
    that stays until the flusher uses it. Which of the two happens is not up to
    the one who asks. Being told to close stays.

    Beside the flusher stands what has been done, in order. What the sink was
    offered is noted down by the sink itself, with its answer.

    Main statements: `FlushLoop.Fit.moves`, all that an event can do, and
    `FlushLoop.exists_run_eq`, which ties the steps to the flusher that runs. -/

namespace ChassisRegistry

variable {σ : Type}

/-! ## Section 1: Steps -/

/-- What is done by a flusher and around it. -/
inductive Deed where
  /-- A request was carried out that left this record. -/
  | changed (site : Site) (r : Record)
  /-- A flush was asked for. -/
  | asked
  /-- The flusher was told to close. -/
  | told
  | chose (cause : FlushCause)
  | began (cause : FlushCause)
  /-- The sink was offered a record, and took it or not. -/
  | offered (site : Site) (r : Record) (taken : Bool)
  | ended (cause : FlushCause) (report : FlushReport)
  deriving DecidableEq

/-- How far a flusher has come. -/
inductive FlushPhase where
  | waiting
  | chosen (cause : FlushCause)
  /-- It is in a pass, with these sites still to be visited. -/
  | passing (cause : FlushCause) (todo : List Site) (report : FlushReport)
  /-- It has stopped with the report of its last pass. -/
  | stopped (report : FlushReport)
  deriving DecidableEq

/-- Does it wait for a cause? -/
def FlushPhase.isWaiting : FlushPhase → Bool
  | waiting => true
  | _ => false

/-- A flusher at work beside a registry. -/
structure FlushLoop (σ : Type) where
  /-- Its request is the permit. -/
  flusher  : Flusher
  /-- Was it woken by somebody who asked for a flush? -/
  woken    : Bool
  now      : Nat
  phase    : FlushPhase
  registry : Registry
  sink     : σ
  /-- What was done, in order. -/
  deeds    : List Deed

@[simp] theorem Flusher.request_asked (f : Flusher) : f.request.asked = true := rfl

@[simp] theorem Flusher.request_closing (f : Flusher) : f.request.closing = f.closing := rfl

@[simp] theorem Flusher.close_asked (f : Flusher) : f.close.asked = f.asked := rfl

@[simp] theorem Flusher.close_closing (f : Flusher) : f.close.closing = true := rfl

@[simp] theorem Flusher.begin_closing (f : Flusher) (now : Nat) (cause : FlushCause) :
    (f.begin now cause).closing = f.closing := by
  cases cause <;> rfl

/-- A creation of a site that is there changes nothing. -/
def Request.idle (g : Registry) : Request → Bool
  | create site _ _ _ => g.entries.contains site
  | change _ _ => false

/-- The changes that have left their marks in a registry. -/
def Registry.marks (g : Registry) : List Deed :=
  (g.entries.entries.filter fun (_, e) => e.dirty).map fun (site, e) => .changed site e.record

theorem Registry.exists_of_mem_marks {g : Registry} {d : Deed} (hmem : d ∈ g.marks) :
    ∃ site e, g.entries.find? site = some e ∧ e.dirty = true ∧ d = .changed site e.record := by
  obtain ⟨⟨site, e⟩, hfilter, rfl⟩ := List.mem_map.mp hmem
  obtain ⟨hentry, hdirty⟩ := List.mem_filter.mp hfilter
  exact ⟨site, e, SiteMap.lookup_of_mem g.entries.nodup hentry, hdirty, rfl⟩

namespace FlushLoop

/-- A flusher that starts to wait. What has a mark by then was changed before. -/
def start (interval : Nat) (positive : 0 < interval) (now : Nat) (g : Registry) (s : σ) :
    FlushLoop σ :=
  ⟨.start interval positive now, false, now, .waiting, g, s, g.marks⟩

/-- What may come next. -/
inductive Event where
  /-- A request is served. -/
  | mutate (request : Request) (answers : Call → Except ProvisionerError Unit)
  /-- A flush is asked for, and wakes the flusher if it can. -/
  | flushNow (wakes : Bool)
  | shutDown
  | tick (seconds : Nat)
  /-- The flusher takes its next step. -/
  | go

/-- A request is served. -/
def mutate (w : FlushLoop σ) (request : Request) (answers : Call → Except ProvisionerError Unit) :
    FlushLoop σ :=
  let (result, g, _) := w.registry.serve request (fun call (s : Unit) => (answers call, s)) ()
  { w with
    registry := g
    deeds    := w.deeds ++ match result with
      | .error _ => []
      | .ok _ =>
          if request.idle w.registry then []
          else (g.entries.find? request.site).toList.map fun e => .changed request.site e.record }

/-- A flush is asked for. -/
def flushNow (w : FlushLoop σ) (wakes : Bool) : FlushLoop σ :=
  if wakes = true ∧ w.phase.isWaiting = true ∧ w.woken = false then
    { w with woken := true, deeds := w.deeds ++ [.asked] }
  else { w with flusher := w.flusher.request, deeds := w.deeds ++ [.asked] }

/-- The cause of the next pass. A flusher that was woken has a request. -/
def cause? (w : FlushLoop σ) : Option FlushCause :=
  { w.flusher with asked := w.flusher.asked || w.woken }.cause? w.now

/-- The flusher chooses the cause of its next pass. Having been woken, it leaves the permit. -/
def choose (w : FlushLoop σ) (cause : FlushCause) : FlushLoop σ :=
  { w with
    flusher := if w.woken = true ∧ cause = .request then w.flusher else w.flusher.begin w.now cause
    woken   := w.woken && decide (cause ≠ .request)
    phase   := .chosen cause
    deeds   := w.deeds ++ [.chose cause] }

/-- The turn of a site in a pass. An offer is one that the sink has noted down. -/
def visit (sink : Sink σ) (w : FlushLoop σ) (cause : FlushCause) (todo : List Site)
    (report : FlushReport) (site : Site) (e : Entry) : FlushLoop σ :=
  let (after, g, s, offers) := w.registry.flushEntry sink.logged report (w.sink, []) site e
  { w with
    registry := g
    sink     := s
    phase    := .passing cause todo after
    deeds    := w.deeds ++ offers.map fun o => .offered o.site e.record o.taken }

/-- The flusher takes its next step. -/
def go (sink : Sink σ) (w : FlushLoop σ) : FlushLoop σ :=
  match w.phase with
  | .waiting =>
      match w.cause? with
      | none => w
      | some cause => w.choose cause
  | .chosen cause =>
      { w with
        phase := .passing cause w.registry.entries.sites {}
        deeds := w.deeds ++ [.began cause] }
  | .passing cause (site :: todo) report =>
      match w.registry.entries.find? site with
      | none => { w with phase := .passing cause todo report }
      | some e => w.visit sink cause todo report site e
  | .passing cause [] report =>
      { w with
        phase := if cause = .close then .stopped report else .waiting
        deeds := w.deeds ++ [.ended cause report] }
  | .stopped _ => w

/-- The flusher after an event. -/
def after (sink : Sink σ) (w : FlushLoop σ) : Event → FlushLoop σ
  | .mutate request answers => w.mutate request answers
  | .flushNow wakes => w.flushNow wakes
  | .shutDown => { w with flusher := w.flusher.close, deeds := w.deeds ++ [.told] }
  | .tick seconds => { w with now := w.now + seconds }
  | .go => w.go sink

/-- The flusher after a run of events. -/
def run (sink : Sink σ) (w : FlushLoop σ) (events : List Event) : FlushLoop σ :=
  events.foldl (after sink) w

section

variable {sink : Sink σ} {w : FlushLoop σ} {cause : FlushCause} {todo : List Site}
  {report : FlushReport} {site : Site} {e : Entry} {s : σ}

theorem visit_clean (hclean : e.dirty = false) : w.visit sink cause todo report site e = { w with
    phase := .passing cause todo { report with clean := report.clean + 1 } } := by
  simp only [visit, Registry.flushEntry_clean hclean, List.map_nil, List.append_nil]

theorem visit_stored (hdirty : e.dirty = true)
    (hstore : sink.store site (Snapshot.write e.record).toUTF8 w.sink = (.ok (), s)) :
    w.visit sink cause todo report site e = { w with
      registry := w.registry.put site { e with dirty := false }
      sink     := s
      phase    := .passing cause todo { report with stored := report.stored + 1 }
      deeds    := w.deeds ++ [.offered site e.record true] } := by
  simp only [visit, Registry.flushEntry_stored hdirty (Sink.logged_store hstore [])]
  rfl

theorem visit_failed {x : SinkError} (hdirty : e.dirty = true)
    (hstore : sink.store site (Snapshot.write e.record).toUTF8 w.sink = (.error x, s)) :
    w.visit sink cause todo report site e = { w with
      sink  := s
      phase := .passing cause todo { report with failed := report.failed + 1 }
      deeds := w.deeds ++ [.offered site e.record false] } := by
  simp only [visit, Registry.flushEntry_failed hdirty (Sink.logged_store hstore [])]
  rfl

variable (sink w cause todo report site e) in
/-- Noting down what is offered makes no difference to the pass. -/
theorem exists_visit_eq : ∃ deeds, w.visit sink cause todo report site e = { w with
    registry := (w.registry.flushEntry sink report w.sink site e).2.1
    sink     := (w.registry.flushEntry sink report w.sink site e).2.2
    phase    := .passing cause todo (w.registry.flushEntry sink report w.sink site e).1
    deeds    := w.deeds ++ deeds } := by
  rcases Registry.offer_cases sink site e w.sink with
    hclean | ⟨s, hdirty, hstore⟩ | ⟨x, s, hdirty, hstore⟩
  · refine ⟨[], ?_⟩
    rw [visit_clean hclean, Registry.flushEntry_clean hclean, List.append_nil]
  · refine ⟨[.offered site e.record true], ?_⟩
    rw [visit_stored hdirty hstore, Registry.flushEntry_stored hdirty hstore]
  · refine ⟨[.offered site e.record false], ?_⟩
    rw [visit_failed hdirty hstore, Registry.flushEntry_failed hdirty hstore]

end

theorem choose_deeds (w : FlushLoop σ) (cause : FlushCause) :
    (w.choose cause).deeds = w.deeds ++ [.chose cause] :=
  rfl

theorem choose_closing (w : FlushLoop σ) (cause : FlushCause) :
    (w.choose cause).flusher.closing = w.flusher.closing := by
  unfold choose
  dsimp only
  split
  · rfl
  · exact Flusher.begin_closing ..

/-- It chooses to close when it was told to, and only then. -/
theorem cause?_eq_close_iff {w : FlushLoop σ} :
    w.cause? = some .close ↔ w.flusher.closing = true := by
  unfold cause? Flusher.cause?
  dsimp only
  split
  · simpa
  · next hnot =>
    simp only [hnot]
    split
    · simp
    · split <;> simp

/-! ## Section 2: All that an event can do -/

/-- The registry is kept well, and the sites that are to be visited are there. -/
structure Fit (w : FlushLoop σ) : Prop where
  sound : w.registry.Sound
  todo  : ∀ {cause todo report}, w.phase = .passing cause todo report → ∀ site ∈ todo,
    ∃ e, w.registry.entries.find? site = some e

/-- The ways in which a flusher goes on. -/
inductive Moves (sink : Sink σ) (w : FlushLoop σ) : FlushLoop σ → Prop where
  | idle : Moves sink w w
  | changed (site : Site) {r : Record} (hown : Entry.Own site ⟨r, true⟩) : Moves sink w { w with
      registry := w.registry.put site ⟨r, true⟩
      deeds    := w.deeds ++ [.changed site r] }
  /-- Somebody asks and wakes the flusher. -/
  | woken (hphase : w.phase = .waiting) (hwoken : w.woken = false) : Moves sink w { w with
      woken := true
      deeds := w.deeds ++ [.asked] }
  /-- Somebody asks and leaves a permit. -/
  | asked : Moves sink w { w with
      flusher := w.flusher.request
      deeds   := w.deeds ++ [.asked] }
  | told : Moves sink w { w with
      flusher := w.flusher.close
      deeds   := w.deeds ++ [.told] }
  | ticked (now : Nat) : Moves sink w { w with now }
  | chose {cause : FlushCause} (hphase : w.phase = .waiting) (hcause : w.cause? = some cause) :
      Moves sink w (w.choose cause)
  | began {cause : FlushCause} (hphase : w.phase = .chosen cause) : Moves sink w { w with
      phase := .passing cause w.registry.entries.sites {}
      deeds := w.deeds ++ [.began cause] }
  | stored {cause : FlushCause} {site : Site} {todo : List Site} {report : FlushReport} {e : Entry}
      {s : σ} (hphase : w.phase = .passing cause (site :: todo) report)
      (hfound : w.registry.entries.find? site = some e)
      (hstore : sink.store site (Snapshot.write e.record).toUTF8 w.sink = (.ok (), s)) :
      Moves sink w { w with
        registry := w.registry.put site { e with dirty := false }
        sink     := s
        phase    := .passing cause todo { report with stored := report.stored + 1 }
        deeds    := w.deeds ++ [.offered site e.record true] }
  | failed {cause : FlushCause} {site : Site} {todo : List Site} {report : FlushReport} {e : Entry}
      {x : SinkError} {s : σ} (hphase : w.phase = .passing cause (site :: todo) report)
      (hfound : w.registry.entries.find? site = some e) (hdirty : e.dirty = true)
      (hstore : sink.store site (Snapshot.write e.record).toUTF8 w.sink = (.error x, s)) :
      Moves sink w { w with
        sink  := s
        phase := .passing cause todo { report with failed := report.failed + 1 }
        deeds := w.deeds ++ [.offered site e.record false] }
  | clean {cause : FlushCause} {site : Site} {todo : List Site} {report : FlushReport} {e : Entry}
      (hphase : w.phase = .passing cause (site :: todo) report)
      (hfound : w.registry.entries.find? site = some e) (hclean : e.dirty = false) :
      Moves sink w { w with
        phase := .passing cause todo { report with clean := report.clean + 1 } }
  | ended {cause : FlushCause} {report : FlushReport}
      (hphase : w.phase = .passing cause [] report) : Moves sink w { w with
        phase := if cause = .close then .stopped report else .waiting
        deeds := w.deeds ++ [.ended cause report] }

variable {sink : Sink σ} {w w' : FlushLoop σ}

/-- A request changes nothing, or it leaves a record and a mark. -/
theorem Fit.moves_mutate (h : w.Fit) (request : Request)
    (answers : Call → Except ProvisionerError Unit) : Moves sink w (w.mutate request answers) := by
  obtain ⟨result, g, u, log, ⟨hserve, _⟩, hserved⟩ :=
    h.sound.exists_served request (fun call (s : Unit) => (answers call, s)) ()
  unfold mutate
  simp only [hserve]
  -- A change that is allowed is not one of a site that has been created already.
  have hbusy : w.registry.Allows request → request.idle w.registry = false := by
    intro hallows
    cases request with
    | create site endpoint rack shelf => simp [Request.idle, SiteMap.contains, hallows.2]
    | change site what => rfl
  have hchanged : ∀ {r : Record}, Entry.Own request.site ⟨r, true⟩ → w.registry.Allows request →
      Moves sink w { w with
        registry := w.registry.put request.site ⟨r, true⟩
        deeds    := w.deeds ++
          if request.idle w.registry then []
          else ((w.registry.put request.site ⟨r, true⟩).entries.find? request.site).toList.map
            fun e => .changed request.site e.record } := by
    intro r hown hallows
    rw [hbusy hallows, Registry.put, SiteMap.find?_insert_self]
    exact .changed request.site hown
  cases hserved with
  | refused x hnot =>
    rw [List.append_nil]
    exact .idle
  | existing hrequest hfound =>
    subst hrequest
    simp only [Request.idle, SiteMap.contains, hfound, Option.isSome_some, if_true,
      List.append_nil]
    exact .idle
  | denied hallows hreply =>
    rw [List.append_nil]
    exact .idle
  | carried answer hown hallows hreply => exact hchanged hown hallows
  | silent answer hown hallows => exact hchanged hown hallows

/-- The turn of a site in a pass. -/
theorem moves_visit {cause : FlushCause} {site : Site} {todo : List Site} {report : FlushReport}
    {e : Entry} (hphase : w.phase = .passing cause (site :: todo) report)
    (hfound : w.registry.entries.find? site = some e) :
    Moves sink w (w.visit sink cause todo report site e) := by
  rcases Registry.offer_cases sink site e w.sink with
    hclean | ⟨s, hdirty, hstore⟩ | ⟨x, s, hdirty, hstore⟩
  · rw [visit_clean hclean]
    exact .clean hphase hfound hclean
  · rw [visit_stored hdirty hstore]
    exact .stored hphase hfound hstore
  · rw [visit_failed hdirty hstore]
    exact .failed hphase hfound hdirty hstore

/-- Whatever comes next is one of the moves. -/
theorem Fit.moves (h : w.Fit) (event : Event) : Moves sink w (w.after sink event) := by
  cases event with
  | mutate request answers => exact h.moves_mutate request answers
  | flushNow wakes =>
    simp only [FlushLoop.after, flushNow]
    split
    · next hwakes =>
      refine .woken ?_ hwakes.2.2
      have hwaiting := hwakes.2.1
      generalize w.phase = phase at hwaiting ⊢
      cases phase with
      | waiting => rfl
      | _ => cases hwaiting
    · exact .asked
  | shutDown => exact .told
  | tick seconds => exact .ticked _
  | go =>
    simp only [FlushLoop.after, go]
    split
    · next hphase =>
      split
      · exact .idle
      · next cause hcause => exact .chose hphase hcause
    · next cause hphase => exact .began hphase
    · next cause site todo report hphase =>
      obtain ⟨e, hfound⟩ := h.todo hphase site (List.mem_cons_self ..)
      simp only [hfound]
      exact moves_visit hphase hfound
    · next cause report hphase => exact .ended hphase
    · exact .idle

/-- Sites stay. -/
theorem Moves.there (hmoves : Moves sink w w') {site : Site} {e : Entry}
    (hfound : w.registry.entries.find? site = some e) :
    ∃ e', w'.registry.entries.find? site = some e' := by
  have hput : ∀ other e₁, ∃ e', (w.registry.put other e₁).entries.find? site = some e' := by
    intro other e₁
    by_cases heq : site = other
    · exact ⟨e₁, by rw [heq, Registry.put, SiteMap.find?_insert_self]⟩
    · exact ⟨e, by rw [Registry.put, SiteMap.find?_insert_of_ne heq, hfound]⟩
  cases hmoves with
  | changed other hown => exact hput other _
  | stored => exact hput _ _
  | _ => exact ⟨e, hfound⟩

theorem Moves.fit (hmoves : Moves sink w w') (h : w.Fit) : w'.Fit where
  sound := by
    cases hmoves with
    | changed other hown => exact h.sound.put hown
    | stored hphase hfound =>
      have hown := h.sound hfound
      exact h.sound.put ⟨hown.coherent, hown.named⟩
    | _ => exact h.sound
  todo := by
    intro cause todo report hphase' site hmem
    have hold : ∀ {cause todo report}, w.phase = .passing cause todo report → site ∈ todo →
        ∃ e, w'.registry.entries.find? site = some e := by
      intro cause todo report hphase hmem
      obtain ⟨e, hfound⟩ := h.todo hphase site hmem
      exact hmoves.there hfound
    cases hmoves with
    | began =>
      cases hphase'
      have hcontains := SiteMap.contains_iff.mpr hmem
      exact Option.isSome_iff_exists.mp hcontains
    | chose => cases hphase'
    | stored hphase | failed hphase | clean hphase =>
      cases hphase'
      exact hold hphase (List.mem_cons_of_mem _ hmem)
    | ended hphase =>
      simp only at hphase'
      split at hphase' <;> cases hphase'
    | _ => exact hold hphase' hmem

theorem fit_start {interval now : Nat} (positive : 0 < interval) {g : Registry} (hg : g.Sound)
    (s : σ) : (start interval positive now g s).Fit where
  sound := hg
  todo  := nofun

/-! ## Section 3: The flusher that runs -/

theorem run_append (sink : Sink σ) (w : FlushLoop σ) (events later : List Event) :
    w.run sink (events ++ later) = (w.run sink events).run sink later :=
  List.foldl_append

/-- Steps that nothing comes between give each site its turn, as in a flush. -/
theorem exists_flushEach_eq (sink : Sink σ) {cause : FlushCause} (xs : List (Site × Entry))
    (hnodup : (xs.map Prod.fst).Nodup) {report : FlushReport} {w : FlushLoop σ}
    (hphase : w.phase = .passing cause (xs.map Prod.fst) report)
    (hfound : ∀ site e, (site, e) ∈ xs → w.registry.entries.find? site = some e) :
    ∃ n deeds, w.run sink (List.replicate n .go) = { w with
      registry := (Registry.flushEach sink xs report w.registry w.sink).2.1
      sink     := (Registry.flushEach sink xs report w.registry w.sink).2.2
      phase    := .passing cause [] (Registry.flushEach sink xs report w.registry w.sink).1
      deeds    := deeds } := by
  induction xs generalizing report w with
  | nil =>
    refine ⟨0, w.deeds, ?_⟩
    rw [List.map_nil] at hphase
    simp only [Registry.flushEach, ← hphase]
    rfl
  | cons head rest ih =>
    obtain ⟨site, e⟩ := head
    obtain ⟨hfresh, hrest⟩ := List.nodup_cons.mp hnodup
    have hvisit : w.go sink = w.visit sink cause (rest.map Prod.fst) report site e := by
      simp only [go, hphase, List.map_cons, hfound site e (List.mem_cons_self ..)]
    obtain ⟨offers, hgo⟩ := exists_visit_eq sink w cause (rest.map Prod.fst) report site e
    rw [← hvisit] at hgo
    have hbehind : ∀ other e', (other, e') ∈ rest →
        (w.go sink).registry.entries.find? other = some e' := by
      intro other e' hmem
      rw [hgo]
      exact (Traffic.flushEntry_find? sink report _ _ (SiteMap.ne_of_mem hmem hfresh) e).trans
        (hfound other e' (.tail _ hmem))
    obtain ⟨n, deeds, hrun⟩ := ih hrest (w := w.go sink) (by rw [hgo]) hbehind
    refine ⟨n + 1, deeds, ?_⟩
    rw [List.replicate_succ]
    change (w.go sink).run sink (List.replicate n .go) = _
    rw [hrun, hgo]
    rfl

/-- Steps that nothing comes between make a pass that is a flush. -/
theorem exists_flush_eq (sink : Sink σ) {cause : FlushCause} {w : FlushLoop σ}
    (hphase : w.phase = .chosen cause) :
    ∃ n deeds, w.run sink (List.replicate n .go) = { w with
      registry := (w.registry.flush sink w.sink).2.1
      sink     := (w.registry.flush sink w.sink).2.2
      phase    := if cause = .close then .stopped (w.registry.flush sink w.sink).1 else .waiting
      deeds    := deeds } := by
  have hgo : w.go sink = { w with
      phase := .passing cause w.registry.entries.sites {}
      deeds := w.deeds ++ [.began cause] } := by
    simp only [go, hphase]
  obtain ⟨n, deeds, hrun⟩ := exists_flushEach_eq sink w.registry.entries.entries
    w.registry.entries.nodup (w := w.go sink) (by rw [hgo]; rfl)
    fun site e hmem => by
      rw [hgo]
      exact SiteMap.lookup_of_mem w.registry.entries.nodup hmem
  refine ⟨1 + (n + 1), deeds ++ [.ended cause (w.registry.flush sink w.sink).1], ?_⟩
  rw [List.replicate_add, List.replicate_add, run_append, run_append]
  change ((w.go sink).run sink (List.replicate n .go)).go sink = _
  rw [hrun, hgo]
  rfl

/-- A flusher that has a cause and is not to close makes a flush because of it. -/
theorem exists_pass_eq (sink : Sink σ) {cause : FlushCause} {w : FlushLoop σ}
    (hphase : w.phase = .waiting) (hwoken : w.woken = false)
    (hcause : w.flusher.cause? w.now = some cause) (hgoes : cause ≠ .close) :
    ∃ n deeds, w.run sink (List.replicate n .go) = { w with
      flusher  := w.flusher.begin w.now cause
      registry := (w.registry.flush sink w.sink).2.1
      sink     := (w.registry.flush sink w.sink).2.2
      deeds    := deeds } := by
  have hgo : w.go sink = w.choose cause := by
    simp only [go, hphase, cause?, hwoken, Bool.or_false, hcause]
  obtain ⟨n, deeds, hrun⟩ := exists_flush_eq sink (w := w.choose cause) rfl
  refine ⟨n + 1, deeds, ?_⟩
  rw [List.replicate_succ]
  change (w.go sink).run sink (List.replicate n .go) = _
  rw [hgo, hrun, if_neg hgoes]
  simp [choose, hwoken, hphase]

/-- Steps that nothing comes between do what the flusher does until it waits or is to close. -/
theorem exists_run_eq (sink : Sink σ) {w : FlushLoop σ} (hphase : w.phase = .waiting)
    (hwoken : w.woken = false) :
    ∃ n deeds, w.run sink (List.replicate n .go) = { w with
      flusher  := (w.flusher.run w.now sink w.registry w.sink).1
      registry := (w.flusher.run w.now sink w.registry w.sink).2.1
      sink     := (w.flusher.run w.now sink w.registry w.sink).2.2
      deeds    := deeds } := by
  induction hpending : w.flusher.pending w.now using Nat.strong_induction_on generalizing w with
  | _ pending ih =>
    have honward : ∀ {cause}, w.flusher.cause? w.now = some cause → cause ≠ .close →
        ∃ n deeds, w.run sink (List.replicate n .go) = { w with
          flusher  := ((w.flusher.begin w.now cause).run w.now sink
            (w.registry.flush sink w.sink).2.1 (w.registry.flush sink w.sink).2.2).1
          registry := ((w.flusher.begin w.now cause).run w.now sink
            (w.registry.flush sink w.sink).2.1 (w.registry.flush sink w.sink).2.2).2.1
          sink     := ((w.flusher.begin w.now cause).run w.now sink
            (w.registry.flush sink w.sink).2.1 (w.registry.flush sink w.sink).2.2).2.2
          deeds    := deeds } := by
      intro cause hcause hgoes
      obtain ⟨n, deeds, hrun⟩ := exists_pass_eq sink hphase hwoken hcause hgoes
      have hless := Flusher.pending_begin_lt hcause hgoes
      obtain ⟨m, deeds', hrun'⟩ := ih _ (hpending ▸ hless)
        (w := w.run sink (List.replicate n .go)) (by rw [hrun]; exact hphase)
        (by rw [hrun]; exact hwoken) (by rw [hrun])
      refine ⟨n + m, deeds', ?_⟩
      rw [List.replicate_add, run_append, hrun', hrun]
    unfold Flusher.run
    split
    · exact ⟨0, w.deeds, rfl⟩
    · exact ⟨0, w.deeds, rfl⟩
    · next hcause => exact honward hcause (by decide)
    · next hcause => exact honward hcause (by decide)

end FlushLoop

end ChassisRegistry
