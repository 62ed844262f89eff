import ChassisRegistry.Proofs.Commitments
import ChassisRegistry.Proofs.Lineage

/-! # Creating sites

    Creations, restorations and operations on sites are under way together, from
    an empty registry on. Between the look of a creation at the sites and the
    reply to its call, others may put its site in; the same holds for a
    restoration between loading the blobs and taking them in. Still every site
    is put in once and stays, every creation is answered as if its site had
    been its own, and a site that a creation was answered with is there.

    Main statement: `Scene.founding`. -/

namespace ChassisRegistry

variable {ι σ : Type} [DecidableEq ι]

namespace Scene

variable {load : ι → Job} {w : Scene ι σ} {o : Outside σ} {t : ι} {site : Site}
  {endpoint : Endpoint} {rack shelf : UInt32} {result : Except RegistryError Yielded}

/-! ## Section 1: Answers -/

/-- A caller has got this answer or none yet, and unless it has gone, its own steps and those of its
    task lead to the answer. -/
def Answers (o : Outside σ) (w : Scene ι σ) (t : ι) (result : Except RegistryError Yielded) :
    Prop :=
  (∀ x, w.answer? t = some x → x = result) ∧
  (w.station (.caller t) ≠ .gone → ∃ more : List (Event ι),
    (∀ event ∈ more, event = .step (.caller t) ∨ event = .step (.task t)) ∧
      (w.run o more).answer? t = some result)

/-- A caller knows its answer without a task. -/
def Decided (w : Scene ι σ) (t : ι) (result : Except RegistryError Yielded) : Prop :=
  w.station (.task t) = .absent ∧ (w.station (.caller t) = .ahead (.answer result) ∨
    w.station (.caller t) = .done result ∨ w.station (.caller t) = .gone)

theorem Decided.after (h : w.Decided t result) (o : Outside σ) (event : Event ι) :
    (w.after o event).Decided t result := by
  obtain ⟨habsent, hcaller⟩ := h
  by_cases hjob : event.party.job = t
  · rcases Event.of_job hjob with rfl | rfl | rfl
    · rw [Decided, Scene.after, station_advance_caller.1, station_advance_caller.2]
      rcases hcaller with hcaller | hcaller | hcaller <;> rw [hcaller]
      · exact ⟨habsent, Or.inr (Or.inl rfl)⟩
      · exact ⟨habsent, Or.inr (Or.inl rfl)⟩
      · exact ⟨habsent, Or.inr (Or.inr rfl)⟩
    · rw [Decided, Scene.after, station_advance_task.1, station_advance_task.2, habsent]
      exact ⟨rfl, hcaller⟩
    · rw [Decided, Scene.after, station_giveUp.1, station_giveUp.2]
      rcases hcaller with hcaller | hcaller | hcaller <;> rw [hcaller]
      · exact ⟨habsent, Or.inr (Or.inr rfl)⟩
      · exact ⟨habsent, Or.inr (Or.inl rfl)⟩
      · exact ⟨habsent, Or.inr (Or.inr rfl)⟩
  · rw [Decided, station_after_of_ne (q := .caller t) hjob,
      station_after_of_ne (q := .task t) hjob]
    exact ⟨habsent, hcaller⟩

theorem Decided.run (h : w.Decided t result) (o : Outside σ) (events : List (Event ι)) :
    (w.run o events).Decided t result := by
  induction events generalizing w with
  | nil => exact h
  | cons event rest ih => exact ih (h.after o event)

omit [DecidableEq ι] in
theorem answer?_of_done (hdone : w.station (.caller t) = .done result) :
    w.answer? t = some result := by
  rw [answer?, hdone]

omit [DecidableEq ι] in
theorem done_of_answer? {x : Except RegistryError Yielded} (hanswer : w.answer? t = some x) :
    w.station (.caller t) = .done x := by
  unfold answer? at hanswer
  split at hanswer
  · next hdone => rw [hdone, Option.some.inj hanswer]
  · cases hanswer

theorem Decided.answers (h : w.Decided t result) (o : Outside σ) : Answers o w t result := by
  obtain ⟨_, hcaller⟩ := h
  refine ⟨fun x hanswer => ?_, fun hgone => ?_⟩
  · have hdone := done_of_answer? hanswer
    rcases hcaller with hcaller | hcaller | hcaller <;> rw [hcaller] at hdone <;> cases hdone
    rfl
  · rcases hcaller with hcaller | hcaller | hcaller
    · refine ⟨[.step (.caller t)], by simp, answer?_of_done ?_⟩
      change (w.advance o (.caller t)).station (.caller t) = _
      rw [station_advance_caller.1, hcaller]
      rfl
    · exact ⟨[], by simp, answer?_of_done hcaller⟩
    · exact absurd hcaller hgone

/-- The first look decides, if it answers at once. -/
theorem decided_of_look {r : Request} (hlook : w.station (.caller t) = .ahead (.look r.screened))
    (habsent : w.station (.task t) = .absent)
    (hscreened : r.screened w.ground.registry = .answer result) :
    (w.after o (.step (.caller t))).Decided t result := by
  rw [Decided, after, station_advance_caller.1, station_advance_caller.2, hlook]
  simp only [Ground.act, hscreened, true_or, and_true]
  exact habsent

/-- Before its first look a request has no task. -/
theorem Manned.absent_of_look {r : Request} (hw : w.Manned load)
    (hload : load t = .request r) (hlook : w.station (.caller t) = .ahead (.look r.screened)) :
    w.station (.task t) = .absent := by
  have hfront := hw.front hload
  rw [hlook] at hfront
  generalize w.station (.task t) = task at hfront ⊢
  cases hfront
  rfl

/-- A request that is answered alike whatever sites are there never gets a task. -/
theorem answers_of_screened {r : Request} (hscreened : ∀ g, r.screened g = .answer result)
    (hfront : r.Front (w.station (.caller t)) (w.station (.task t))) (o : Outside σ) :
    w.station (.task t) = .absent ∧ Answers o w t result := by
  have hpasses : ¬ r.Passes := by
    rintro ⟨g, hgo⟩
    have hhandOver : r.screened g = .handOver r.work := by rw [Request.screened, hgo]
    rw [hscreened] at hhandOver
    cases hhandOver
  have hdecided : ∀ {v : Scene ι σ}, v.Decided t result →
      v.station (.task t) = .absent ∧ Answers o v t result := fun h => ⟨h.1, h.answers o⟩
  generalize hcaller : w.station (.caller t) = caller at hfront
  generalize htask : w.station (.task t) = task at hfront
  rw [← htask]
  cases hfront with
  | new =>
    have hlooked := decided_of_look (o := o) hcaller htask (hscreened _)
    refine ⟨htask, fun x hanswer => ?_, fun _ => ?_⟩
    · rw [done_of_answer? hanswer] at hcaller
      cases hcaller
    · have hgone : (w.after o (.step (.caller t))).station (.caller t) ≠ .gone := by
        rw [after, station_advance_caller.1, hcaller]
        simp [Ground.act]
      obtain ⟨more, hown, hanswer⟩ := (hlooked.answers o).2 hgone
      exact ⟨.step (.caller t) :: more, by simpa using hown, hanswer⟩
  | @settled g x hx =>
    cases (hscreened g).symm.trans hx
    exact hdecided ⟨htask, Or.inl hcaller⟩
  | @answered g x hx =>
    cases (hscreened g).symm.trans hx
    exact hdecided ⟨htask, Or.inr (Or.inl hcaller)⟩
  | passed h | joining h | joined h => exact absurd h hpasses
  | gone h =>
    have habsent := h.resolve_right hpasses
    exact hdecided ⟨htask.trans habsent, Or.inr (Or.inr hcaller)⟩

/-! ## Section 2: Creations -/

/-- A creation that has been answered after a reply has been answered as the reply says. -/
theorem Manned.answer_of_reply (hw : w.Manned load)
    (hload : load t = .request (.create site endpoint rack shelf))
    {reply : Except ProvisionerError Unit}
    (hreply : (.login endpoint, reply) ∈ w.ground.repliesTo t)
    {x : Except RegistryError Yielded} (hanswer : w.answer? t = some x) :
    x = founded site endpoint reply := by
  have hfront := hw.front hload
  have hfounder := hw.founder hload
  rw [done_of_answer? hanswer] at hfront
  generalize w.station (.task t) = task at hfront hfounder
  cases hfront with
  | answered =>
    rw [hfounder.replies_of_absent] at hreply
    cases hreply
  | joined =>
    generalize w.ground.repliesTo t = replies at hfounder hreply
    cases hfounder with
    | done reply' =>
      simp only [List.mem_singleton, Prod.mk.injEq, true_and] at hreply
      rw [hreply]

/-- A creation is answered as its login was. -/
theorem Manned.answers_of_reply (hw : w.Manned load)
    (hload : load t = .request (.create site endpoint rack shelf))
    {reply : Except ProvisionerError Unit}
    (hreply : (.login endpoint, reply) ∈ w.ground.repliesTo t)
    (o : Outside σ) : Answers o w t (founded site endpoint reply) := by
  refine ⟨fun x hanswer => hw.answer_of_reply hload hreply hanswer, fun hgone => ?_⟩
  -- The task goes on to its end alone, and then the caller takes a last step.
  obtain ⟨n, x, hdone⟩ := hw.exists_alone_of_reply (o := o) hload (List.ne_nil_of_mem hreply)
  have hmanned := hw.run o (List.replicate n (.step (.task t)))
  have hfront := hmanned.front hload
  have hlast : ((w.alone o t n).after o (.step (.caller t))).answer? t = some x := by
    refine answer?_of_done ?_
    rw [Scene.after, station_advance_caller.1, hdone]
    rw [← caller_alone (o := o) n] at hgone
    change Request.Front _ ((w.alone o t n).station (.caller t))
      ((w.alone o t n).station (.task t)) at hfront
    rw [hdone] at hfront
    generalize (w.alone o t n).station (.caller t) = caller at hfront hgone
    cases hfront with
    | joining => rfl
    | joined => rfl
    | gone => exact absurd rfl hgone
  have hx : x = founded site endpoint reply :=
    (hmanned.after o (.step (.caller t))).answer_of_reply hload
      (repliesTo_run (o := o) [.step (.caller t)] (repliesTo_run (o := o) _ hreply)) hlast
  refine ⟨List.replicate n (.step (.task t)) ++ [.step (.caller t)], ?_, ?_⟩
  · intro event hmem
    rcases List.mem_append.mp hmem with hmem | hmem
    · exact Or.inr (List.eq_of_mem_replicate hmem)
    · exact Or.inl (List.mem_singleton.mp hmem)
  · rw [Scene.run, List.foldl_append, ← hx]
    exact hlast

/-- A creation that finds its site is answered at once. -/
theorem screened_of_there {g : Registry} {e : Entry}
    (hlogin : requireLogin endpoint.user endpoint.password = .ok ())
    (hfound : g.entries.find? site = some e) :
    (Request.create site endpoint rack shelf).screened g =
      .answer (founded site endpoint (.ok ())) := by
  simp only [Request.screened, Registry.screen, hlogin, SiteMap.contains, hfound]
  rfl

/-- A creation with a blank login is refused at once. -/
theorem screened_of_blank {x : RegistryError}
    (hlogin : requireLogin endpoint.user endpoint.password = .error x) (g : Registry) :
    (Request.create site endpoint rack shelf).screened g = .answer (.error x) := by
  simp only [Request.screened, Registry.screen, hlogin]
  rfl

/-- Without an accepted login a creation changes nothing. -/
theorem Manned.registry_after (hw : w.Manned load)
    (hload : load t = .request (.create site endpoint rack shelf)) {event : Event ι}
    (hjob : event.party.job = t) (hnot : (.login endpoint, .ok ()) ∉ w.ground.repliesTo t) :
    (w.after o event).ground.registry = w.ground.registry := by
  rcases Event.of_job hjob with rfl | rfl | rfl
  · exact congrArg Ground.registry (hw.front hload).ground_caller
  · have hfounder := hw.founder hload
    change (w.ground.act o (.task t) _ (w.station (.task t))).ground.registry = _
    generalize w.station (.task t) = task at hfounder ⊢
    generalize w.ground.repliesTo t = replies at hfounder hnot
    cases hfounder with
    | replied reply =>
      cases reply with
      | error why => rfl
      | ok _ => exact absurd (List.mem_singleton.mpr rfl) hnot
    | _ => rfl
  · exact congrArg Ground.registry (hw.front hload).abandon.1

theorem Manned.repliesTo_cases (hw : w.Manned load)
    (hload : load t = .request (.create site endpoint rack shelf)) :
    w.ground.repliesTo t = [] ∨ ∃ reply, w.ground.repliesTo t = [(.login endpoint, reply)] := by
  have hfounder := hw.founder hload
  generalize w.station (.task t) = task at hfounder
  generalize w.ground.repliesTo t = replies at hfounder ⊢
  cases hfounder with
  | absent | ahead | asking => exact Or.inl rfl
  | replied reply | settled reply | done reply => exact Or.inr ⟨reply, rfl⟩

omit [DecidableEq ι] in
/-- What a creation puts in is what was asked for. -/
theorem Origin.own {event : Event ι} {e : Entry} (h : Origin load w site event e)
    (hload : load event.party.job = .request (.create site endpoint rack shelf)) :
    e.record.endpoint = endpoint ∧
      (e.record.physical.rack, e.record.physical.shelf) = (rack, shelf) ∧
      (e.record.logical.rack, e.record.logical.shelf) = (rack, shelf) := by
  cases h with
  | created hload' =>
    cases hload.symm.trans hload'
    exact ⟨rfl, rfl, rfl⟩
  | restored hload' => cases hload.symm.trans hload'

/-! ## Section 3: Sites that creations are answered with -/

/-- The caller of a creation is about to be answered with its site, or has been. -/
def Affirmed (w : Scene ι σ) (t : ι) (site : Site) : Prop :=
  w.station (.caller t) = .ahead (.answer (.ok (.visit (.answer (.site site))))) ∨
    w.station (.caller t) = .done (.ok (.visit (.answer (.site site))))

/-- The sites that creations are answered with are there. -/
def Housed (load : ι → Job) (w : Scene ι σ) : Prop :=
  ∀ ⦃t site endpoint rack shelf⦄, load t = .request (.create site endpoint rack shelf) →
    w.Affirmed t site → ∃ e, w.ground.registry.entries.find? site = some e

/-- At its first look a creation is answered with its site only where that is there. -/
theorem there_of_screened {g : Registry}
    (hscreened : (Request.create site endpoint rack shelf).screened g =
      .answer (.ok (.visit (.answer (.site site))))) : ∃ e, g.entries.find? site = some e := by
  unfold Request.screened Registry.screen at hscreened
  cases hlogin : requireLogin endpoint.user endpoint.password with
  | error x => simp [hlogin, bind, Except.bind] at hscreened
  | ok _ =>
    cases hfound : g.entries.find? site with
    | some e => exact ⟨e, rfl⟩
    | none =>
      simp [hlogin, bind, Except.bind, pure, Except.pure, SiteMap.contains, hfound] at hscreened

/-- By its own step the caller of a creation comes to know of its site when it sees the site, or
    when its task has put the site in. -/
theorem Manned.affirmed_of_step (hw : w.Manned load)
    (hload : load t = .request (.create site endpoint rack shelf))
    (haffirmed : (w.after o (.step (.caller t))).Affirmed t site) :
    w.Affirmed t site ∨ ∃ e, w.ground.registry.entries.find? site = some e := by
  have hfront := hw.front hload
  have hfounder := hw.founder hload
  unfold Affirmed at haffirmed ⊢
  rw [Scene.after, station_advance_caller.1] at haffirmed
  generalize w.station (.caller t) = caller at haffirmed hfront ⊢
  generalize w.station (.task t) = task at haffirmed hfront hfounder
  generalize w.ground.repliesTo t = replies at hfounder
  cases hfront with
  | new =>
    simp only [Ground.act, Station.ahead.injEq, reduceCtorEq, or_false] at haffirmed
    exact .inr (there_of_screened haffirmed)
  | settled =>
    simp only [Ground.act, Station.done.injEq, reduceCtorEq, false_or] at haffirmed
    exact .inl (.inl (by rw [haffirmed]))
  | joining =>
    cases hfounder with
    | done reply hthere =>
      cases reply with
      | ok _ => exact .inr (hthere rfl)
      | error why => simp [Ground.act, founded] at haffirmed
    | _ => simp [Ground.act] at haffirmed
  | passed => simp [Ground.act] at haffirmed
  | answered | joined | gone => exact .inl haffirmed

/-- Nothing else makes it known. -/
theorem Manned.affirmed_before (hw : w.Manned load)
    (hload : load t = .request (.create site endpoint rack shelf)) {event : Event ι}
    (haffirmed : (w.after o event).Affirmed t site) :
    w.Affirmed t site ∨ ∃ e, w.ground.registry.entries.find? site = some e := by
  by_cases hparty : event.party = .caller t
  · cases event with
    | step p =>
      obtain rfl : p = .caller t := hparty
      exact hw.affirmed_of_step hload haffirmed
    | giveUp u =>
      obtain rfl : u = t := by simpa [Event.party] using hparty
      unfold Affirmed at haffirmed ⊢
      rw [Scene.after, station_giveUp.1] at haffirmed
      generalize w.station (.caller u) = caller at haffirmed ⊢
      cases caller with
      | done result => exact .inl haffirmed
      | _ => simp [Ground.abandon] at haffirmed
  · unfold Affirmed at haffirmed ⊢
    rw [caller_after_of_ne hparty] at haffirmed
    exact .inl haffirmed

theorem Housed.after (h : w.Housed load) (hw : w.Manned load) (o : Outside σ) (event : Event ι) :
    (w.after o event).Housed load := by
  intro t site endpoint rack shelf hload haffirmed
  have hthere : ∃ e, w.ground.registry.entries.find? site = some e :=
    (hw.affirmed_before hload haffirmed).elim (h hload) id
  obtain ⟨e, hfound⟩ := hthere
  exact (hw.sound.spares o event).there hfound

theorem Housed.run (h : w.Housed load) (hw : w.Manned load) (o : Outside σ)
    (events : List (Event ι)) : (w.run o events).Housed load := by
  induction events generalizing w with
  | nil => exact h
  | cons event rest ih => exact ih (h.after hw o event) (hw.after o event)

omit [DecidableEq ι] in
theorem housed_start (load : ι → Job) (g : Registry) (s : σ) : (start load g s).Housed load := by
  intro t site endpoint rack shelf hload haffirmed
  simp [Affirmed, start, hload, Job.errand] at haffirmed

/-! ## Section 4: Every run -/

theorem run_split (o : Outside σ) (w : Scene ι σ) (before : List (Event ι)) (event : Event ι)
    (after : List (Event ι)) :
    w.run o (before ++ event :: after) = ((w.run o before).after o event).run o after := by
  rw [run, List.foldl_append, List.foldl_cons]
  rfl

/-- How sites and creations fare in a run, from the scene `first` to the scene `last`. -/
structure Founded (load : ι → Job) (o : Outside σ) (events : List (Event ι))
    (first last : Scene ι σ) : Prop where
  /-- Whatever comes later, an entry is never taken away or replaced. Its record changes by what is
      asked for at the site only, and without an operation on the site the entry stays the same. -/
  lasts    : ∀ site e, last.ground.registry.entries.find? site = some e → ∀ more : List (Event ι),
    ∃ (e' : Entry) (changes : List Change),
      (last.run o more).ground.registry.entries.find? site = some e' ∧
      e'.record = changes.foldl Record.after e.record ∧
      (∀ what ∈ changes, ∃ t, (load t).site? = some site ∧ (load t).change? = some what) ∧
      ((∀ event ∈ more, (load event.party.job).site? ≠ some site) → e' = e)
  /-- An entry comes from the creation or the blob that was the first to put it in. -/
  origin   : ∀ site e, last.ground.registry.entries.find? site = some e →
    ∃ (before : List (Event ι)) (event : Event ι) (after : List (Event ι)) (e₀ : Entry)
      (changes : List Change), events = before ++ event :: after ∧
      (first.run o before).ground.registry.entries.find? site = none ∧
      ((first.run o before).after o event).ground.registry.entries.find? site = some e₀ ∧
      Origin load (first.run o before) site event e₀ ∧
      e.record = changes.foldl Record.after e₀.record
  /-- What a creation puts in has the endpoint, the rack and the shelf that it was asked for with. -/
  own      : ∀ t site endpoint rack shelf, load t = .request (.create site endpoint rack shelf) →
    ∀ before event after e₀, events = before ++ event :: after → event.party.job = t →
      (first.run o before).ground.registry.entries.find? site = none →
      ((first.run o before).after o event).ground.registry.entries.find? site = some e₀ →
        e₀.record.endpoint = endpoint ∧
          (e₀.record.physical.rack, e₀.record.physical.shelf) = (rack, shelf) ∧
          (e₀.record.logical.rack, e₀.record.logical.shelf) = (rack, shelf)
  /-- A creation that finds its site is answered with the site. -/
  found    : ∀ t site endpoint rack shelf, load t = .request (.create site endpoint rack shelf) →
    requireLogin endpoint.user endpoint.password = .ok () →
    ∀ before after e, events = before ++ .step (.caller t) :: after →
      (first.run o before).station (.caller t) = .ahead (load t).errand →
      (first.run o before).ground.registry.entries.find? site = some e →
      Answers o last t (.ok (.visit (.answer (.site site))))
  /-- So is one whose login was accepted. -/
  accepted : ∀ t site endpoint rack shelf, load t = .request (.create site endpoint rack shelf) →
    (t, .login endpoint, .ok ()) ∈ last.ground.replies →
      Answers o last t (.ok (.visit (.answer (.site site))))
  /-- Its task puts the site in by steps of its own, unless the site is there. -/
  comes    : ∀ t site endpoint rack shelf, load t = .request (.create site endpoint rack shelf) →
    (t, .login endpoint, .ok ()) ∈ last.ground.replies →
      ∃ n e, (last.alone o t n).ground.registry.entries.find? site = some e
  /-- The site that a creation was answered with is there. -/
  present  : ∀ t site endpoint rack shelf, load t = .request (.create site endpoint rack shelf) →
    last.answer? t = some (.ok (.visit (.answer (.site site)))) →
      ∃ e, last.ground.registry.entries.find? site = some e
  /-- One whose login was refused is answered with the refusal. -/
  refused  : ∀ t site endpoint rack shelf why,
    load t = .request (.create site endpoint rack shelf) →
    (t, .login endpoint, .error why) ∈ last.ground.replies →
      Answers o last t (.error (.chassis (.ofRefusal (.login endpoint) why)))
  /-- A blank login is refused without a call. -/
  blank    : ∀ t site endpoint rack shelf x, load t = .request (.create site endpoint rack shelf) →
    requireLogin endpoint.user endpoint.password = .error x →
      last.ground.repliesTo t = [] ∧ Answers o last t (.error x)
  /-- A creation asks for its login once at most. -/
  once     : ∀ t site endpoint rack shelf, load t = .request (.create site endpoint rack shelf) →
    last.ground.repliesTo t = [] ∨ ∃ reply, last.ground.repliesTo t = [(.login endpoint, reply)]
  /-- Unless its login was accepted, a creation has put nothing in. -/
  harmless : ∀ t site endpoint rack shelf, load t = .request (.create site endpoint rack shelf) →
    (t, .login endpoint, .ok ()) ∉ last.ground.replies →
    ∀ before event after, events = before ++ event :: after → event.party.job = t →
      ((first.run o before).after o event).ground.registry = (first.run o before).ground.registry

/-- **Founding**: with creations, restorations and operations on sites under way in any number and
    in any interleaving, a site is put in once and never replaced. -/
theorem founding (load : ι → Job) (o : Outside σ) (s : σ) (events : List (Event ι)) :
    Founded load o events (start load .empty s) ((start load .empty s).run o events) := by
  have hstart : (start load .empty s).Manned load := manned_start load Registry.sound_empty s
  have hrestoring := restoring_start load .empty s
  have hmanned := hstart.run o events
  refine {
    lasts    := fun site e hfound more => hmanned.sound.exists_later o more hfound
    origin   := ?_
    own      := ?_
    found    := ?_
    accepted := fun t site endpoint rack shelf hload hmem =>
      hmanned.answers_of_reply hload (Ground.mem_repliesTo.mpr hmem) o
    comes    := ?_
    present  := ?_
    refused  := fun t site endpoint rack shelf why hload hmem =>
      hmanned.answers_of_reply hload (Ground.mem_repliesTo.mpr hmem) o
    blank    := ?_
    once     := fun t site endpoint rack shelf hload => hmanned.repliesTo_cases hload
    harmless := ?_ }
  · intro site e hfound
    obtain ⟨before, event, after, e₀, rfl, hnone, hfirst, horigin⟩ :=
      exists_origin hstart hrestoring o events rfl hfound
    have hsound := ((hstart.run o before).after o event).sound
    obtain ⟨e', changes, hlater, hrecord, _⟩ := hsound.exists_later o after hfirst
    rw [run_split, hlater, Option.some.injEq] at hfound
    subst hfound
    exact ⟨before, event, after, e₀, changes, rfl, hnone, hfirst, horigin, hrecord⟩
  · rintro t site endpoint rack shelf hload before event after e₀ rfl rfl hnone hfirst
    exact ((hstart.run o before).origin (hrestoring.run o before) hnone hfirst).own hload
  · rintro t site endpoint rack shelf hload hlogin before after e rfl hlook hfound
    rw [hload] at hlook
    have habsent := (hstart.run o before).absent_of_look hload hlook
    rw [run_split]
    exact ((decided_of_look hlook habsent (screened_of_there hlogin hfound)).run o after).answers o
  · intro t site endpoint rack shelf hload hmem
    obtain ⟨_, n, ⟨e, hfound⟩, _⟩ := hmanned.exists_alone_of_accepted (o := o) hload hmem
    exact ⟨n, e, hfound⟩
  · intro t site endpoint rack shelf hload hanswer
    have hhoused := (housed_start load .empty s).run hstart o events
    exact hhoused hload (Or.inr (done_of_answer? hanswer))
  · intro t site endpoint rack shelf x hload hlogin
    obtain ⟨habsent, hanswers⟩ :=
      answers_of_screened (screened_of_blank hlogin) (hmanned.front hload) o
    refine ⟨?_, hanswers⟩
    have hfounder := hmanned.founder hload
    rw [habsent] at hfounder
    exact hfounder.replies_of_absent
  · rintro t site endpoint rack shelf hload hnot before event after rfl hjob
    refine (hstart.run o before).registry_after hload hjob fun hmem => hnot ?_
    rw [run_split]
    exact Ground.mem_repliesTo.mp (repliesTo_run (o := o) (event :: after) hmem)

end Scene

end ChassisRegistry
