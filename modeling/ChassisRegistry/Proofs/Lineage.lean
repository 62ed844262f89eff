import ChassisRegistry.Proofs.Callers

/-! # Where entries come from

    A site gets its entry once: from a creation whose login was accepted, or
    from the first blob of a restoration that holds its record. After that no
    creation and no restoration touches the entry any more; its record is the
    first one with the changes carried out that were asked for at the site.

    Main statements: `Scene.Sound.exists_later` and `Scene.exists_origin`. -/

namespace ChassisRegistry

variable {ι σ : Type}

/-! ## Section 1: Blobs of a restoration -/

/-- The record that a site gets from blobs: the one of the first blob that holds its record. -/
def Registry.recordOf (site : Site) : List (Site × ByteArray) → Option Record
  | [] => none
  | (key, blob) :: rest =>
      match Snapshot.read blob with
      | .ok r => if key = site ∧ r.site = site then some r else recordOf site rest
      | .error _ => recordOf site rest

/-- A restoration gives a site that is not there the record that it gets from the blobs. -/
theorem Registry.restoreEach_find? {site : Site} (blobs : List (Site × ByteArray))
    (report : RestoreReport) {g : Registry} (hnone : g.entries.find? site = none) :
    (restoreEach blobs report g).2.entries.find? site =
      (recordOf site blobs).map fun r => ⟨r, false⟩ := by
  induction blobs generalizing report g with
  | nil => exact hnone
  | cons head rest ih =>
    obtain ⟨key, blob⟩ := head
    unfold restoreEach recordOf
    cases hread : Snapshot.read blob with
    | error x =>
      have hrestorable : g.restorable key blob = none := by rw [restorable, hread]
      simp only [hrestorable]
      exact ih _ hnone
    | ok r =>
      by_cases hkey : key = site
      · subst hkey
        by_cases hsite : r.site = key
        · have hrestorable : g.restorable key blob = some r :=
            restorable_eq_some.mpr ⟨hread, hsite, hnone⟩
          simp only [hrestorable, hsite, and_self, if_true, Option.map_some]
          exact extends_restoreEach _ _ _ (SiteMap.find?_insert_self _ _ _)
        · have hrestorable : g.restorable key blob = none := by simp [restorable, hread, hsite]
          simp only [hrestorable, hsite, and_false, if_false]
          exact ih _ hnone
      · simp only [hkey, false_and, if_false]
        cases hrestorable : g.restorable key blob with
        | none => exact ih _ hnone
        | some r' =>
          exact ih _ ((SiteMap.find?_insert_of_ne (Ne.symm hkey) _ _).trans hnone)

/-! ## Section 2: Entries that are there -/

namespace Scene

variable [DecidableEq ι] {load : ι → Job} {w : Scene ι σ} {o : Outside σ} {t : ι} {site : Site}
  {e : Entry}

/-- An entry stays as it is but for operations on its site, which write what they are asked for. -/
theorem Sound.exists_next (hw : w.Sound load) (o : Outside σ) (event : Event ι)
    (hfound : w.ground.registry.entries.find? site = some e) :
    ∃ e', (w.after o event).ground.registry.entries.find? site = some e' ∧
      (e' = e ∨ (load event.party.job).site? = some site ∧ (load event.party.job).Writes e e') := by
  cases event with
  | giveUp t => exact ⟨e, by simpa [Scene.after, Scene.giveUp] using hfound, Or.inl rfl⟩
  | step p =>
    have hserves := hw.serves p
    change ∃ e', (w.ground.act o p _ (w.station p)).ground.registry.entries.find? site = some e' ∧ _
    by_cases hinside : ∃ turn, w.station p = .inside site turn
    · obtain ⟨turn, hstation⟩ := hinside
      rw [hstation] at hserves ⊢
      obtain ⟨hsite, _, e', hfound', hturn⟩ := hserves
      cases hfound.symm.trans hfound'
      cases turn with
      | access write next =>
        simp only [Ground.act, hfound]
        exact ⟨write e, SiteMap.find?_insert_self _ _ _, Or.inr ⟨hsite, hturn.1⟩⟩
      | send m next => exact ⟨e, hfound, Or.inl rfl⟩
      | leave result => exact ⟨e, hfound, Or.inl rfl⟩
    · exact ⟨e, hserves.alters.kept hfound fun turn hstation => hinside ⟨turn, hstation⟩,
        Or.inl rfl⟩

/-- An entry is never taken away or replaced: later on, its record is the same with changes carried
    out that were asked for at its site, and without an operation on the site nothing changes. -/
theorem Sound.exists_later (hw : w.Sound load) (o : Outside σ) (events : List (Event ι))
    (hfound : w.ground.registry.entries.find? site = some e) :
    ∃ (e' : Entry) (changes : List Change),
      (w.run o events).ground.registry.entries.find? site = some e' ∧
      e'.record = changes.foldl Record.after e.record ∧
      (∀ what ∈ changes, ∃ t, (load t).site? = some site ∧ (load t).change? = some what) ∧
      ((∀ event ∈ events, (load event.party.job).site? ≠ some site) → e' = e) := by
  induction events generalizing w e with
  | nil => exact ⟨e, [], hfound, rfl, by simp, fun _ => rfl⟩
  | cons event rest ih =>
    obtain ⟨e₁, hfound₁, hnext⟩ := hw.exists_next o event hfound
    obtain ⟨e', changes, hfound', hrecord, hasked, hsame⟩ := ih (hw.after o event) hfound₁
    -- The event has changed nothing, or the mark alone, or it has carried out its change.
    have hstill : (∀ next ∈ event :: rest, (load next.party.job).site? ≠ some site) → e' = e := by
      intro hothers
      rcases hnext with rfl | ⟨hsite, _⟩
      · exact hsame fun next hmem => hothers next (List.mem_cons_of_mem _ hmem)
      · exact absurd hsite (hothers event (List.mem_cons_self ..))
    rcases hnext with rfl | ⟨hsite, hmark | ⟨what, hwhat, hafter⟩⟩
    · exact ⟨e', changes, hfound', hrecord, hasked, hstill⟩
    · exact ⟨e', changes, hfound', by rw [hrecord, hmark], hasked, hstill⟩
    · refine ⟨e', what :: changes, hfound', by rw [hrecord, hafter]; rfl, ?_, hstill⟩
      intro what' hmem
      rcases List.mem_cons.mp hmem with rfl | hmem
      · exact ⟨_, hsite, hwhat⟩
      · exact hasked what' hmem

end Scene

/-! ## Section 3: Restorations -/

/-- Where the caller of a restoration can be. What it takes in has been loaded. -/
inductive Restorer (t : ι) (h : Ground ι σ) : Station → Prop where
  | ahead : Restorer t h (.ahead .load)
  | loaded {blobs : List (Site × ByteArray)} (hload : (t, blobs) ∈ h.loads) :
      Restorer t h (.ahead (.takeIn blobs))
  | settled (result : Except RegistryError Yielded) : Restorer t h (.ahead (.answer result))
  | done (result : Except RegistryError Yielded) : Restorer t h (.done result)
  | gone : Restorer t h .gone

section

variable [DecidableEq ι] {h h' : Ground ι σ} {station : Station} {t : ι}

theorem Restorer.act (hrestorer : Restorer t h station) (o : Outside σ) (task : Station) :
    Restorer t (h.act o (.caller t) task station).ground
        (h.act o (.caller t) task station).station ∧
      (h.act o (.caller t) task station).spawned = none := by
  cases hrestorer with
  | ahead =>
    simp only [Ground.act]
    cases o.sink.load h.outside with
    | error x => exact ⟨.settled _, rfl⟩
    | ok blobs => exact ⟨.loaded (List.mem_append_right _ (List.mem_singleton.mpr rfl)), rfl⟩
  | loaded hload => exact ⟨.settled _, rfl⟩
  | settled result => exact ⟨.done result, rfl⟩
  | done result => exact ⟨.done result, rfl⟩
  | gone => exact ⟨.gone, rfl⟩

theorem Restorer.abandon (hrestorer : Restorer t h station) :
    Restorer t h' (h.abandon (.caller t) station).2 := by
  cases hrestorer with
  | done result => exact .done result
  | _ => exact .gone

omit [DecidableEq ι] in
theorem Restorer.of_loads (hrestorer : Restorer t h station)
    (hloads : ∀ x, x ∈ h.loads → x ∈ h'.loads) : Restorer t h' station := by
  cases hrestorer with
  | ahead => exact .ahead
  | loaded hload => exact .loaded (hloads _ hload)
  | settled result => exact .settled result
  | done result => exact .done result
  | gone => exact .gone

end

namespace Scene

variable [DecidableEq ι] {load : ι → Job} {w : Scene ι σ} {o : Outside σ} {t : ι} {site : Site}
  {e : Entry}

theorem loads_after (event : Event ι) {x : ι × List (Site × ByteArray)}
    (hmem : x ∈ w.ground.loads) : x ∈ (w.after o event).ground.loads := by
  cases event with
  | step p =>
    change x ∈ (w.ground.act o p _ _).ground.loads
    rw [Ground.loads_act]
    exact List.mem_append_left _ hmem
  | giveUp t => simpa [after, giveUp] using hmem

/-- Restorations have no tasks, and their callers are where they can be. -/
def Restoring (load : ι → Job) (w : Scene ι σ) : Prop :=
  ∀ ⦃t⦄, load t = .restore →
    Restorer t w.ground (w.station (.caller t)) ∧ w.station (.task t) = .absent

omit [DecidableEq ι] in
theorem restoring_start (load : ι → Job) (g : Registry) (s : σ) :
    (start load g s).Restoring load := by
  intro t hload
  simp only [start, hload]
  exact ⟨.ahead, trivial⟩

theorem Restoring.after (hrestoring : w.Restoring load) (o : Outside σ) (event : Event ι) :
    (w.after o event).Restoring load := by
  intro t hload
  obtain ⟨hrestorer, habsent⟩ := hrestoring hload
  by_cases hjob : event.party.job = t
  · rcases Event.of_job hjob with rfl | rfl | rfl
    · obtain ⟨hnext, hspawned⟩ := hrestorer.act o (w.station (.task t))
      rw [Scene.after, station_advance_caller.1, station_advance_caller.2, hspawned]
      exact ⟨hnext, habsent⟩
    · rw [Scene.after, station_advance_task.1, station_advance_task.2, habsent]
      exact ⟨hrestorer.of_loads fun x => loads_after (.step (.task t)), rfl⟩
    · rw [Scene.after, station_giveUp.1, station_giveUp.2]
      exact ⟨hrestorer.abandon, habsent⟩
  · rw [station_after_of_ne (q := .caller t) hjob, station_after_of_ne (q := .task t) hjob]
    exact ⟨hrestorer.of_loads fun x => loads_after event, habsent⟩

theorem Restoring.run (hrestoring : w.Restoring load) (o : Outside σ) (events : List (Event ι)) :
    (w.run o events).Restoring load := by
  induction events generalizing w with
  | nil => exact hrestoring
  | cons event rest ih => exact ih (hrestoring.after o event)

/-! ## Section 4: Sites that come -/

/-- How a site can get its first entry in a scene, by an event. -/
inductive Origin (load : ι → Job) (w : Scene ι σ) (site : Site) : Event ι → Entry → Prop where
  /-- A creation puts it in whose login was accepted. -/
  | created {t : ι} {endpoint : Endpoint} {rack shelf : UInt32}
      (hload : load t = .request (.create site endpoint rack shelf))
      (haccepted : (t, .login endpoint, .ok ()) ∈ w.ground.replies) :
      Origin load w site (.step (.task t)) ⟨.create site endpoint rack shelf, true⟩
  /-- A restoration puts it in that has loaded its record. -/
  | restored {t : ι} {blobs : List (Site × ByteArray)} {r : Record} (hload : load t = .restore)
      (hblobs : (t, blobs) ∈ w.ground.loads) (hrecord : Registry.recordOf site blobs = some r) :
      Origin load w site (.step (.caller t)) ⟨r, false⟩

/-- A creation that puts a site in has had its login accepted, and the site is its own. -/
theorem of_find?_resume_create {g : Registry} {there : Site} {endpoint : Endpoint}
    {rack shelf : UInt32} {reply : Except ChassisError Unit} (hnone : g.entries.find? site = none)
    (hfound : (g.resume (.create there endpoint rack shelf) reply).2.entries.find? site = some e) :
    reply = .ok () ∧ there = site ∧ e = ⟨.create site endpoint rack shelf, true⟩ := by
  rcases g.resume_create_cases there endpoint rack shelf reply with
    ⟨_, _, hresume⟩ | ⟨_, _, hresume⟩ | ⟨hok, _, hresume⟩
  · rw [hresume, hnone] at hfound
    cases hfound
  · rw [hresume, hnone] at hfound
    cases hfound
  · have hsite : site = there := Classical.byContradiction fun hne => by
      rw [hresume, Registry.put, SiteMap.find?_insert_of_ne hne, hnone] at hfound
      cases hfound
    subst hsite
    rw [hresume, Registry.put, SiteMap.find?_insert_self, Option.some.injEq] at hfound
    exact ⟨hok, rfl, hfound.symm⟩

/-- A creation is settled by its task, with the reply that has come. -/
theorem Manned.exists_reply (hw : w.Manned load) {p : Party ι} {there : Site} {endpoint : Endpoint}
    {rack shelf : UInt32} {reply : Except ChassisError Unit}
    (hstation : w.station p = .ahead (.settle (.create there endpoint rack shelf) reply)) :
    ∃ t reply', p = .task t ∧ load t = .request (.create there endpoint rack shelf) ∧
      reply = Registry.replyTo (.login endpoint) reply' ∧
        (t, .login endpoint, reply') ∈ w.ground.replies := by
  have hserves := hw.sound.serves p
  rw [hstation] at hserves
  obtain ⟨call, _, _, _, _, hload, _, hpending⟩ := hserves
  cases hpending
  cases p with
  | caller t =>
    -- The callers of creations have nothing to settle.
    have hfront := hw.front hload
    rw [Party.job, hstation] at hfront
    cases hfront
  | task t =>
    have hfounder := hw.founder hload
    rw [Party.job, hstation] at hfounder
    generalize hreplies : w.ground.repliesTo t = replies at hfounder
    cases hfounder with
    | replied reply' =>
      exact ⟨t, reply', rfl, hload, rfl, Ground.mem_repliesTo.mp (by simp [hreplies])⟩

omit [DecidableEq ι] in
/-- Blobs are taken in by the caller of a restoration that has loaded them. -/
theorem Restoring.loaded (hrestoring : w.Restoring load) {p : Party ι}
    (hload : load p.job = .restore) {blobs : List (Site × ByteArray)}
    (hstation : w.station p = .ahead (.takeIn blobs)) :
    ∃ t, p = .caller t ∧ (t, blobs) ∈ w.ground.loads := by
  obtain ⟨hrestorer, habsent⟩ := hrestoring hload
  cases p with
  | caller t =>
    rw [Party.job, hstation] at hrestorer
    cases hrestorer with
    | loaded hblobs => exact ⟨t, rfl, hblobs⟩
  | task t =>
    rw [Party.job, hstation] at habsent
    cases habsent

/-- A site that comes with an event comes from a creation or from a restoration. -/
theorem Manned.origin (hw : w.Manned load) (hrestoring : w.Restoring load)
    (hnone : w.ground.registry.entries.find? site = none) {event : Event ι}
    (hfound : (w.after o event).ground.registry.entries.find? site = some e) :
    Origin load w site event e := by
  cases event with
  | giveUp t =>
    simp only [Scene.after, Scene.giveUp, Ground.registry_abandon, hnone] at hfound
    cases hfound
  | step p =>
    have hserves := hw.sound.serves p
    change (w.ground.act o p (w.station (.task p.job))
      (w.station p)).ground.registry.entries.find? site = some e at hfound
    have halters : (w.station p).Alters w.ground.registry
        (w.ground.act o p (w.station (.task p.job)) (w.station p)).ground.registry :=
      hserves.alters
    generalize (w.ground.act o p (w.station (.task p.job)) (w.station p)).ground.registry = g'
      at hfound halters
    cases halters with
    | nothing =>
      rw [hnone] at hfound
      cases hfound
    | founds hstation =>
      obtain ⟨t, reply, rfl, hload, rfl, hreply⟩ := hw.exists_reply hstation
      obtain ⟨hok, rfl, rfl⟩ := of_find?_resume_create hnone hfound
      cases reply with
      | error why => cases hok
      | ok _ => exact .created hload hreply
    | takesIn hstation =>
      rw [hstation] at hserves
      have hload : load p.job = .restore := hserves
      obtain ⟨t, rfl, hblobs⟩ := hrestoring.loaded hload hstation
      rw [Registry.restoreEach_find? _ _ hnone, Option.map_eq_some_iff] at hfound
      obtain ⟨r, hrecord, rfl⟩ := hfound
      exact .restored hload hblobs hrecord
    | @writes there _ _ _ hstation hthere =>
      have hne : site ≠ there := by
        rintro rfl
        rw [hnone] at hthere
        cases hthere
      rw [Registry.put, SiteMap.find?_insert_of_ne hne, hnone] at hfound
      cases hfound

/-- A site that has come, has come by an event of the run. -/
theorem exists_origin (hw : w.Manned load) (hrestoring : w.Restoring load) (o : Outside σ)
    (events : List (Event ι)) (hnone : w.ground.registry.entries.find? site = none)
    (hfound : (w.run o events).ground.registry.entries.find? site = some e) :
    ∃ before event after first, events = before ++ event :: after ∧
      (w.run o before).ground.registry.entries.find? site = none ∧
      ((w.run o before).after o event).ground.registry.entries.find? site = some first ∧
      Origin load (w.run o before) site event first := by
  induction events generalizing w with
  | nil =>
    rw [show w.run o [] = w from rfl, hnone] at hfound
    cases hfound
  | cons event rest ih =>
    cases hnext : (w.after o event).ground.registry.entries.find? site with
    | some first =>
      exact ⟨[], event, rest, first, rfl, hnone, hnext, hw.origin hrestoring hnone hnext⟩
    | none =>
      obtain ⟨before, event', after, first, rfl, horigin⟩ :=
        ih (hw.after o event) (hrestoring.after o event) hnext hfound
      exact ⟨event :: before, event', after, first, rfl, horigin⟩

end Scene

end ChassisRegistry
