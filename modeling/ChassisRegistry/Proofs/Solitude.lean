import ChassisRegistry.Proofs.Commitments

/-! # A job by itself

    Where nobody else takes steps, the steps of a caller and its task come to
    what the registry does with the job in one go: a request is served, and a
    restoration takes in the blobs of the sink.

    Main statements: `Scene.comesTo_serve` and `Scene.comesTo_restore`. -/

namespace ChassisRegistry

/-- An outside that replies by a script and keeps the messages. -/
def Script.outside (script : Script) : Outside (List Message) := ⟨script.provisioner, script.sink⟩

/-- The entry of a site that was put last counts. -/
theorem Registry.put_put (g : Registry) (site : Site) (e e' : Entry) :
    (g.put site e).put site e' = g.put site e' := by
  refine congrArg Registry.mk (SiteMap.ext_find? fun other => ?_)
  by_cases heq : other = site
  · rw [heq, SiteMap.find?_insert_self, SiteMap.find?_insert_self]
  · simp only [Registry.put, SiteMap.find?_insert_of_ne heq]

namespace Scene

variable {ι σ : Type} [DecidableEq ι] {t : ι} {o : Outside σ}

/-! ## Section 1: Steps of a caller -/

/-- The steps of a job can come to this registry, this outside and this answer. -/
def ComesTo (o : Outside σ) (w : Scene ι σ) (t : ι) (g : Registry) (s : σ)
    (result : Except RegistryError Yielded) : Prop :=
  ∃ events : List (Event ι),
    (∀ event ∈ events, event = .step (.caller t) ∨ event = .step (.task t)) ∧
      (w.run o events).ground.registry = g ∧ (w.run o events).ground.outside = s ∧
        (w.run o events).answer? t = some result

variable {w : Scene ι σ} {g : Registry} {s : σ} {result : Except RegistryError Yielded}

theorem ComesTo.step (h : ComesTo o (w.after o (.step (.caller t))) t g s result) :
    ComesTo o w t g s result := by
  obtain ⟨events, hown, hend⟩ := h
  exact ⟨.step (.caller t) :: events, by simpa using hown, hend⟩

theorem ground_after_step (o : Outside σ) (w : Scene ι σ) (p : Party ι) :
    (w.after o (.step p)).ground =
      (w.ground.act o p (w.station (.task p.job)) (w.station p)).ground :=
  rfl

/-- A caller goes on as its step says, and may have handed work over. -/
theorem caller_after {errand : Errand} {ground : Ground ι σ} {station : Station}
    {spawned : Option Errand} (hcaller : w.station (.caller t) = .ahead errand)
    (hact : w.ground.act o (.caller t) (w.station (.task t)) (.ahead errand) =
      ⟨ground, station, spawned⟩) :
    (w.after o (.step (.caller t))).ground = ground ∧
      (w.after o (.step (.caller t))).station (.caller t) = station ∧
        ∀ work, spawned = some work →
          (w.after o (.step (.caller t))).station (.task t) = .ahead work := by
  refine ⟨?_, ?_, ?_⟩
  · rw [ground_after_step, Party.job, hcaller, hact]
  · rw [after, station_advance_caller.1, hcaller, hact]
  · rintro work rfl
    rw [after, station_advance_caller.2, hcaller, hact]

/-- A caller that knows its answer gives it. -/
theorem comesTo_answer (hcaller : w.station (.caller t) = .ahead (.answer result)) :
    ComesTo o w t w.ground.registry w.ground.outside result := by
  obtain ⟨hground, hdone, -⟩ := caller_after (o := o) hcaller rfl
  refine ⟨[.step (.caller t)], by simp, congrArg Ground.registry hground,
    congrArg Ground.outside hground, ?_⟩
  change (w.after o (.step (.caller t))).answer? t = some result
  rw [answer?, hdone]

/-! ## Section 2: Steps of a task -/

/-- What is shared and where the task is. -/
structure Left (w : Scene ι σ) (t : ι) (g : Registry) (s : σ) (station : Station) : Prop where
  registry : w.ground.registry = g
  outside  : w.ground.outside = s
  task     : w.station (.task t) = station

theorem left_after {station : Station} (htask : w.station (.task t) = station) :
    Left (w.after o (.step (.task t))) t (w.ground.act o (.task t) station station).ground.registry
      (w.ground.act o (.task t) station station).ground.outside
      (w.ground.act o (.task t) station station).station := by
  subst htask
  exact ⟨rfl, rfl, station_advance_task.2⟩

/-- A caller that waits takes over what its task comes to. -/
theorem Left.comesTo {n : Nat} (hcaller : w.station (.caller t) = .joining)
    (hleft : Left (w.alone o t n) t g s (.ahead (.answer result))) : ComesTo o w t g s result := by
  have hwaits : (w.alone o t n).station (.caller t) = .joining := (caller_alone n).trans hcaller
  have hrun : w.run o (List.replicate n (.step (.task t)) ++ [.step (.task t), .step (.caller t)]) =
      ((w.alone o t n).after o (.step (.task t))).after o (.step (.caller t)) := List.foldl_append
  refine ⟨List.replicate n (.step (.task t)) ++ [.step (.task t), .step (.caller t)], ?_, ?_⟩
  · intro event hmem
    simp only [List.mem_append, List.mem_replicate, List.mem_cons, List.not_mem_nil] at hmem
    tauto
  rw [hrun]
  generalize w.alone o t n = v at hleft hwaits
  have hdone := left_after (o := o) hleft.task
  have hjoining : (v.after o (.step (.task t))).station (.caller t) = .joining :=
    station_advance_task.1.trans hwaits
  generalize v.after o (.step (.task t)) = v' at hdone hjoining
  have hground : (v'.after o (.step (.caller t))).ground = v'.ground := by
    rw [ground_after_step, Party.job, hjoining, hdone.task]
    rfl
  have hanswer : (v'.after o (.step (.caller t))).station (.caller t) = .done result := by
    rw [after, station_advance_caller.1, hjoining, hdone.task]
    rfl
  refine ⟨?_, ?_, ?_⟩
  · rw [hground, hdone.registry]
    exact hleft.registry
  · rw [hground, hdone.outside]
    exact hleft.outside
  · rw [answer?, hanswer]

/-! ## Section 3: Restorations -/

/-- **A restoration by itself**: its caller comes to what the registry does in one go. -/
theorem comesTo_restore (hcaller : w.station (.caller t) = .ahead Job.restore.errand) :
    ComesTo o w t (w.ground.registry.restore o.sink w.ground.outside).2 w.ground.outside
      ((w.ground.registry.restore o.sink w.ground.outside).1.map .restored) := by
  refine ComesTo.step ?_
  cases hload : o.sink.load w.ground.outside with
  | error x =>
    have hact : w.ground.act o (.caller t) (w.station (.task t)) (.ahead Job.restore.errand) =
        ⟨w.ground, .ahead (.answer (.error (.persistence "*" x.message))), none⟩ := by
      simp only [Job.errand, Ground.act, hload]
    obtain ⟨hground, hrefused, -⟩ := caller_after hcaller hact
    have hanswer := comesTo_answer (o := o) hrefused
    rw [hground] at hanswer
    simpa only [Registry.restore, hload, Except.map] using hanswer
  | ok blobs =>
    have hact : w.ground.act o (.caller t) (w.station (.task t)) (.ahead Job.restore.errand) =
        ⟨{ w.ground with loads := w.ground.loads ++ [(t, blobs)] }, .ahead (.takeIn blobs),
          none⟩ := by
      simp only [Job.errand, Ground.act, hload, Party.job]
    obtain ⟨hground, hloaded, -⟩ := caller_after hcaller hact
    refine ComesTo.step ?_
    obtain ⟨hground', htaken, -⟩ := caller_after (o := o) hloaded rfl
    have hanswer := comesTo_answer (o := o) htaken
    rw [hground', hground] at hanswer
    simpa only [Registry.restore, hload, Except.map] using hanswer

/-! ## Section 4: Requests -/

section

variable {w : Scene ι (List Message)} {site : Site} {e : Entry}

omit [DecidableEq ι] in
/-- A script takes a message. -/
theorem deliver_script (script : Script) (h : Ground ι (List Message)) (site : Site) (m : Message) :
    (h.deliver script.outside t site m).1 = script h.outside m ∧
      (h.deliver script.outside t site m).2.registry = h.registry ∧
      (h.deliver script.outside t site m).2.outside = h.outside ++ [m] := by
  cases m <;> exact ⟨rfl, rfl, rfl⟩

/-- A task that has the lock of its site goes through its turn. -/
theorem exists_run_turn (script : Script) (turn : Turn)
    (htask : w.station (.task t) = .inside site turn)
    (hfound : w.ground.registry.entries.find? site = some e) :
    ∃ n, Left (w.alone script.outside t n) t
      (w.ground.registry.put site (turn.run script e w.ground.outside).2.1)
      (turn.run script e w.ground.outside).2.2
      (.ahead (.answer ((turn.run script e w.ground.outside).1.map .visit))) := by
  induction turn generalizing w e with
  | access write next ih =>
    have hstep := left_after (o := script.outside) htask
    simp only [Ground.act, hfound] at hstep
    obtain ⟨n, hleft⟩ := ih e hstep.task (e := write e)
      (by rw [hstep.registry]; exact SiteMap.find?_insert_self _ _ _)
    rw [hstep.registry, hstep.outside, Registry.put_put] at hleft
    exact ⟨n + 1, hleft⟩
  | send m next ih =>
    have hsent := left_after (o := script.outside) htask
    simp only [Ground.act] at hsent
    have hstep := left_after (o := script.outside) hsent.task
    obtain ⟨hreply, hregistry, houtside⟩ := deliver_script (t := t) script
      (w.after script.outside (.step (.task t))).ground site m
    simp only [Ground.act, Party.job, hreply, hregistry, houtside, hsent.registry,
      hsent.outside] at hstep
    obtain ⟨n, hleft⟩ := ih _ hstep.task (e := e) (by rw [hstep.registry]; exact hfound)
    rw [hstep.registry, hstep.outside] at hleft
    exact ⟨n + 2, hleft⟩
  | leave result =>
    have hstep := left_after (o := script.outside) htask
    simp only [Ground.act] at hstep
    refine ⟨1, ?_⟩
    simp only [Turn.run, Registry.put_find? hfound]
    exact hstep

/-- The task of a change takes the lock of its site, and goes through its turn. -/
theorem exists_left_change (script : Script) {what : Change} (hfree : w.ground.holder site = none)
    (hqueue : w.ground.queue site = [])
    (htask : w.station (.task t) = .ahead (Request.change site what).work)
    (hfound : w.ground.registry.entries.find? site = some e) :
    ∃ n, Left (w.alone script.outside t n) t
      (w.ground.registry.put site ((Turn.change what).run script e w.ground.outside).2.1)
      ((Turn.change what).run script e w.ground.outside).2.2
      (.ahead (.answer (((Turn.change what).run script e w.ground.outside).1.map .visit))) := by
  have hqueued := left_after (o := script.outside) htask
  simp only [Request.work, Ground.act] at hqueued
  have hfirst : (w.after script.outside (.step (.task t))).ground.holder site = none ∧
      ((w.after script.outside (.step (.task t))).ground.queue site).head? = some (.task t) := by
    rw [ground_after_step, Party.job, htask]
    simp [Request.work, Ground.act, hfree, hqueue]
  have hinside := left_after (o := script.outside) hqueued.task
  simp only [Ground.act, if_pos hfirst, hqueued.registry, hqueued.outside] at hinside
  obtain ⟨n, hleft⟩ := exists_run_turn script (Turn.change what) hinside.task (e := e)
    (by rw [hinside.registry]; exact hfound)
  rw [hinside.registry, hinside.outside] at hleft
  exact ⟨n + 2, hleft⟩

/-- The task of a creation asks for its login, and goes on with the reply. -/
theorem exists_left_create (script : Script) {endpoint : Endpoint} {rack shelf : UInt32}
    (htask : w.station (.task t) = .ahead (Request.create site endpoint rack shelf).work) :
    ∃ n, Left (w.alone script.outside t n) t
      (w.ground.registry.finish (.create site endpoint rack shelf) script.provisioner
        w.ground.outside).2.1
      (w.ground.registry.finish (.create site endpoint rack shelf) script.provisioner
        w.ground.outside).2.2
      (.ahead (.answer ((w.ground.registry.finish (.create site endpoint rack shelf)
        script.provisioner w.ground.outside).1.map fun a => .visit (.answer a)))) := by
  have hasked := left_after (o := script.outside) htask
  simp only [Request.work, Ground.act] at hasked
  have hreplied := left_after (o := script.outside) hasked.task
  simp only [Ground.act, hasked.registry, hasked.outside] at hreplied
  have hsettled := left_after (o := script.outside) hreplied.task
  simp only [Ground.act, hreplied.registry, hreplied.outside] at hsettled
  exact ⟨3, hsettled⟩

/-- **A request by itself**: its caller and its task come to what the registry does in one go. -/
theorem comesTo_serve (script : Script) {r : Request}
    (hcaller : w.station (.caller t) = .ahead (Job.request r).errand)
    (houtside : w.ground.outside = [])
    (hfree : ∀ site, w.ground.holder site = none ∧ w.ground.queue site = []) :
    ComesTo script.outside w t (w.ground.registry.serve r script.provisioner []).2.1
      (w.ground.registry.serve r script.provisioner []).2.2
      ((w.ground.registry.serve r script.provisioner []).1.map fun a => .visit (.answer a)) := by
  refine ComesTo.step ?_
  obtain ⟨hground, hlooked, -⟩ := caller_after (o := script.outside) hcaller rfl
  generalize w.after script.outside (.step (.caller t)) = v at hground hlooked ⊢
  cases hscreen : w.ground.registry.screen r with
  | error x =>
    simp only [Request.screened, hscreen] at hlooked
    have hanswer := comesTo_answer (o := script.outside) hlooked
    simp only [hground, houtside] at hanswer
    simpa only [Registry.serve, hscreen, Except.map] using hanswer
  | ok answered =>
    cases answered with
    | some a =>
      simp only [Request.screened, hscreen] at hlooked
      have hanswer := comesTo_answer (o := script.outside) hlooked
      simp only [hground, houtside] at hanswer
      simpa only [Registry.serve, hscreen, Except.map] using hanswer
    | none =>
      simp only [Request.screened, hscreen] at hlooked
      refine ComesTo.step ?_
      obtain ⟨hground', hjoining, htask⟩ := caller_after (o := script.outside) hlooked rfl
      generalize v.after script.outside (.step (.caller t)) = v' at hground' hjoining htask ⊢
      rw [hground] at hground'
      replace htask := htask _ rfl
      cases r with
      | create site endpoint rack shelf =>
        obtain ⟨n, hleft⟩ := exists_left_create script htask
        rw [hground', houtside] at hleft
        simpa only [Registry.serve, hscreen] using hleft.comesTo hjoining
      | change site what =>
        obtain ⟨x, hrefused⟩ | ⟨-, e, hfound⟩ := w.ground.registry.screen_change site what
        · cases hscreen.symm.trans hrefused
        obtain ⟨n, hleft⟩ := exists_left_change script (hground' ▸ (hfree site).1)
          (hground' ▸ (hfree site).2) htask (hground' ▸ hfound)
        rw [hground', houtside] at hleft
        have hadmitted : (Visit.change site what).screen w.ground.registry = .ok () := by
          simp only [Visit.screen, hscreen, Except.map]
        have halone : (Visit.change site what).alone script w.ground.registry =
            (((Turn.change what).run script e []).1,
              w.ground.registry.put site ((Turn.change what).run script e []).2.1,
              ((Turn.change what).run script e []).2.2) :=
          Visit.alone_of_admitted hadmitted hfound rfl
        simp only [Visit.alone, Prod.mk.injEq] at halone
        obtain ⟨hresult, hregistry, hsent⟩ := halone
        rw [← hresult, ← hregistry, ← hsent] at hleft
        have hcomes := hleft.comesTo hjoining
        generalize w.ground.registry.serve (.change site what) script.provisioner [] = served
          at hcomes ⊢
        cases hserved : served.1 <;> simpa only [hserved, Except.map] using hcomes

end

end Scene

end ChassisRegistry
