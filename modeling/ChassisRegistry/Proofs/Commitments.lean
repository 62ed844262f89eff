import ChassisRegistry.Proofs.Callers

/-! # Accepted calls

    A call that the provisioning system has accepted is carried out. The task
    that made the call has the lock of its site and needs nobody any more: its
    own steps lead to the end, and no step of anybody else is in the way. A
    creation puts its site in, unless it is there.

    Main statement: `Scene.exists_committed`. -/

namespace ChassisRegistry

variable {ι σ : Type} [DecidableEq ι]

/-! ## Section 1: Tasks of changes -/

/-- The task of a change, once its call has been accepted: it is to carry the change out without
    further ado, or it has done so. The change was planned on the record `r`. -/
inductive Change.Kept (site : Site) (what : Change) (t : ι) (call : Call) (h : Ground ι σ) :
    Station → Prop where
  | due {r : Record} {plan : Plan} {turn : Turn} {e : Entry} (hplan : r.plan what = .ok plan)
      (hcall : plan.call? = some call) (hfound : h.registry.entries.find? site = some e)
      (hends : turn.Ends (r.Carried what) e) : Kept site what t call h (.inside site turn)
  | carried {r : Record} {plan : Plan} (a : Answer) (hplan : r.plan what = .ok plan)
      (hcall : plan.call? = some call) (hreturned : (t, site, ⟨r.after what, true⟩) ∈ h.returned) :
      Kept site what t call h (.ahead (.answer (.ok (.visit (.answer a)))))
  | answered {r : Record} {plan : Plan} (a : Answer) (hplan : r.plan what = .ok plan)
      (hcall : plan.call? = some call) (hreturned : (t, site, ⟨r.after what, true⟩) ∈ h.returned) :
      Kept site what t call h (.done (.ok (.visit (.answer a))))

namespace Change.Kept

variable {site : Site} {what : Change} {t : ι} {call : Call} {h h' : Ground ι σ}
  {station : Station} {o : Outside σ}

/-- The task goes on. -/
theorem act (hkept : Change.Kept site what t call h station) (task : Station) :
    Change.Kept site what t call (h.act o (.task t) task station).ground
      (h.act o (.task t) task station).station := by
  cases hkept with
  | @due r plan turn e hplan hcall hfound hends =>
    cases turn with
    | access write next =>
      simp only [Ground.act, hfound]
      exact .due hplan hcall (SiteMap.find?_insert_self _ _ _) hends
    | send m next => exact hends.elim
    | leave result =>
      obtain ⟨⟨a, rfl⟩, rfl⟩ := hends
      refine .carried a hplan hcall ?_
      simp [Ground.act, hfound, Party.job]
  | carried a hplan hcall hreturned => exact .answered a hplan hcall hreturned
  | answered a hplan hcall hreturned => exact .answered a hplan hcall hreturned

omit [DecidableEq ι] in
/-- The task is not concerned by what others do. -/
theorem of_spares (hkept : Change.Kept site what t call h station) {p : Party ι}
    (hspares : h.Spares p h') (hne : Party.task t ≠ p)
    (hheld : ∀ turn, station = .inside site turn → h.holder site = some (.task t))
    (hreturned' : ∀ x, x ∈ h.returned → x ∈ h'.returned) :
    Change.Kept site what t call h' station := by
  cases hkept with
  | due hplan hcall hfound hends =>
    exact .due hplan hcall (hspares.kept (hheld _ rfl) hne hfound) hends
  | carried a hplan hcall hreturned => exact .carried a hplan hcall (hreturned' _ hreturned)
  | answered a hplan hcall hreturned => exact .answered a hplan hcall (hreturned' _ hreturned)

end Change.Kept

/-! ## Section 2: Every run -/

namespace Scene

variable {load : ι → Job} {w : Scene ι σ} {o : Outside σ} {t : ι} {site : Site} {what : Change}
  {call : Call}

/-- What has been seen is not forgotten. -/
theorem returned_after (event : Event ι) {x : ι × Site × Entry} (hmem : x ∈ w.ground.returned) :
    x ∈ (w.after o event).ground.returned := by
  cases event with
  | step p =>
    change x ∈ (w.ground.act o p _ _).ground.returned
    rw [Ground.returned_act]
    exact List.mem_append_left _ hmem
  | giveUp t => simpa [after, giveUp] using hmem

/-- A reply has been there before, or it has just come. -/
theorem mem_replies_after {event : Event ι} {reply : Except ProvisionerError Unit}
    (hmem : (t, call, reply) ∈ (w.after o event).ground.replies) :
    (t, call, reply) ∈ w.ground.replies ∨ ∃ p, event = .step p ∧ p.job = t ∧
      (w.station p).reply? o w.ground = some (call, reply) := by
  cases event with
  | giveUp u => exact Or.inl (by simpa [after, giveUp] using hmem)
  | step p =>
    change _ ∈ (w.ground.act o p _ _).ground.replies at hmem
    rw [Ground.replies_act, List.mem_append] at hmem
    refine hmem.imp_right fun hnew => ⟨p, rfl, ?_⟩
    cases hreply : (w.station p).reply? o w.ground with
    | none => simp [hreply] at hnew
    | some r =>
      rw [hreply] at hnew
      simp only [Option.toList_some, List.map_cons, List.map_nil, List.mem_singleton,
        Prod.mk.injEq] at hnew
      obtain ⟨hjob, rfl, rfl⟩ := hnew
      exact ⟨hjob.symm, rfl⟩

/-- Every change whose call was accepted is carried out, or about to be. -/
def Keeping (load : ι → Job) (w : Scene ι σ) : Prop :=
  ∀ ⦃t site what call⦄, load t = .request (.change site what) →
    (t, call, .ok ()) ∈ w.ground.replies →
    Change.Kept site what t call w.ground (w.station (.task t))

/-- The call of a change is accepted. -/
theorem Manned.kept_of_reply (hw : w.Manned load) (hload : load t = .request (.change site what))
    (hreply : (w.station (.task t)).reply? o w.ground = some (call, .ok ())) :
    Change.Kept site what t call (w.after o (.step (.task t))).ground
      ((w.after o (.step (.task t))).station (.task t)) := by
  have hserves := hw.sound.serves (.task t)
  rw [Party.job, hload] at hserves
  rw [Scene.after, station_advance_task.2]
  change Change.Kept site what t call (w.ground.act o (.task t) (w.station (.task t))
    (w.station (.task t))).ground _
  generalize w.station (.task t) = station at hserves hreply ⊢
  cases station with
  | asking call' rest =>
    -- Without a lock only creations make calls.
    obtain ⟨_, _, _, _, hcreate, _⟩ := hserves
    cases hcreate
  | waiting site' m next =>
    obtain ⟨hsite, _, e, hfound, hsends, _⟩ := hserves
    cases hsite
    cases m with
    | blob bytes => cases hreply
    | call call' =>
      simp only [Station.reply?, Option.some.injEq, Prod.mk.injEq] at hreply
      obtain ⟨rfl, hok⟩ := hreply
      obtain ⟨plan, hplan, hcall, hends⟩ := hsends what rfl
      simp only [Ground.act, Ground.deliver, hok]
      exact .due hplan hcall hfound hends
  | _ => cases hreply

theorem Keeping.after (hkeeping : w.Keeping load) (hw : w.Manned load) (o : Outside σ)
    (event : Event ι) : (w.after o event).Keeping load := by
  intro t site what call hload hmem
  have hfront := hw.front hload
  rcases mem_replies_after hmem with hmem | ⟨p, rfl, hjob, hreply⟩
  · have hkept := hkeeping hload hmem
    have hothers : event.party ≠ .task t → (w.after o event).station (.task t) =
        w.station (.task t) → Change.Kept site what t call (w.after o event).ground
          ((w.after o event).station (.task t)) := by
      intro hne hsame
      rw [hsame]
      exact hkept.of_spares (hw.sound.spares o event) hne.symm (hw.sound.serves (.task t)).holds
        fun x => returned_after event
    by_cases hjob : event.party.job = t
    · rcases Event.of_job hjob with rfl | rfl | rfl
      · refine hothers (by simp [Event.party]) ?_
        rw [Scene.after, station_advance_caller.2]
        cases hspawned : (w.ground.act o (.caller t) (w.station (.task t))
            (w.station (.caller t))).spawned with
        | none => rfl
        | some work =>
          rw [(hfront.spawned hspawned).1] at hkept
          cases hkept
      · rw [Scene.after, station_advance_task.2]
        exact hkept.act _
      · exact hothers (by simp [Event.party]) station_giveUp.2
    · refine hothers ?_ (station_after_of_ne (q := .task t) hjob)
      rintro hparty
      exact hjob (congrArg Party.job hparty)
  · cases p with
    | caller u =>
      change u = t at hjob
      subst hjob
      rw [hfront.reply?_eq_none] at hreply
      cases hreply
    | task u =>
      change u = t at hjob
      subst hjob
      exact hw.kept_of_reply hload hreply

omit [DecidableEq ι] in
theorem keeping_start (load : ι → Job) (g : Registry) (s : σ) : (start load g s).Keeping load := by
  intro t site what call _ hmem
  cases hmem

theorem Keeping.run (hkeeping : w.Keeping load) (hw : w.Manned load) (o : Outside σ)
    (events : List (Event ι)) : (w.run o events).Keeping load := by
  induction events generalizing w with
  | nil => exact hkeeping
  | cons event rest ih => exact ih (hkeeping.after hw o event) (hw.after o event)

/-! ## Section 3: The task alone -/

/-- The effect of a request whose call was accepted is there, and its task has got the answer. -/
def Committed (w : Scene ι σ) (t : ι) (call : Call) : Request → Prop
  | .create site endpoint _ _ => call = .login endpoint ∧
      (∃ e, w.ground.registry.entries.find? site = some e) ∧
      w.station (.task t) = .done (.ok (.visit (.answer (.site site))))
  | .change site what => ∃ (r : Record) (plan : Plan) (a : Answer),
      r.plan what = .ok plan ∧ plan.call? = some call ∧
      (t, site, ⟨r.after what, true⟩) ∈ w.ground.returned ∧
      w.station (.task t) = .done (.ok (.visit (.answer a)))

/-- As many steps of a task alone. -/
def alone (o : Outside σ) (t : ι) (n : Nat) (w : Scene ι σ) : Scene ι σ :=
  w.run o (List.replicate n (.step (.task t)))

theorem alone_succ (n : Nat) :
    w.alone o t (n + 1) = (w.after o (.step (.task t))).alone o t n := by
  rw [alone, List.replicate_succ]
  rfl

theorem alone_one : w.alone o t 1 = w.after o (.step (.task t)) := rfl

/-- The caller stays where it is. -/
theorem caller_alone (n : Nat) : (w.alone o t n).station (.caller t) = w.station (.caller t) := by
  refine caller_run_of_not_mem fun event hmem => ?_
  rw [List.eq_of_mem_replicate hmem]
  simp [Event.party]

/-- A turn that sends nothing more is taken to its end. -/
theorem exists_alone_of_ends {turn : Turn} {e : Entry} {q : Visit.Result → Entry → Prop}
    (hstation : w.station (.task t) = .inside site turn)
    (hfound : w.ground.registry.entries.find? site = some e) (hends : turn.Ends q e) :
    ∃ n result e', q result e' ∧ (t, site, e') ∈ (w.alone o t n).ground.returned ∧
      (w.alone o t n).station (.task t) = .done (result.map .visit) := by
  induction turn generalizing w e with
  | access write next ih =>
    have hground : (w.after o (.step (.task t))).ground =
        { w.ground with registry := w.ground.registry.put site (write e) } := by
      change (w.ground.act o (.task t) _ (w.station (.task t))).ground = _
      simp only [hstation, Ground.act, hfound]
    have hinside : (w.after o (.step (.task t))).station (.task t) = .inside site (next e) := by
      rw [after, station_advance_task.2, hstation]
      simp only [Ground.act, hfound]
    have hfound' : (w.after o (.step (.task t))).ground.registry.entries.find? site =
        some (write e) := by
      rw [hground]
      exact SiteMap.find?_insert_self _ _ _
    obtain ⟨n, hn⟩ := ih e hinside hfound' hends
    exact ⟨n + 1, by simpa only [alone_succ] using hn⟩
  | send m next _ => exact hends.elim
  | leave result =>
    have hstation' : (w.after o (.step (.task t))).station (.task t) =
        .ahead (.answer (result.map .visit)) := by
      rw [after, station_advance_task.2, hstation]
      rfl
    have hreturned : (t, site, e) ∈ (w.after o (.step (.task t))).ground.returned := by
      change _ ∈ (w.ground.act o (.task t) _ (w.station (.task t))).ground.returned
      rw [Ground.returned_act, hstation]
      simp [Station.returned?, hfound, Party.job]
    refine ⟨2, result, e, hends, ?_, ?_⟩
    · rw [alone_succ, alone_one]
      exact returned_after _ hreturned
    · rw [alone_succ, alone_one, after, station_advance_task.2, hstation']
      rfl

/-- A creation whose call was answered is settled by two more steps at most. -/
theorem Manned.exists_alone_of_reply {endpoint : Endpoint} {rack shelf : UInt32}
    (hw : w.Manned load) (hload : load t = .request (.create site endpoint rack shelf))
    (hreply : w.ground.repliesTo t ≠ []) :
    ∃ n x, (w.alone o t n).station (.task t) = .done x := by
  have hfounder := hw.founder hload
  generalize hstation : w.station (.task t) = station at hfounder
  generalize w.ground.repliesTo t = replies at hfounder hreply
  cases hfounder with
  | replied reply =>
    refine ⟨2, founded site endpoint reply, ?_⟩
    have hresult := (Founder.resume_founded w.ground.registry site endpoint rack shelf reply).1
    rw [alone_succ, alone_one, Scene.after, station_advance_task.2, Scene.after,
      station_advance_task.2, hstation]
    simp only [Ground.act, hresult]
  | settled reply =>
    refine ⟨1, founded site endpoint reply, ?_⟩
    rw [alone_one, Scene.after, station_advance_task.2, hstation]
    rfl
  | done reply => exact ⟨0, _, hstation⟩
  | _ => exact absurd rfl hreply

theorem repliesTo_run (events : List (Event ι)) {x : Call × Except ProvisionerError Unit}
    (hmem : x ∈ w.ground.repliesTo t) : x ∈ (w.run o events).ground.repliesTo t := by
  induction events generalizing w with
  | nil => exact hmem
  | cons event rest ih =>
    refine ih ?_
    rw [repliesTo_after]
    exact List.mem_append_left _ hmem

/-- A creation whose call was accepted puts its site in, unless that is there, by steps of its task
    alone. -/
theorem Manned.exists_alone_of_accepted {endpoint : Endpoint} {rack shelf : UInt32}
    (hw : w.Manned load) (hload : load t = .request (.create site endpoint rack shelf))
    (hmem : (t, call, .ok ()) ∈ w.ground.replies) : call = .login endpoint ∧
      ∃ n, (∃ e, (w.alone o t n).ground.registry.entries.find? site = some e) ∧
        (w.alone o t n).station (.task t) = .done (.ok (.visit (.answer (.site site)))) := by
  have hreply := Ground.mem_repliesTo.mpr hmem
  obtain ⟨n, x, hdone⟩ := hw.exists_alone_of_reply (o := o) hload (List.ne_nil_of_mem hreply)
  have hreply' : (call, .ok ()) ∈ (w.alone o t n).ground.repliesTo t := repliesTo_run _ hreply
  have hmanned : (w.alone o t n).Manned load := hw.run o _
  have hfounder := hmanned.founder hload
  rw [hdone] at hfounder
  generalize (w.alone o t n).ground.repliesTo t = replies at hfounder hreply'
  cases hfounder with
  | done reply hthere =>
    simp only [List.mem_singleton, Prod.mk.injEq] at hreply'
    obtain ⟨rfl, rfl⟩ := hreply'
    exact ⟨rfl, n, hthere rfl, hdone⟩

/-- **Accepted calls are carried out**: once a call was accepted, the task that made it needs only
    its own steps to bring the effect about. -/
theorem exists_committed (hw : w.Manned load) (hkeeping : w.Keeping load) {r : Request}
    (hload : load t = .request r) (hmem : (t, call, .ok ()) ∈ w.ground.replies) :
    ∃ n, (w.alone o t n).Committed t call r := by
  cases r with
  | create site endpoint rack shelf =>
    obtain ⟨hcall, n, hthere, hdone⟩ := hw.exists_alone_of_accepted (o := o) hload hmem
    exact ⟨n, hcall, hthere, hdone⟩
  | change site what =>
    have hkept := hkeeping hload hmem
    generalize hstation : w.station (.task t) = station at hkept
    cases hkept with
    | @due old plan turn e hplan hcall hfound hends =>
      obtain ⟨n, result, e', ⟨⟨a, rfl⟩, rfl⟩, hreturned, hdone⟩ :=
        exists_alone_of_ends (o := o) hstation hfound hends
      exact ⟨n, old, plan, a, hplan, hcall, hreturned, hdone⟩
    | @carried old plan a hplan hcall hreturned =>
      refine ⟨1, old, plan, a, hplan, hcall, returned_after (.step (.task t)) hreturned, ?_⟩
      rw [alone_one, after, station_advance_task.2, hstation]
      rfl
    | @answered old plan a hplan hcall hreturned =>
      exact ⟨0, old, plan, a, hplan, hcall, hreturned, hstation⟩

end Scene

end ChassisRegistry
