import ChassisRegistry.Proofs.Commitments

/-! # Giving up

    A run in which callers of requests give up is compared with the same
    schedule in which everybody waits. Whoever gave up after the work was handed
    over waits there to the end; whoever gave up before does not come at all.
    Both runs leave the same registry, the same calls with the same replies, and
    the same answers to all who waited.

    So a call that was accepted is never left alone: the task that made it goes
    on to carry it out, whatever happens to the caller, and needs nobody else
    for that.

    Main statement: `Scene.indifferent`. -/

namespace ChassisRegistry

variable {ι σ : Type} [DecidableEq ι]

/-! ## Section 1: Waiting instead of giving up -/

/-- Is there such a party? -/
def Station.present : Station → Bool
  | absent => false
  | _ => true

theorem Station.present_iff {station : Station} : station.present = true ↔ station ≠ .absent := by
  cases station <;> simp [present]

namespace Scene

/-- A caller gives up before it has handed its work over, as the scene at the end shows. -/
def Early (events : List (Event ι)) (last : Scene ι σ) (t : ι) : Prop :=
  Event.giveUp t ∈ events ∧ (last.station (.task t)).present = false

instance (events : List (Event ι)) (last : Scene ι σ) : DecidablePred (Early events last) :=
  fun _ => inferInstanceAs (Decidable (_ ∧ _))

/-- What comes also where nobody gives up and the callers that gave up early stay away. -/
def keeps (events : List (Event ι)) (last : Scene ι σ) : Event ι → Bool
  | .giveUp _ => false
  | .step (.caller t) => !decide (Early events last t)
  | .step (.task _) => true

/-- The schedule in which nobody gives up and the callers that gave up early stay away. -/
def patient (events : List (Event ι)) (last : Scene ι σ) : List (Event ι) :=
  events.filter (keeps events last)

variable {load : ι → Job} {w w' last : Scene ι σ} {o : Outside σ} {t : ι} {all : List (Event ι)}

/-- A task that is there stays. -/
theorem task_ne_absent_after (htask : w.station (.task t) ≠ .absent) (event : Event ι) :
    (w.after o event).station (.task t) ≠ .absent := by
  by_cases hjob : event.party.job = t
  · rcases Event.of_job hjob with rfl | rfl | rfl
    · rw [after, station_advance_caller.2]
      split
      · exact htask
      · simp
    · rw [after, station_advance_task.2]
      exact Ground.station_act_ne_absent htask
    · rw [after, station_giveUp.2]
      exact htask
  · rw [station_after_of_ne (q := .task t) hjob]
    exact htask

theorem task_ne_absent_run (htask : w.station (.task t) ≠ .absent) (events : List (Event ι)) :
    (w.run o events).station (.task t) ≠ .absent := by
  induction events generalizing w with
  | nil => exact htask
  | cons event rest ih => exact ih (task_ne_absent_after htask event)

/-- A caller that is over does not hand its work over any more. -/
theorem over_after (hover : w.station (.caller t) = .gone ∨ ∃ x, w.station (.caller t) = .done x)
    (habsent : w.station (.task t) = .absent) (event : Event ι) :
    ((w.after o event).station (.caller t) = .gone ∨
      ∃ x, (w.after o event).station (.caller t) = .done x) ∧
      (w.after o event).station (.task t) = .absent := by
  by_cases hjob : event.party.job = t
  · rcases Event.of_job hjob with rfl | rfl | rfl
    · rw [after, station_advance_caller.1, station_advance_caller.2]
      rcases hover with hgone | ⟨x, hdone⟩
      · rw [hgone]
        exact ⟨Or.inl rfl, habsent⟩
      · rw [hdone]
        exact ⟨Or.inr ⟨x, rfl⟩, habsent⟩
    · rw [after, station_advance_task.1, station_advance_task.2, habsent]
      exact ⟨hover, rfl⟩
    · rw [after, station_giveUp.1, station_giveUp.2]
      rcases hover with hgone | ⟨x, hdone⟩
      · rw [hgone]
        exact ⟨Or.inl rfl, habsent⟩
      · rw [hdone]
        exact ⟨Or.inr ⟨x, rfl⟩, habsent⟩
  · rw [station_after_of_ne (q := .caller t) hjob, station_after_of_ne (q := .task t) hjob]
    exact ⟨hover, habsent⟩

theorem over_run (hover : w.station (.caller t) = .gone ∨ ∃ x, w.station (.caller t) = .done x)
    (habsent : w.station (.task t) = .absent) (events : List (Event ι)) :
    (w.run o events).station (.task t) = .absent := by
  induction events generalizing w with
  | nil => exact habsent
  | cons event rest ih =>
    obtain ⟨hover, habsent⟩ := over_after (o := o) hover habsent event
    exact ih hover habsent

/-! ## Section 2: Two runs -/

/-- A caller that gives up in the first scene and waits in the second. -/
def Outlasted (caller task caller' : Station) : Prop :=
  caller = .gone ∧ task ≠ .absent ∧ (caller' = .joining ∨ ∃ result, caller' = .done result)

/-- Two scenes on the way differ only in callers that give up: in those that do so early, and in
    others that are outlasted. -/
structure Alike (all : List (Event ι)) (last w w' : Scene ι σ) : Prop where
  ground  : w'.ground = w.ground
  tasks   : ∀ t, w'.station (.task t) = w.station (.task t)
  callers : ∀ t, ¬ Early all last t → w'.station (.caller t) = w.station (.caller t) ∨
    Event.giveUp t ∈ all ∧
      Outlasted (w.station (.caller t)) (w.station (.task t)) (w'.station (.caller t))

namespace Alike

/-- A party that is at the same station in both scenes takes the same step in both. -/
theorem step (h : Alike all last w w') {p : Party ι} (hsame : w'.station p = w.station p) :
    Alike all last (w.after o (.step p)) (w'.after o (.step p)) := by
  have hact : w'.ground.act o p (w'.station (.task p.job)) (w'.station p) =
      w.ground.act o p (w.station (.task p.job)) (w.station p) := by
    rw [h.ground, h.tasks, hsame]
  have hstation : ∀ q, w'.station q = w.station q →
      (w'.after o (.step p)).station q = (w.after o (.step p)).station q := by
    intro q hq
    simp only [after, advance, hact]
    cases (w.ground.act o p (w.station (.task p.job)) (w.station p)).spawned with
    | none => simp only [Function.update_apply, hq]
    | some work => simp only [Function.update_apply, hq]
  refine ⟨congrArg Act.ground hact, fun t => hstation _ (h.tasks t), fun t hearly => ?_⟩
  rcases h.callers t hearly with hcaller | ⟨hquits, hgone, htask, hwaits⟩
  · exact Or.inl (hstation _ hcaller)
  · -- Somebody who is outlasted is not at the same station, so it is not the one who steps.
    have hne : p ≠ .caller t := by
      rintro rfl
      rw [hsame, hgone] at hwaits
      rcases hwaits with hwaits | ⟨_, hwaits⟩ <;> cases hwaits
    right
    have hstays : ∀ w : Scene ι σ,
        (w.after o (.step p)).station (.caller t) = w.station (.caller t) :=
      fun w => caller_after_of_ne hne
    rw [hstays, hstays]
    exact ⟨hquits, hgone, task_ne_absent_after htask _, hwaits⟩

end Alike

/-- Nothing has changed but where a caller is. -/
def Moved (t : ι) (w v : Scene ι σ) : Prop :=
  v.ground = w.ground ∧ ∀ q, q ≠ .caller t → v.station q = w.station q

omit [DecidableEq ι] in
theorem Moved.task (hmoved : Moved t w w') (u : ι) :
    w'.station (.task u) = w.station (.task u) := hmoved.2 _ (by simp)

theorem moved_giveUp {r : Request}
    (hfront : r.Front (w.station (.caller t)) (w.station (.task t))) :
    Moved t w (w.after o (.giveUp t)) :=
  ⟨hfront.abandon.1, fun _ hne => Function.update_of_ne hne ..⟩

/-- A caller of a request that hands nothing over moves itself only. -/
theorem moved_step {r : Request} (hfront : r.Front (w.station (.caller t)) (w.station (.task t)))
    (hspawned : (w.ground.act o (.caller t) (w.station (.task t))
      (w.station (.caller t))).spawned = none) :
    Moved t w (w.after o (.step (.caller t))) := by
  refine ⟨hfront.ground_caller, fun q hne => ?_⟩
  simp only [after, advance, Party.job, hspawned, Function.update_of_ne hne]

/-- Moving a caller in both scenes leaves them alike, if the caller still is. -/
theorem Alike.moved {v v' : Scene ι σ} (h : Alike all last w w')
    (hw : Moved t w v) (hw' : Moved t w' v')
    (hcaller : ¬ Early all last t → v'.station (.caller t) = v.station (.caller t) ∨
      Event.giveUp t ∈ all ∧
        Outlasted (v.station (.caller t)) (v.station (.task t)) (v'.station (.caller t))) :
    Alike all last v v' where
  ground := by rw [hw'.1, hw.1, h.ground]
  tasks u := by rw [hw'.task, hw.task, h.tasks]
  callers u hearly := by
    by_cases heq : u = t
    · subst heq
      exact hcaller hearly
    · have hne : Party.caller u ≠ .caller t := by simpa using heq
      rw [hw'.2 _ hne, hw.2 _ hne, hw.task]
      exact h.callers u hearly

/-- A caller that is joining goes on joining until it has been answered. -/
theorem act_waits (o : Outside σ) (h : Ground ι σ) (t : ι) (task : Station) {station : Station}
    (hwaits : station = .joining ∨ ∃ result, station = .done result) :
    (h.act o (.caller t) task station).spawned = none ∧
      ((h.act o (.caller t) task station).station = .joining ∨
        ∃ result, (h.act o (.caller t) task station).station = .done result) := by
  rcases hwaits with rfl | ⟨result, rfl⟩
  · cases task with
    | done result => exact ⟨rfl, Or.inr ⟨result, rfl⟩⟩
    | _ => exact ⟨rfl, Or.inl rfl⟩
  · exact ⟨rfl, Or.inr ⟨result, rfl⟩⟩

/-- A caller that is outlasted goes on waiting in the second scene. -/
theorem Alike.outlast {r : Request} (h : Alike all last w w')
    (hquits : Event.giveUp t ∈ all) (hfront : r.Front (w.station (.caller t)) (w.station (.task t)))
    (hfront' : r.Front (w'.station (.caller t)) (w'.station (.task t)))
    (hout : Outlasted (w.station (.caller t)) (w.station (.task t)) (w'.station (.caller t))) :
    Alike all last (w.after o (.step (.caller t))) (w'.after o (.step (.caller t))) := by
  obtain ⟨hgone, htask, hwaits⟩ := hout
  obtain ⟨hspawned', hwaits'⟩ := act_waits o w'.ground t (w'.station (.task t)) hwaits
  refine h.moved (moved_step hfront (by rw [hgone]; rfl)) (moved_step hfront' hspawned') fun _ => ?_
  right
  rw [after, after, station_advance_caller.1, station_advance_caller.1, hgone]
  exact ⟨hquits, rfl, task_ne_absent_after htask (.step (.caller t)), hwaits'⟩

/-- A caller that gives up without a task never gets one. -/
theorem absent_giveUp {r : Request} (hfront : r.Front (w.station (.caller t)) (w.station (.task t)))
    (habsent : w.station (.task t) = .absent) (rest : List (Event ι)) :
    ((w.after o (.giveUp t)).run o rest).station (.task t) = .absent := by
  refine over_run ?_ (station_giveUp.2.trans habsent) rest
  rw [station_giveUp.1]
  rw [habsent] at hfront
  generalize w.station (.caller t) = caller at hfront ⊢
  cases hfront with
  | answered => exact Or.inr ⟨_, rfl⟩
  | _ => exact Or.inl rfl

/-- A caller that gives up while it has a task is outlasted. -/
theorem outlasted_giveUp {r : Request}
    (hfront : r.Front (w.station (.caller t)) (w.station (.task t)))
    (htask : w.station (.task t) ≠ .absent) {caller' : Station}
    (hsame : caller' = w.station (.caller t) ∨
      Outlasted (w.station (.caller t)) (w.station (.task t)) caller') :
    caller' = (w.after o (.giveUp t)).station (.caller t) ∨
      Outlasted ((w.after o (.giveUp t)).station (.caller t))
        ((w.after o (.giveUp t)).station (.task t)) caller' := by
  rw [after, station_giveUp.1, station_giveUp.2]
  generalize w.station (.caller t) = caller at *
  generalize w.station (.task t) = task at *
  rcases hsame with rfl | ⟨rfl, _, hwaits⟩
  · cases hfront with
    | new | settled | passed => exact absurd rfl htask
    | answered | joined => exact Or.inl rfl
    | joining => exact Or.inr ⟨rfl, htask, Or.inl rfl⟩
    | gone => exact Or.inl rfl
  · exact Or.inr ⟨rfl, htask, hwaits⟩

/-! ## Section 3: Every schedule -/

/-- One event, and its counterpart if it has one. -/
theorem Alike.event (halike : Alike all last w w') (hw : w.Manned load) (hw' : w'.Manned load)
    (hrequest : ∀ t, Event.giveUp t ∈ all → ∃ r, load t = .request r) {event : Event ι}
    (hmem : event ∈ all) {rest : List (Event ι)} (hlast : (w.after o event).run o rest = last) :
    Alike all last (w.after o event)
      (if keeps all last event then w'.after o event else w') := by
  cases event with
  | giveUp t =>
    obtain ⟨r, hload⟩ := hrequest t hmem
    have hfront := hw.front hload
    simp only [keeps, Bool.false_eq_true, if_false]
    refine halike.moved (moved_giveUp hfront) ⟨rfl, fun _ _ => rfl⟩ fun hearly => ?_
    -- Without a task now, there would be none at the end, and the caller would be early.
    have htask : w.station (.task t) ≠ .absent := by
      intro habsent
      refine hearly ⟨hmem, ?_⟩
      rw [← hlast, absent_giveUp hfront habsent rest]
      rfl
    rcases outlasted_giveUp (o := o) hfront htask
      ((halike.callers t hearly).imp_right And.right) with hsame | hout
    · exact Or.inl hsame
    · exact Or.inr ⟨hmem, hout⟩
  | step p =>
    cases p with
    | task t =>
      simp only [keeps, if_true]
      exact halike.step (halike.tasks t)
    | caller t =>
      by_cases hearly : Early all last t
      · simp only [keeps, hearly, decide_true, Bool.not_true, Bool.false_eq_true, if_false]
        obtain ⟨r, hload⟩ := hrequest t hearly.1
        have hfront := hw.front hload
        refine halike.moved (moved_step hfront ?_) ⟨rfl, fun _ _ => rfl⟩ fun hnot =>
          absurd hearly hnot
        -- With a task now, there would be one at the end.
        cases hspawned : (w.ground.act o (.caller t) (w.station (.task t))
            (w.station (.caller t))).spawned with
        | none => rfl
        | some work =>
          have hthere : (w.after o (.step (.caller t))).station (.task t) ≠ .absent := by
            rw [after, station_advance_caller.2, hspawned]
            simp
          have hlater := task_ne_absent_run (o := o) hthere rest
          rw [hlast, ← Station.present_iff, hearly.2] at hlater
          cases hlater
      · simp only [keeps, hearly, decide_false, Bool.not_false, if_true]
        rcases halike.callers t hearly with hsame | ⟨hquits, hout⟩
        · exact halike.step hsame
        · obtain ⟨r, hload⟩ := hrequest t hquits
          exact halike.outlast hquits (hw.front hload) (hw'.front hload) hout

theorem Alike.run (hrequest : ∀ t, Event.giveUp t ∈ all → ∃ r, load t = .request r)
    {events : List (Event ι)} (hsub : ∀ event ∈ events, event ∈ all)
    (hw : w.Manned load) (hw' : w'.Manned load) (hlast : w.run o events = last)
    (halike : Alike all last w w') :
    Alike all last last (w'.run o (events.filter (keeps all last))) := by
  induction events generalizing w w' with
  | nil =>
    cases hlast
    exact halike
  | cons event rest ih =>
    have hstep := halike.event hw hw' hrequest (hsub event (List.mem_cons_self ..)) hlast
    have hrest : ∀ event ∈ rest, event ∈ all := fun e hmem => hsub e (List.mem_cons_of_mem _ hmem)
    rw [List.filter_cons]
    cases hkeeps : keeps all last event with
    | true =>
      rw [hkeeps] at hstep
      exact ih hrest (hw.after o event) (hw'.after o event) hlast hstep
    | false =>
      rw [hkeeps] at hstep
      exact ih hrest (hw.after o event) hw' hlast hstep

omit [DecidableEq ι] in
theorem alike_start (g : Registry) (s : σ) :
    Alike all last (start load g s) (start load g s) :=
  ⟨rfl, fun _ => rfl, fun _ _ => Or.inl rfl⟩

/-- Giving up is of no importance to anybody else. -/
structure Indifferent (load : ι → Job) (o : Outside σ) (events : List (Event ι))
    (w w' : Scene ι σ) : Prop where
  /-- The records and their marks, the calls and the replies, in order, and everything else that
      is shared, are the same. -/
  ground  : w.ground = w'.ground
  /-- All tasks are where they are without anybody giving up. -/
  tasks   : ∀ t, w.station (.task t) = w'.station (.task t)
  /-- Whoever did not give up has got the same answer. -/
  answers : ∀ t, Event.giveUp t ∉ events → w.answer? t = w'.answer? t
  /-- A caller that gave up before it handed its work over has not come at all there. -/
  early   : ∀ t, Event.giveUp t ∈ events → w.station (.task t) = .absent →
    w'.station (.caller t) = .ahead (load t).errand
  /-- A call that was accepted is carried out by the steps of its task alone. -/
  kept    : ∀ t r call, load t = .request r → (t, call, .ok ()) ∈ w.ground.replies →
    ∃ n, (w.alone o t n).Committed t call r

/-- **Giving up**: with requests and any other jobs under way, in any interleaving, whatever callers
    of requests give up and whenever they do, all that is shared and all other answers are those of
    the same schedule without anybody giving up. -/
theorem indifferent (load : ι → Job) (o : Outside σ) {g : Registry} (hg : g.Sound) (s : σ)
    (events : List (Event ι)) (hrequest : ∀ t, Event.giveUp t ∈ events → ∃ r, load t = .request r) :
    let w := (start load g s).run o events
    Indifferent load o events w ((start load g s).run o (patient events w)) := by
  intro w
  have hstart := manned_start load hg s
  have hmanned : w.Manned load := hstart.run o events
  have halike : Alike events w w ((start load g s).run o (patient events w)) :=
    Alike.run hrequest (fun _ hmem => hmem) hstart hstart rfl (alike_start g s)
  refine {
    ground  := halike.ground.symm
    tasks   := fun t => (halike.tasks t).symm
    answers := ?_
    early   := ?_
    kept    := fun t r call hload hmem => exists_committed hmanned
      ((keeping_start load g s).run hstart o events) hload hmem }
  · intro t hnot
    rcases halike.callers t (fun hearly => hnot hearly.1) with hsame | ⟨hquits, _⟩
    · rw [answer?, answer?, hsame]
    · exact absurd hquits hnot
  · intro t hquits habsent
    have hearly : Early events w t := ⟨hquits, by rw [habsent]; rfl⟩
    refine caller_run_of_not_mem fun event hmem hparty => ?_
    have hkeeps := (List.mem_filter.mp hmem).2
    cases event with
    | giveUp u => cases hkeeps
    | step p =>
      cases hparty
      simp [keeps, hearly] at hkeeps

/-- The provisioning system accepts every call, and the sink takes every blob. -/
def willing : Outside Unit where
  provisioner _ s := (.ok (), s)
  sink            := ⟨fun _ _ s => (.ok (), s), fun _ => .ok []⟩

/-- Three callers. -/
inductive Trio where
  | first
  | second
  | third
  deriving DecidableEq

/-- The first terminal of a card. -/
def firstTerminal : TerminalCoordinate :=
  ⟨⟨⟨0, Nat.succ_pos _⟩, ⟨0, Nat.succ_pos _⟩⟩, ⟨0, Nat.succ_pos _⟩⟩

/-- An activation, the deactivation of the same terminal, and a login for the same site. -/
def Trio.job : Trio → Job
  | first  => .request (.change Record.oneCard.site (.terminal firstTerminal (.activate "sn-0")))
  | second => .request (.change Record.oneCard.site (.terminal firstTerminal .deactivate))
  | third  => .request (.change Record.oneCard.site (.login "olt" "changed"))

/-- The first caller gives up while its task has the lock and waits for the reply to its call, with
    the second task behind it. The third caller gives up when it has just looked at the sites. -/
def hasty : List (Event Trio) :=
  [.step (.caller .first), .step (.caller .first), .step (.task .first), .step (.task .first),
    .step (.task .first), .step (.task .first), .step (.caller .second), .step (.caller .second),
    .step (.task .second), .step (.task .second), .giveUp .first, .step (.caller .third),
    .giveUp .third] ++
    List.replicate 12 (.step (.task .first)) ++ List.replicate 12 (.step (.task .second)) ++
    [.step (.caller .second), .step (.caller .third)]

/-- Both calls are made and carried out, and the second caller is answered. -/
theorem indifferent_hasty :
    let w := (start Trio.job .oneSite ()).run willing hasty
    Registry.oneSite.Sound ∧ (∀ t, Event.giveUp t ∈ hasty → ∃ r, Trio.job t = .request r) ∧
      w.ground.replies.map Prod.fst = [.first, .second] ∧ (w.answer? .second).isSome = true ∧
      Indifferent Trio.job willing hasty w
        ((start Trio.job .oneSite ()).run willing (patient hasty w)) := by
  intro w
  have hrequest : ∀ t, Event.giveUp t ∈ hasty → ∃ r, Trio.job t = .request r := by
    intro t _
    cases t with
    | first | second | third => exact ⟨_, rfl⟩
  exact ⟨Registry.sound_oneSite, hrequest, by decide +kernel, by decide +kernel,
    indifferent Trio.job willing Registry.sound_oneSite () hasty hrequest⟩

end Scene

end ChassisRegistry
