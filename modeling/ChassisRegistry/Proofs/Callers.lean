import ChassisRegistry.Proofs.Custody

/-! # The callers of requests

    The caller of a request looks at the sites, answers at once or hands the
    work over, and waits. It takes no lock, makes no call and changes nothing
    that is shared, so whether it stops waiting is of no importance to anybody
    else. The task that it hands the work over to does not end before the work
    is done. The task of a creation asks for the login, once, and then settles
    what the reply is.

    Main statements: `Request.Front.ground_caller` and `Scene.Manned.run`. -/

namespace ChassisRegistry

variable {ι σ : Type}

/-! ## Section 1: What a step adds to what is seen -/

/-- The reply that comes to a party with its next step. -/
def Station.reply? (o : Outside σ) (h : Ground ι σ) :
    Station → Option (Call × Except ProvisionerError Unit)
  | asking call _ | waiting _ (.call call) _ => some (call, (o.provisioner call h.outside).1)
  | _ => none

/-- The blobs that a party loads with its next step. -/
def Station.loads? (o : Outside σ) (h : Ground ι σ) : Station → Option (List (Site × ByteArray))
  | ahead .load => (o.sink.load h.outside).toOption
  | _ => none

/-- The entry of the site whose lock a party gives back with its next step. -/
def Station.returned? (g : Registry) : Station → Option (Site × Entry)
  | inside site (.leave _) => (g.entries.find? site).map fun e => (site, e)
  | _ => none

/-- The replies to the calls of a job. -/
def Ground.repliesTo [DecidableEq ι] (h : Ground ι σ) (t : ι) :
    List (Call × Except ProvisionerError Unit) :=
  (h.replies.filter fun r => r.1 = t).map Prod.snd

section

variable [DecidableEq ι] {o : Outside σ} {p : Party ι} {h : Ground ι σ} {task station : Station}

/-- All that a step adds to what is seen. -/
theorem Ground.seen_act (station : Station) :
    (h.act o p task station).ground.replies =
        h.replies ++ (station.reply? o h).toList.map (fun r => (p.job, r)) ∧
      (h.act o p task station).ground.loads =
        h.loads ++ (station.loads? o h).toList.map (fun blobs => (p.job, blobs)) ∧
      (h.act o p task station).ground.returned =
        h.returned ++ (station.returned? h.registry).toList.map fun r => (p.job, r) := by
  cases station with
  | ahead errand =>
    cases errand with
    | load =>
      cases hload : o.sink.load h.outside <;>
        simp [Ground.act, Station.reply?, Station.loads?, Station.returned?, hload, Except.toOption]
    | handOver work =>
      cases p <;> simp [Ground.act, Station.reply?, Station.loads?, Station.returned?]
    | _ => simp [Ground.act, Station.reply?, Station.loads?, Station.returned?]
  | queued site turn =>
    simp only [Ground.act]
    split <;> simp [Station.reply?, Station.loads?, Station.returned?]
  | inside site turn =>
    cases turn with
    | access write next =>
      simp only [Ground.act]
      split <;> simp [Station.reply?, Station.loads?, Station.returned?]
    | send m next => simp [Ground.act, Station.reply?, Station.loads?, Station.returned?]
    | leave result =>
      cases hfound : h.registry.entries.find? site <;>
        simp [Ground.act, Station.reply?, Station.loads?, Station.returned?, hfound]
  | waiting site m next =>
    cases m <;>
      simp [Ground.act, Ground.deliver, Station.reply?, Station.loads?, Station.returned?]
  | joining =>
    cases task <;> simp [Ground.act, Station.reply?, Station.loads?, Station.returned?]
  | _ => simp [Ground.act, Station.reply?, Station.loads?, Station.returned?]

theorem Ground.replies_act (station : Station) :
    (h.act o p task station).ground.replies =
      h.replies ++ (station.reply? o h).toList.map fun r => (p.job, r) :=
  (seen_act station).1

theorem Ground.loads_act (station : Station) :
    (h.act o p task station).ground.loads =
      h.loads ++ (station.loads? o h).toList.map fun blobs => (p.job, blobs) :=
  (seen_act station).2.1

theorem Ground.returned_act (station : Station) :
    (h.act o p task station).ground.returned =
      h.returned ++ (station.returned? h.registry).toList.map fun r => (p.job, r) :=
  (seen_act station).2.2

theorem Ground.repliesTo_act (station : Station) (t : ι) :
    (h.act o p task station).ground.repliesTo t =
      h.repliesTo t ++ if p.job = t then (station.reply? o h).toList else [] := by
  rw [repliesTo, replies_act, List.filter_append, List.map_append]
  congr 1
  cases station.reply? o h with
  | none => simp
  | some reply => by_cases hjob : p.job = t <;> simp [hjob]

theorem Ground.mem_repliesTo {t : ι} {call : Call} {reply : Except ProvisionerError Unit} :
    (call, reply) ∈ h.repliesTo t ↔ (t, call, reply) ∈ h.replies := by
  simp [repliesTo]

@[simp] theorem Ground.replies_abandon (h : Ground ι σ) (p : Party ι) (station : Station) :
    (h.abandon p station).1.replies = h.replies := by
  cases station <;> rfl

@[simp] theorem Ground.loads_abandon (h : Ground ι σ) (p : Party ι) (station : Station) :
    (h.abandon p station).1.loads = h.loads := by
  cases station <;> rfl

@[simp] theorem Ground.returned_abandon (h : Ground ι σ) (p : Party ι) (station : Station) :
    (h.abandon p station).1.returned = h.returned := by
  cases station <;> rfl

/-- A task that is there stays. -/
theorem Ground.station_act_ne_absent (hstation : station ≠ .absent) :
    (h.act o p task station).station ≠ .absent := by
  cases station with
  | absent => exact absurd rfl hstation
  | ahead errand =>
    cases errand with
    | load =>
      simp only [Ground.act]
      cases o.sink.load h.outside <;> simp
    | handOver work => cases p <;> simp [Ground.act]
    | _ => simp [Ground.act]
  | queued site turn =>
    simp only [Ground.act]
    split <;> simp
  | inside site turn =>
    cases turn with
    | access write next =>
      simp only [Ground.act]
      split <;> simp
    | _ => simp [Ground.act]
  | joining => cases task <;> simp [Ground.act]
  | _ => simp [Ground.act]

end

/-! ## Section 2: Callers -/

/-- A request that is not always refused or answered at once. -/
def Request.Passes (r : Request) : Prop := ∃ g : Registry, g.screen r = .ok none

/-- Where the caller of a request and its task can be. -/
inductive Request.Front (r : Request) : Station → Station → Prop where
  | new : Front r (.ahead (.look r.screened)) .absent
  /-- There is nothing to hand over. -/
  | settled {g : Registry} {result : Except RegistryError Yielded}
      (hscreened : r.screened g = .answer result) : Front r (.ahead (.answer result)) .absent
  | answered {g : Registry} {result : Except RegistryError Yielded}
      (hscreened : r.screened g = .answer result) : Front r (.done result) .absent
  | passed (hpasses : r.Passes) : Front r (.ahead (.handOver r.work)) .absent
  | joining {task : Station} (hpasses : r.Passes) (htask : task ≠ .absent) : Front r .joining task
  | joined (hpasses : r.Passes) (result : Except RegistryError Yielded) :
      Front r (.done result) (.done result)
  | gone {task : Station} (htask : task = .absent ∨ r.Passes) : Front r .gone task

/-- What a request does after its screening: it answers at once, or it hands its work over. -/
theorem Request.screened_cases (r : Request) (g : Registry) :
    (∃ result, r.screened g = .answer result) ∨
      g.screen r = .ok none ∧ r.screened g = .handOver r.work := by
  unfold screened
  split
  · exact Or.inl ⟨_, rfl⟩
  · exact Or.inl ⟨_, rfl⟩
  · next hscreen => exact Or.inr ⟨hscreen, rfl⟩

namespace Request.Front

variable [DecidableEq ι] {r : Request} {o : Outside σ} {t : ι} {h : Ground ι σ}
  {caller task : Station}

/-- The caller changes nothing that is shared. -/
theorem ground_caller (hfront : r.Front caller task) :
    (h.act o (.caller t) task caller).ground = h := by
  cases hfront with
  | joining => cases task <;> rfl
  | _ => rfl

/-- The caller takes a step. -/
theorem caller_act (hfront : r.Front caller task) :
    r.Front (h.act o (.caller t) task caller).station
      (match (h.act o (.caller t) task caller).spawned with
      | none => task
      | some work => .ahead work) := by
  cases hfront with
  | new =>
    simp only [Ground.act]
    rcases r.screened_cases h.registry with ⟨result, hscreened⟩ | ⟨hscreen, hscreened⟩
    · rw [hscreened]
      exact .settled hscreened
    · rw [hscreened]
      exact .passed ⟨_, hscreen⟩
  | settled hscreened => exact .answered hscreened
  | answered hscreened => exact .answered hscreened
  | passed hpasses => exact .joining hpasses (by simp [Ground.act])
  | joining hpasses htask =>
    cases task with
    | done result => exact .joined hpasses result
    | _ => exact .joining hpasses htask
  | joined hpasses result => exact .joined hpasses result
  | gone htask => exact .gone htask

omit [DecidableEq ι] in
theorem reply?_eq_none (hfront : r.Front caller task) : caller.reply? o h = none := by
  cases hfront <;> rfl

/-- What is handed over is the work of the request, and there was no task before. -/
theorem spawned (hfront : r.Front caller task) {work : Errand}
    (hspawned : (h.act o (.caller t) task caller).spawned = some work) :
    task = .absent ∧ work = r.work := by
  cases hfront with
  | passed =>
    cases hspawned
    exact ⟨rfl, rfl⟩
  | joining => cases task <;> cases hspawned
  | _ => cases hspawned

/-- The task takes a step. -/
theorem task_act (hfront : r.Front caller task) :
    r.Front caller (h.act o (.task t) task task).station := by
  cases hfront with
  | new => exact .new
  | settled hscreened => exact .settled hscreened
  | answered hscreened => exact .answered hscreened
  | passed hpasses => exact .passed hpasses
  | joining hpasses htask => exact .joining hpasses (Ground.station_act_ne_absent htask)
  | joined hpasses result => exact .joined hpasses result
  | gone htask => exact .gone (htask.imp_left fun habsent => by rw [habsent]; rfl)

/-- The caller stops waiting, and leaves everything as it is. -/
theorem abandon (hfront : r.Front caller task) :
    (h.abandon (.caller t) caller).1 = h ∧ r.Front (h.abandon (.caller t) caller).2 task := by
  cases hfront with
  | new => exact ⟨rfl, .gone (Or.inl rfl)⟩
  | settled => exact ⟨rfl, .gone (Or.inl rfl)⟩
  | answered hscreened => exact ⟨rfl, .answered hscreened⟩
  | passed hpasses => exact ⟨rfl, .gone (Or.inr hpasses)⟩
  | joining hpasses => exact ⟨rfl, .gone (Or.inr hpasses)⟩
  | joined hpasses result => exact ⟨rfl, .joined hpasses result⟩
  | gone htask => exact ⟨rfl, .gone htask⟩

end Request.Front

/-! ## Section 3: The task of a creation -/

/-- What a creation is answered with after the reply to its call. -/
def founded (site : Site) (endpoint : Endpoint) :
    Except ProvisionerError Unit → Except RegistryError Yielded
  | .ok () => .ok (.visit (.answer (.site site)))
  | .error why => .error (.chassis (.ofRefusal (.login endpoint) why))

section

variable (site : Site) (endpoint : Endpoint) (rack shelf : UInt32)

/-- Where the task of a creation can be, and the replies that have come. Accepted, it puts its site
    in, unless that is there. -/
inductive Founder (g : Registry) :
    Station → List (Call × Except ProvisionerError Unit) → Prop where
  | absent : Founder g .absent []
  | ahead : Founder g (.ahead (.ask (.login endpoint) (.create site endpoint rack shelf))) []
  | asking : Founder g (.asking (.login endpoint) (.create site endpoint rack shelf)) []
  | replied (reply : Except ProvisionerError Unit) :
      Founder g (.ahead (.settle (.create site endpoint rack shelf)
        (Registry.replyTo (.login endpoint) reply))) [(.login endpoint, reply)]
  | settled (reply : Except ProvisionerError Unit)
      (hthere : reply = .ok () → ∃ e, g.entries.find? site = some e) :
      Founder g (.ahead (.answer (founded site endpoint reply))) [(.login endpoint, reply)]
  | done (reply : Except ProvisionerError Unit)
      (hthere : reply = .ok () → ∃ e, g.entries.find? site = some e) :
      Founder g (.done (founded site endpoint reply)) [(.login endpoint, reply)]

end

namespace Founder

variable {site : Site} {endpoint : Endpoint} {rack shelf : UInt32} {g g' : Registry}
  {station : Station} {replies : List (Call × Except ProvisionerError Unit)}

/-- The task of a creation is not concerned by what others do. -/
theorem of_there (hfounder : Founder site endpoint rack shelf g station replies)
    (hthere : ∀ ⦃site e⦄, g.entries.find? site = some e →
      ∃ e', g'.entries.find? site = some e') :
    Founder site endpoint rack shelf g' station replies := by
  cases hfounder with
  | absent => exact .absent
  | ahead => exact .ahead
  | asking => exact .asking
  | replied reply => exact .replied reply
  | settled reply h =>
    refine .settled reply fun hok => ?_
    obtain ⟨e, hfound⟩ := h hok
    exact hthere hfound
  | done reply h =>
    refine .done reply fun hok => ?_
    obtain ⟨e, hfound⟩ := h hok
    exact hthere hfound

/-- What a creation comes to after the reply to its call. -/
theorem resume_founded (g : Registry) (site : Site) (endpoint : Endpoint) (rack shelf : UInt32)
    (reply : Except ProvisionerError Unit) :
    let after := g.resume (.create site endpoint rack shelf)
      (Registry.replyTo (.login endpoint) reply)
    after.1.map (fun a => Yielded.visit (.answer a)) = founded site endpoint reply ∧
      (reply = .ok () → ∃ e, after.2.entries.find? site = some e) := by
  cases reply with
  | error why => exact ⟨rfl, by simp⟩
  | ok _ =>
    rcases g.resume_create_cases site endpoint rack shelf (.ok ()) with
      ⟨_, hx, _⟩ | ⟨_, ⟨e, hfound⟩, hresume⟩ | ⟨_, _, hresume⟩
    · cases hx
    · simp only [Registry.replyTo, Except.mapError, hresume]
      exact ⟨rfl, fun _ => ⟨e, hfound⟩⟩
    · simp only [Registry.replyTo, Except.mapError, hresume]
      exact ⟨rfl, fun _ => ⟨_, SiteMap.find?_insert_self _ _ _⟩⟩

/-- The task takes a step. -/
theorem act [DecidableEq ι] {o : Outside σ} {t : ι} {h : Ground ι σ} {task : Station}
    (hfounder : Founder site endpoint rack shelf h.registry station replies) :
    Founder site endpoint rack shelf (h.act o (.task t) task station).ground.registry
      (h.act o (.task t) task station).station (replies ++ (station.reply? o h).toList) := by
  cases hfounder with
  | absent => exact .absent
  | ahead => exact .asking
  | asking => exact .replied _
  | replied reply =>
    obtain ⟨hresult, hthere⟩ := resume_founded h.registry site endpoint rack shelf reply
    simp only [Ground.act, hresult]
    exact .settled reply hthere
  | settled reply hthere => exact .done reply hthere
  | done reply hthere => exact .done reply hthere

theorem replies_of_absent (hfounder : Founder site endpoint rack shelf g .absent replies) :
    replies = [] := by
  cases hfounder
  rfl

end Founder

/-! ## Section 4: Every run -/

namespace Scene

variable [DecidableEq ι] {load : ι → Job} {w : Scene ι σ} {o : Outside σ} {t : ι}

omit [DecidableEq ι] in
/-- What comes next concerns a job if it comes from its caller or from its task. -/
theorem Event.of_job {event : Event ι} (hjob : event.party.job = t) :
    event = .step (.caller t) ∨ event = .step (.task t) ∨ event = .giveUp t := by
  subst hjob
  cases event with
  | step p => cases p <;> simp [party, Party.job]
  | giveUp u => simp [party, Party.job]

/-- Anything else leaves the parties of the job where they are. -/
theorem station_after_of_ne {event : Event ι} {q : Party ι} (hjob : event.party.job ≠ q.job) :
    (w.after o event).station q = w.station q := by
  have hne : q ≠ event.party := by
    rintro rfl
    exact hjob rfl
  cases event with
  | giveUp u => exact Function.update_of_ne hne ..
  | step p =>
    have hne : q ≠ p := hne
    rcases w.advance_cases o p with ⟨u, work, rfl, hstation, hadvance⟩ | hadvance
    · have htask : q ≠ .task u := by
        rintro rfl
        exact hjob rfl
      simp only [after, hadvance, Function.update_of_ne htask, Function.update_of_ne hne]
    · simp only [after, hadvance, Function.update_of_ne hne]

theorem station_advance_task :
    (w.advance o (.task t)).station (.caller t) = w.station (.caller t) ∧
      (w.advance o (.task t)).station (.task t) =
        (w.ground.act o (.task t) (w.station (.task t)) (w.station (.task t))).station := by
  have hne : Party.caller t ≠ .task t := by simp
  rcases w.advance_cases o (.task t) with ⟨_, _, heq, _⟩ | hadvance
  · cases heq
  · simp only [hadvance, Function.update_of_ne hne, Function.update_self, Party.job, true_and]

theorem station_advance_caller :
    (w.advance o (.caller t)).station (.caller t) =
        (w.ground.act o (.caller t) (w.station (.task t)) (w.station (.caller t))).station ∧
      (w.advance o (.caller t)).station (.task t) =
        match (w.ground.act o (.caller t) (w.station (.task t))
          (w.station (.caller t))).spawned with
        | none => w.station (.task t)
        | some work => .ahead work := by
  cases hspawned : (w.ground.act o (.caller t) (w.station (.task t))
      (w.station (.caller t))).spawned with
  | none => simp [advance, Party.job, hspawned]
  | some work => simp [advance, Party.job, hspawned]

theorem station_giveUp :
    (w.giveUp t).station (.caller t) = (w.ground.abandon (.caller t) (w.station (.caller t))).2 ∧
      (w.giveUp t).station (.task t) = w.station (.task t) := by
  have hne : Party.task t ≠ .caller t := by simp
  simp only [giveUp, Function.update_self, Function.update_of_ne hne, true_and]

/-- A caller is moved by its own steps only. -/
theorem caller_after_of_ne {event : Event ι} (hparty : event.party ≠ .caller t) :
    (w.after o event).station (.caller t) = w.station (.caller t) := by
  by_cases hjob : event.party.job = t
  · rcases Event.of_job hjob with rfl | rfl | rfl
    · exact absurd rfl hparty
    · exact station_advance_task.1
    · exact absurd rfl hparty
  · exact station_after_of_ne (q := .caller t) hjob

/-- A caller without an event stays where it is. -/
theorem caller_run_of_not_mem {events : List (Event ι)}
    (hnot : ∀ event ∈ events, event.party ≠ .caller t) :
    (w.run o events).station (.caller t) = w.station (.caller t) := by
  induction events generalizing w with
  | nil => rfl
  | cons event rest ih =>
    have hstep := caller_after_of_ne (o := o) (w := w) (hnot event (List.mem_cons_self ..))
    rw [← hstep]
    exact ih fun e hmem => hnot e (List.mem_cons_of_mem _ hmem)

/-- The callers of requests and the tasks of creations are where they can be. -/
structure Manned (load : ι → Job) (w : Scene ι σ) : Prop where
  sound   : w.Sound load
  front   : ∀ {t r}, load t = .request r → r.Front (w.station (.caller t)) (w.station (.task t))
  founder : ∀ {t site endpoint rack shelf}, load t = .request (.create site endpoint rack shelf) →
    Founder site endpoint rack shelf w.ground.registry (w.station (.task t)) (w.ground.repliesTo t)

omit [DecidableEq ι] in
theorem front_start {r : Request} (hload : load t = .request r) (g : Registry) (s : σ) :
    r.Front ((start load g s).station (.caller t)) ((start load g s).station (.task t)) := by
  simp only [start, hload]
  exact .new

theorem manned_start (load : ι → Job) {g : Registry} (hg : g.Sound) (s : σ) :
    (start load g s).Manned load where
  sound      := sound_start load hg s
  front h    := front_start h g s
  founder _  := .absent

theorem front_after {r : Request}
    (hfront : r.Front (w.station (.caller t)) (w.station (.task t))) (o : Outside σ)
    (event : Event ι) :
    r.Front ((w.after o event).station (.caller t)) ((w.after o event).station (.task t)) := by
  by_cases hjob : event.party.job = t
  · rcases Event.of_job hjob with rfl | rfl | rfl
    · rw [after, station_advance_caller.1, station_advance_caller.2]
      exact hfront.caller_act
    · rw [after, station_advance_task.1, station_advance_task.2]
      exact hfront.task_act
    · rw [after, station_giveUp.1, station_giveUp.2]
      exact hfront.abandon.2
  · rw [station_after_of_ne (q := .caller t) hjob, station_after_of_ne (q := .task t) hjob]
    exact hfront

/-- Replies come to a job by the steps of its own parties only. -/
theorem repliesTo_after (event : Event ι) (t : ι) :
    (w.after o event).ground.repliesTo t = w.ground.repliesTo t ++
      match event with
      | .step p => if p.job = t then ((w.station p).reply? o w.ground).toList else []
      | .giveUp _ => [] := by
  cases event with
  | step p => exact Ground.repliesTo_act (w.station p) t
  | giveUp u => simp [after, giveUp, Ground.repliesTo]

theorem Manned.founder_after (hw : w.Manned load) {site : Site} {endpoint : Endpoint}
    {rack shelf : UInt32} (hload : load t = .request (.create site endpoint rack shelf))
    (o : Outside σ) (event : Event ι) :
    Founder site endpoint rack shelf (w.after o event).ground.registry
      ((w.after o event).station (.task t)) ((w.after o event).ground.repliesTo t) := by
  have hfounder := hw.founder hload
  have hthere := (hw.sound.spares o event).there
  rw [repliesTo_after]
  by_cases hjob : event.party.job = t
  · rcases Event.of_job hjob with rfl | rfl | rfl
    · -- The caller makes no call itself, and changes nothing.
      have hfront := hw.front hload
      have hground : (w.after o (.step (.caller t))).ground = w.ground := hfront.ground_caller
      simp only [hground, hfront.reply?_eq_none, Option.toList_none, ite_self, List.append_nil]
      rw [after, station_advance_caller.2]
      cases hspawned : (w.ground.act o (.caller t) (w.station (.task t))
          (w.station (.caller t))).spawned with
      | none => exact hfounder
      | some work =>
        obtain ⟨habsent, rfl⟩ := hfront.spawned hspawned
        rw [habsent] at hfounder
        rw [hfounder.replies_of_absent]
        exact .ahead
    · rw [after, station_advance_task.2]
      simp only [Party.job, if_true]
      exact hfounder.act
    · rw [after, station_giveUp.2, List.append_nil]
      exact hfounder.of_there hthere
  · rw [station_after_of_ne (q := .task t) hjob]
    cases event with
    | step p =>
      simp only [if_neg (show ¬ p.job = t from hjob), List.append_nil]
      exact hfounder.of_there hthere
    | giveUp u =>
      rw [List.append_nil]
      exact hfounder.of_there hthere

theorem Manned.after (hw : w.Manned load) (o : Outside σ) (event : Event ι) :
    (w.after o event).Manned load where
  sound         := hw.sound.after o event
  front hload   := front_after (hw.front hload) o event
  founder hload := hw.founder_after hload o event

/-- Callers and tasks are where they can be, in every run. -/
theorem Manned.run (hw : w.Manned load) (o : Outside σ) (events : List (Event ι)) :
    (w.run o events).Manned load := by
  induction events generalizing w with
  | nil => exact hw
  | cons event rest ih => exact ih (hw.after o event)

end Scene

end ChassisRegistry
