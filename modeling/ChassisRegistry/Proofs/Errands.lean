import ChassisRegistry.Proofs.Visits
import Mathlib.Logic.Function.Basic

/-! # Callers and their tasks

    Whoever comes to the registry with a job has an errand: the steps that are
    still to be taken. A request is screened by its caller, who looks at the
    sites; the rest is handed over to a task of its own, and the caller waits
    for the result of the task. Questions, the parts of the sites in a pass,
    and restorations are done by their callers themselves.

    Callers and tasks take their steps in any order. A caller may stop waiting
    at any time. Then nothing of its own errand is done any more, its place in
    a queue is lost, and a lock that it has is given back. A task has nobody
    who could give it up.

    Beside the registry stands what has been seen of it: the calls and the
    replies to them, the blobs that were loaded, and the entries as they were
    when a lock was given back. -/

namespace ChassisRegistry

/-! ## Section 1: Errands -/

/-- What a job gives. -/
inductive Yielded where
  | visit (outcome : Visit.Outcome)
  | restored (report : RestoreReport)

/-- What a party has still to do. -/
inductive Errand where
  /-- Looks at the sites that are there. -/
  | look (next : Registry → Errand)
  /-- Makes a call without a lock. -/
  | ask (call : Call) (rest : Pending)
  /-- Goes on with the reply to the call, in one go for all sites. -/
  | settle (rest : Pending) (reply : Except ChassisError Unit)
  /-- Loads all blobs of the sink. -/
  | load
  /-- Takes blobs in, in one go for all sites. -/
  | takeIn (blobs : List (Site × ByteArray))
  /-- Queues up for a site and takes a turn there. -/
  | enter (site : Site) (turn : Turn)
  /-- Hands the work over to a task and waits for its result. -/
  | handOver (work : Errand)
  | answer (result : Except RegistryError Yielded)

/-- What a caller comes with. -/
inductive Job where
  | request (r : Request)
  /-- An operation on one site that its caller does itself. -/
  | visit (v : Visit)
  /-- A restoration from the sink. -/
  | restore

/-- The work of a request that has passed its screening. -/
def Request.work : Request → Errand
  | create site endpoint rack shelf => .ask (.login endpoint) (.create site endpoint rack shelf)
  | change site what => .enter site (.change what)

/-- A request goes on with its screening. -/
def Request.screened (r : Request) (g : Registry) : Errand :=
  match g.screen r with
  | .error x => .answer (.error x)
  | .ok (some a) => .answer (.ok (.visit (.answer a)))
  | .ok none => .handOver r.work

/-- A visit goes on with its screening. -/
def Visit.screened (v : Visit) (g : Registry) : Errand :=
  match v.screen g with
  | .error x => .answer (.error x)
  | .ok () => .enter v.site v.turn

/-- What the caller of a job has to do. -/
def Job.errand : Job → Errand
  | request r => .look r.screened
  | visit v => .look v.screened
  | restore => .load

/-! ## Section 2: The scene -/

/-- Who takes steps: the caller of a job, or the task that the caller handed its work over to. -/
inductive Party (ι : Type) where
  | caller (t : ι)
  | task (t : ι)
  deriving DecidableEq

/-- The job of a party. -/
def Party.job {ι : Type} : Party ι → ι
  | caller t | task t => t

/-- How far a party has come. -/
inductive Station where
  /-- There is no such task. -/
  | absent
  | ahead (errand : Errand)
  /-- It waits for the reply to a call, without a lock. -/
  | asking (call : Call) (rest : Pending)
  /-- It waits for the lock of a site. -/
  | queued (site : Site) (turn : Turn)
  /-- It has the lock of a site. -/
  | inside (site : Site) (turn : Turn)
  /-- It has the lock of a site and waits for the reply to a message. -/
  | waiting (site : Site) (m : Message) (next : m.Reply → Turn)
  /-- It waits for its task. -/
  | joining
  | done (result : Except RegistryError Yielded)
  /-- It has stopped waiting. -/
  | gone

/-- The provisioning system and the sink, with a state that they share. -/
structure Outside (σ : Type) where
  provisioner : Provisioner σ
  sink        : Sink σ

/-- What all parties share, and what has been seen of it. -/
structure Ground (ι σ : Type) where
  registry : Registry
  outside  : σ
  /-- Who has the lock of a site. -/
  holder   : Site → Option (Party ι)
  /-- Who waits for the lock of a site, first come first. -/
  queue    : Site → List (Party ι)
  /-- The calls, in order. -/
  calls    : List (ι × Call)
  /-- The replies to calls, in order. -/
  replies  : List (ι × Call × Except ProvisionerError Unit)
  /-- What restorations have loaded. -/
  loads    : List (ι × List (Site × ByteArray))
  /-- The entries as they were when locks were given back, in order. -/
  returned : List (ι × Site × Entry)

/-- Callers and tasks on their ground. -/
structure Scene (ι σ : Type) where
  ground  : Ground ι σ
  station : Party ι → Station

/-! ## Section 3: Steps -/

variable {ι σ : Type}

/-- What a step of a party comes to. -/
structure Act (ι σ : Type) where
  ground  : Ground ι σ
  station : Station
  /-- The work that is handed over to a task. -/
  spawned : Option Errand := none

/-- The call that a message is, if it is one. -/
def Message.call? : Message → Option Call
  | call c => some c
  | blob _ => none

/-- The outside takes a message for a site: the reply, the ground after it. -/
def Ground.deliver (o : Outside σ) (h : Ground ι σ) (t : ι) (site : Site) :
    (m : Message) → m.Reply × Ground ι σ
  | .call call =>
      let (reply, s) := o.provisioner call h.outside
      (reply, { h with outside := s, replies := h.replies ++ [(t, call, reply)] })
  | .blob bytes =>
      let (reply, s) := o.sink.store site bytes h.outside
      (reply, { h with outside := s })

variable [DecidableEq ι]

/-- The next step of a party. A party that has to wait does nothing. -/
def Ground.act (o : Outside σ) (h : Ground ι σ) (p : Party ι) (task : Station) : Station → Act ι σ
  | .absent => ⟨h, .absent, none⟩
  | .ahead (.look next) => ⟨h, .ahead (next h.registry), none⟩
  | .ahead (.ask call rest) =>
      ⟨{ h with calls := h.calls ++ [(p.job, call)] }, .asking call rest, none⟩
  | .ahead (.settle rest reply) =>
      let (result, g) := h.registry.resume rest reply
      ⟨{ h with registry := g }, .ahead (.answer (result.map fun a => .visit (.answer a))), none⟩
  | .ahead .load =>
      match o.sink.load h.outside with
      | .error e => ⟨h, .ahead (.answer (.error (.persistence "*" e.message))), none⟩
      | .ok blobs => ⟨{ h with loads := h.loads ++ [(p.job, blobs)] }, .ahead (.takeIn blobs), none⟩
  | .ahead (.takeIn blobs) =>
      let (report, g) := Registry.restoreEach blobs {} h.registry
      ⟨{ h with registry := g }, .ahead (.answer (.ok (.restored report))), none⟩
  | .ahead (.enter site turn) =>
      ⟨{ h with queue := Function.update h.queue site (h.queue site ++ [p]) },
        .queued site turn, none⟩
  | .ahead (.handOver work) =>
      match p with
      | .caller _ => ⟨h, .joining, some work⟩
      -- A task has no task of its own.
      | .task _ => ⟨h, .ahead (.handOver work), none⟩
  | .ahead (.answer result) => ⟨h, .done result, none⟩
  | .asking call rest =>
      let (reply, s) := o.provisioner call h.outside
      ⟨{ h with outside := s, replies := h.replies ++ [(p.job, call, reply)] },
        .ahead (.settle rest (Registry.replyTo call reply)), none⟩
  | .queued site turn =>
      if h.holder site = none ∧ (h.queue site).head? = some p then
        ⟨{ h with
            holder := Function.update h.holder site (some p)
            queue  := Function.update h.queue site (h.queue site).tail },
          .inside site turn, none⟩
      else ⟨h, .queued site turn, none⟩
  | .inside site (.access write next) =>
      match h.registry.entries.find? site with
      | some e =>
          ⟨{ h with registry := h.registry.put site (write e) }, .inside site (next e), none⟩
      | none => ⟨h, .inside site (.access write next), none⟩
  | .inside site (.send m next) =>
      ⟨{ h with calls := h.calls ++ m.call?.toList.map fun call => (p.job, call) },
        .waiting site m next, none⟩
  | .inside site (.leave result) =>
      ⟨{ h with
          holder   := Function.update h.holder site none
          returned := h.returned ++
            (h.registry.entries.find? site).toList.map fun e => (p.job, site, e) },
        .ahead (.answer (result.map .visit)), none⟩
  | .waiting site m next =>
      let (reply, h) := h.deliver o p.job site m
      ⟨h, .inside site (next reply), none⟩
  | .joining =>
      match task with
      | .done result => ⟨h, .done result, none⟩
      | _ => ⟨h, .joining, none⟩
  | .done result => ⟨h, .done result, none⟩
  | .gone => ⟨h, .gone, none⟩

/-- What is left when a party stops waiting: its place in a queue and its lock are given up. A
    party that is over has nothing to give up. -/
def Ground.abandon (h : Ground ι σ) (p : Party ι) : Station → Ground ι σ × Station
  | .absent => (h, .absent)
  | .done result => (h, .done result)
  | .queued site _ =>
      ({ h with queue := Function.update h.queue site ((h.queue site).erase p) }, .gone)
  | .inside site _ | .waiting site _ _ =>
      ({ h with holder := Function.update h.holder site none }, .gone)
  | .ahead _ | .asking _ _ | .joining | .gone => (h, .gone)

namespace Scene

/-- Nobody has begun. -/
def start (load : ι → Job) (g : Registry) (s : σ) : Scene ι σ where
  ground := {
    registry := g, outside := s, holder := fun _ => none, queue := fun _ => []
    calls := [], replies := [], loads := [], returned := [] }
  station
    | .caller t => .ahead (load t).errand
    | .task _ => .absent

/-- What may come next: a step of a party, or a caller that stops waiting. -/
inductive Event (ι : Type) where
  | step (p : Party ι)
  | giveUp (t : ι)
  deriving DecidableEq

/-- A party takes its next step. -/
def advance (o : Outside σ) (w : Scene ι σ) (p : Party ι) : Scene ι σ :=
  let a := w.ground.act o p (w.station (.task p.job)) (w.station p)
  { ground  := a.ground
    station := match a.spawned with
      | none => Function.update w.station p a.station
      | some work =>
          Function.update (Function.update w.station p a.station) (.task p.job) (.ahead work) }

/-- A caller stops waiting. -/
def giveUp (w : Scene ι σ) (t : ι) : Scene ι σ :=
  let (h, station) := w.ground.abandon (.caller t) (w.station (.caller t))
  { ground := h, station := Function.update w.station (.caller t) station }

/-- The scene after an event. -/
def after (o : Outside σ) (w : Scene ι σ) : Event ι → Scene ι σ
  | .step p => w.advance o p
  | .giveUp t => w.giveUp t

/-- The scene after a run of events. -/
def run (o : Outside σ) (w : Scene ι σ) (events : List (Event ι)) : Scene ι σ :=
  events.foldl (after o) w

/-- The result that the caller of a job has got. -/
def answer? (w : Scene ι σ) (t : ι) : Option (Except RegistryError Yielded) :=
  match w.station (.caller t) with
  | .done result => some result
  | _ => none

end Scene

end ChassisRegistry
