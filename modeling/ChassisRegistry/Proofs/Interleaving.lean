import ChassisRegistry.Proofs.Visits
import Mathlib.Logic.Function.Basic

/-! # Visits that are under way together

    Any number of visits, to any number of sites, take their steps in any
    order. A visit

    1. looks its site up, and is over when it is refused;
    2. queues up behind those that already wait for the site;
    3. acquires the lock when nobody holds it and it is the first in the queue;
    4. takes the steps of its turn: accesses to the entry, messages, replies;
    5. releases the lock and is over.

    Each step is a step of one visit, and its next one is always determined;
    what is open is which visit goes next. So an interleaving is a list of
    visits, and a reply may come as late as one likes. -/

namespace ChassisRegistry

/-! ## Section 1: The world -/

/-- How far a visit has come. -/
inductive Phase where
  | outside
  /-- It has found its site. -/
  | found
  /-- It waits for the lock. -/
  | queued
  /-- It has the lock; behind the turn that is left, the messages that it sent. -/
  | inside (rest : Turn) (sent : List Message)
  /-- It has the lock and waits for the reply to a message. -/
  | waiting (m : Message) (next : m.Reply → Turn) (sent : List Message)
  | done (result : Visit.Result)

namespace Phase

/-- The visit has the lock. -/
def Inside : Phase → Prop
  | inside _ _ | waiting _ _ _ => True
  | _ => False

/-- The visit was never started, or it is over. -/
def Over : Phase → Prop
  | outside | done _ => True
  | _ => False

instance : DecidablePred Over
  | outside | done _ => isTrue trivial
  | found | queued | inside _ _ | waiting _ _ _ => isFalse id

/-- The messages that were sent. -/
def sent : Phase → List Message
  | inside _ sent => sent
  | waiting m _ sent => sent ++ [m]
  | _ => []

/-- How the visit ends from here on, when nobody else touches the entry. -/
def finish (script : Script) (e : Entry) :
    Phase → Option (Visit.Result × Entry × List Message)
  | inside rest sent => some (rest.run script e sent)
  | waiting m next sent => some ((next (script sent m)).run script e (sent ++ [m]))
  | _ => none

end Phase

/-- The registry while visits are under way. -/
structure World (ι : Type) where
  registry : Registry
  phase    : ι → Phase
  /-- Who has the lock of a site. -/
  holder   : Site → Option ι
  /-- Who waits for the lock of a site, first come first. -/
  queue    : Site → List ι
  /-- The messages sent for a site. -/
  sent     : Site → List Message
  /-- The visits in the order in which they queued up. -/
  queued   : List ι
  /-- The visits in the order in which they acquired the lock of their site. -/
  acquired : List ι

/-- Visits, and the replies that each of them gets. -/
structure Workload (ι : Type) where
  visit  : ι → Visit
  script : ι → Script

variable {ι : Type}

namespace World

/-- Nobody has begun. -/
def start (g : Registry) : World ι where
  registry := g
  phase    := fun _ => .outside
  holder   := fun _ => none
  queue    := fun _ => []
  sent     := fun _ => []
  queued   := []
  acquired := []

/-- The result of a visit that is over. -/
def answer (w : World ι) (t : ι) : Option Visit.Result :=
  match w.phase t with
  | .done result => some result
  | _ => none

/-- Every visit that was started is over. -/
def Finished (w : World ι) : Prop := ∀ t, (w.phase t).Over

end World

/-! ## Section 2: Steps -/

namespace Workload

/-- The site of a visit. -/
def site (load : Workload ι) (t : ι) : Site := (load.visit t).site

/-- The visits of one site, in the given order. -/
def ofSite (load : Workload ι) (s : Site) (order : List ι) : List ι :=
  order.filter fun t => load.site t = s

section OfSite

variable {load : Workload ι} {s : Site} {order : List ι} {t : ι}

theorem ofSite_concat_self (hsite : load.site t = s) :
    load.ofSite s (order ++ [t]) = load.ofSite s order ++ [t] := by
  simp [ofSite, hsite]

theorem ofSite_concat_of_ne (hsite : load.site t ≠ s) :
    load.ofSite s (order ++ [t]) = load.ofSite s order := by
  simp [ofSite, hsite]

theorem mem_ofSite : t ∈ load.ofSite s order ↔ t ∈ order ∧ load.site t = s := by
  simp [ofSite]

end OfSite

variable [DecidableEq ι]

/-- Looks a site up. -/
def lookUp (load : Workload ι) (w : World ι) (t : ι) : World ι :=
  { w with
    phase := Function.update w.phase t
      (match (load.visit t).screen w.registry with
        | .error x => .done (.error x)
        | .ok () => .found) }

/-- Queues up for a site. -/
def queueUp (load : Workload ι) (w : World ι) (t : ι) : World ι :=
  { w with
    phase  := Function.update w.phase t .queued
    queue  := Function.update w.queue (load.site t) (w.queue (load.site t) ++ [t])
    queued := w.queued ++ [t] }

/-- Goes from the front of the queue to the lock. -/
def acquire (load : Workload ι) (w : World ι) (t : ι) : World ι :=
  { w with
    phase    := Function.update w.phase t (.inside (load.visit t).turn [])
    holder   := Function.update w.holder (load.site t) (some t)
    queue    := Function.update w.queue (load.site t) (w.queue (load.site t)).tail
    acquired := w.acquired ++ [t] }

/-- Writes an entry, and goes on with the rest of the turn. -/
def access (load : Workload ι) (w : World ι) (t : ι) (e : Entry) (rest : Turn)
    (sent : List Message) : World ι :=
  { w with
    registry := w.registry.put (load.site t) e
    phase    := Function.update w.phase t (.inside rest sent) }

/-- Sends a message. -/
def send (load : Workload ι) (w : World ι) (t : ι) (m : Message) (next : m.Reply → Turn)
    (sent : List Message) : World ι :=
  { w with
    phase := Function.update w.phase t (.waiting m next sent)
    sent  := Function.update w.sent (load.site t) (w.sent (load.site t) ++ [m]) }

/-- Goes on with the reply to a message. -/
def receive (load : Workload ι) (w : World ι) (t : ι) (m : Message) (next : m.Reply → Turn)
    (sent : List Message) : World ι :=
  { w with
    phase := Function.update w.phase t
      (.inside (next (load.script t sent m)) (sent ++ [m])) }

/-- Gives the lock back. -/
def release (load : Workload ι) (w : World ι) (t : ι) (result : Visit.Result) : World ι :=
  { w with
    phase  := Function.update w.phase t (.done result)
    holder := Function.update w.holder (load.site t) none }

/-- The next step of a visit, if it can take one. -/
def step (load : Workload ι) (w : World ι) (t : ι) : Option (World ι) :=
  match w.phase t with
  | .outside => some (load.lookUp w t)
  | .found => some (load.queueUp w t)
  | .queued =>
      -- The only step that may have to wait for others.
      if w.holder (load.site t) = none ∧ (w.queue (load.site t)).head? = some t then
        some (load.acquire w t)
      else none
  | .inside (.access write next) sent =>
      (w.registry.entries.find? (load.site t)).map fun e =>
        load.access w t (write e) (next e) sent
  | .inside (.send m next) sent => some (load.send w t m next sent)
  | .inside (.leave result) _ => some (load.release w t result)
  | .waiting m next sent => some (load.receive w t m next sent)
  | .done _ => none

/-- Lets visits take steps in a given order. -/
def run (load : Workload ι) (w : World ι) : List ι → Option (World ι)
  | [] => some w
  | t :: rest => (load.step w t).bind fun w => load.run w rest

/-- The steps that a visit can take. -/
inductive Moves (load : Workload ι) (w : World ι) (t : ι) : World ι → Prop where
  | lookUp (hphase : w.phase t = .outside) : Moves load w t (load.lookUp w t)
  | queueUp (hphase : w.phase t = .found) : Moves load w t (load.queueUp w t)
  | acquire {rest : List ι} (hphase : w.phase t = .queued)
      (hfree : w.holder (load.site t) = none) (hqueue : w.queue (load.site t) = t :: rest) :
      Moves load w t (load.acquire w t)
  | access {write : Entry → Entry} {next : Entry → Turn} {sent : List Message} {e : Entry}
      (hphase : w.phase t = .inside (.access write next) sent)
      (hfound : w.registry.entries.find? (load.site t) = some e) :
      Moves load w t (load.access w t (write e) (next e) sent)
  | send {m : Message} {next : m.Reply → Turn} {sent : List Message}
      (hphase : w.phase t = .inside (.send m next) sent) :
      Moves load w t (load.send w t m next sent)
  | receive {m : Message} {next : m.Reply → Turn} {sent : List Message}
      (hphase : w.phase t = .waiting m next sent) :
      Moves load w t (load.receive w t m next sent)
  | release {result : Visit.Result} {sent : List Message}
      (hphase : w.phase t = .inside (.leave result) sent) :
      Moves load w t (load.release w t result)

variable {load : Workload ι} {w w' : World ι} {t : ι}

/-- A step is one of the moves. -/
theorem moves_of_step (hstep : load.step w t = some w') : load.Moves w t w' := by
  -- One case for each phase, and for each way in which a turn may go on.
  unfold step at hstep
  split at hstep
  case h_1 hphase =>
    cases hstep
    exact .lookUp hphase
  case h_2 hphase =>
    cases hstep
    exact .queueUp hphase
  case h_3 hphase =>
    split at hstep
    · next hready =>
      cases hstep
      obtain ⟨rest, hqueue⟩ := List.head?_eq_some_iff.mp hready.2
      exact .acquire hphase hready.1 hqueue
    · cases hstep
  case h_4 write next sent hphase =>
    obtain ⟨e, hfound, rfl⟩ := Option.map_eq_some_iff.mp hstep
    exact .access hphase hfound
  case h_5 m next sent hphase =>
    cases hstep
    exact .send hphase
  case h_6 result sent hphase =>
    cases hstep
    exact .release hphase
  case h_7 m next sent hphase =>
    cases hstep
    exact .receive hphase
  case h_8 => cases hstep

end Workload

end ChassisRegistry
