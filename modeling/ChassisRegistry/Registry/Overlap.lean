import ChassisRegistry.Registry.Query

/-! # Overlapping operations

    Operations that are started before earlier ones have come to their end.

    Started together, all of them are first screened, and the questions
    answered, against the registry as it is; then the requests that passed are
    finished in the order in which they were started.

    While the provisioning system does not answer, a request that waits for it
    holds its site, and later operations on that site wait behind it; a
    creation holds no site. Whoever waits gives up. When the system answers
    again, the requests that were left run to their end: first those that wait
    for an answer, in their order; each of them hands its site on to the next
    request in the queue of the site, which runs behind those that are ready. -/

namespace ChassisRegistry

/-- A request or a question. -/
inductive Operation where
  | request (r : Request)
  | query (q : Query)

/-- What an operation gives: an answer or a finding. -/
inductive Yield where
  | answer (a : Answer)
  | finding (f : Finding)

namespace Registry

variable {σ : Type}

/-- Answers a question. -/
def inquire (g : Registry) (q : Query) : Except RegistryError Yield :=
  (g.ask q).map .finding

/-! ## Started together -/

/-- An operation after its screening. -/
inductive Screened where
  | settled (result : Except RegistryError Yield)
  | passed (r : Request)

/-- Screens an operation. -/
def screenOperation (g : Registry) : Operation → Screened
  | .query q => .settled (g.inquire q)
  | .request r =>
      match g.screen r with
      | .error e => .settled (.error e)
      | .ok (some answer) => .settled (.ok (.answer answer))
      | .ok none => .passed r

/-- Finishes the requests that passed, one after the other. -/
def finishEach (p : Provisioner σ) :
    List Screened → Registry → σ → List (Except RegistryError Yield) × Registry × σ
  | [], g, s => ([], g, s)
  | .settled result :: rest, g, s =>
      let (results, g, s) := finishEach p rest g s
      (result :: results, g, s)
  | .passed r :: rest, g, s =>
      let (result, g, s) := g.finish r p s
      let (results, g, s) := finishEach p rest g s
      (result.map .answer :: results, g, s)

/-- Runs operations that are started together. -/
def together (g : Registry) (ops : List Operation) (p : Provisioner σ) (s : σ) :
    List (Except RegistryError Yield) × Registry × σ :=
  finishEach p (ops.map g.screenOperation) g s

/-! ## Given up -/

/-- A request that can go on. -/
inductive Ready where
  /-- The reply to its call is there. -/
  | resumed (call : Call) (rest : Pending)
  /-- Its site is free. -/
  | woken (r : Request)

/-- The site that the request holds. -/
def Ready.held? : Ready → Option Site
  | .resumed _ rest => rest.held?
  | .woken r => r.held?

/-- What was left when everybody had given up. -/
structure Leftover where
  registry : Registry
  /-- Requests that wait for a reply, in order. -/
  waiting  : List Ready := []
  /-- Requests that wait for their site, in order. -/
  queued   : List Request := []

namespace Leftover

/-- Is the site held by a request that waits for a reply? -/
def holds (l : Leftover) (site : Site) : Bool :=
  l.waiting.any fun w => w.held? == some site

/-- Starts a request that passed its screening; without a result it is left. -/
def startRequest (l : Leftover) (r : Request) : Option (Except RegistryError Yield) × Leftover :=
  match l.registry.start r with
  | .settled result after => (some (result.map .answer), { l with registry := after })
  | .waiting call rest => (none, { l with waiting := l.waiting ++ [.resumed call rest] })

/-- Starts an operation while the provisioning system does not answer; without a result its caller
    has given up. -/
def startOperation (l : Leftover) : Operation → Option (Except RegistryError Yield) × Leftover
  | .query q => (if l.holds q.site then none else some (l.registry.inquire q), l)
  | .request r =>
      match l.registry.screenOperation (.request r) with
      | .settled result => (some result, l)
      | .passed (.change site what) =>
          if l.holds site then (none, { l with queued := l.queued ++ [.change site what] })
          else l.startRequest (.change site what)
      | .passed r => l.startRequest r

/-- Starts operations, one after the other. -/
def startEach : List Operation → Leftover → List (Option (Except RegistryError Yield)) × Leftover
  | [], l => ([], l)
  | op :: rest, l =>
      let (result, l) := l.startOperation op
      let (results, l) := startEach rest l
      (result :: results, l)

end Leftover

/-- The first request that waits for a site, and the others. -/
def dequeue (site : Site) : List Request → Option (Request × List Request)
  | [] => none
  | r :: rest =>
      if r.held? = some site then some (r, rest)
      else (dequeue site rest).map fun d => (d.1, r :: d.2)

theorem dequeue_length {site : Site} {queue rest : List Request} {r : Request}
    (h : dequeue site queue = some (r, rest)) : rest.length + 1 = queue.length := by
  induction queue generalizing rest with
  | nil => simp [dequeue] at h
  | cons head tail ih =>
    simp only [dequeue] at h
    split at h
    · cases h
      rfl
    · obtain ⟨d, hd, he⟩ := Option.map_eq_some_iff.mp h
      cases he
      simpa using ih hd

/-- Lets a request go on to its end. -/
def proceed (g : Registry) (p : Provisioner σ) (s : σ) : Ready → Registry × σ
  | .resumed call rest =>
      let (reply, s) := p call s
      ((g.resume rest (replyTo call reply)).2, s)
  | .woken r => (g.finish r p s).2

/-- Lets all requests go on to their end. -/
def proceedEach (p : Provisioner σ) (ready : List Ready) (queue : List Request) (g : Registry)
    (s : σ) : Registry × σ :=
  match ready with
  | [] => (g, s)
  | next :: others =>
      let (g, s) := g.proceed p s next
      match next.held? with
      | none => proceedEach p others queue g s
      | some site =>
          -- The site is free: the next request for it gets ready, behind the others.
          match h : dequeue site queue with
          | none => proceedEach p others queue g s
          | some (r, rest) => proceedEach p (others ++ [.woken r]) rest g s
  termination_by ready.length + 2 * queue.length
  decreasing_by
    all_goals simp_all
    have := dequeue_length h
    omega

/-- Starts operations whose callers do not wait for the provisioning system, and then lets what is
    left run to its end. -/
def abandoned (g : Registry) (ops : List Operation) (p : Provisioner σ) (s : σ) :
    List (Option (Except RegistryError Yield)) × Registry × σ :=
  let (results, left) := Leftover.startEach ops { registry := g }
  let (g, s) := proceedEach p left.waiting left.queued left.registry s
  (results, g, s)

end Registry

end ChassisRegistry
