import ChassisRegistry.Proofs.Solitude

/-! # The routes of operations

    All sites share one lock, and every site has one of its own. An operation
    comes by these locks on a route: it takes and gives back locks, reads and
    writes the sites or one entry in between, asks the outside for something,
    or leaves its work to a task.

    `Duty` are the operations of a registry. `Duty.route` is the route of each;
    `Duty.alone` performs it in one go, with the functions of the registry. A
    route says nothing about whether its locks are in order: any order of steps
    can be written down.

    Main statement: with nobody else about, a route comes to what the operation
    does in one go (`Duty.run_route`). -/

namespace ChassisRegistry

/-! ## Section 1: Operations -/

/-- The operations of a registry. -/
inductive Duty where
  | request (r : Request)
  | ask (q : Query)
  | sites
  | dirtySites
  | inventories
  | reflow
  | flush
  | restore
  deriving DecidableEq

namespace Duty

/-- What an operation gives. -/
inductive Outcome where
  | visit (outcome : Visit.Outcome)
  | sites (found : List Site)
  | inventories (found : List Inventory)
  | reflowed (report : ReflowReport)
  | flushed (report : FlushReport)
  | restored (report : RestoreReport)

/-- How an operation ends. -/
abbrev Result := Except RegistryError Outcome

variable {σ : Type}

/-- Performs an operation in one go: its result, the registry and the outside after it. -/
def alone (o : Outside σ) (g : Registry) (s : σ) : Duty → Result × Registry × σ
  | request r =>
      let (result, g, s) := g.serve r o.provisioner s
      (result.map fun a => .visit (.answer a), g, s)
  | ask q => ((g.ask q).map fun f => .visit (.finding f), g, s)
  | sites => (.ok (.sites g.sites), g, s)
  | dirtySites => (.ok (.sites g.dirtySites), g, s)
  | inventories => (.ok (.inventories g.inventories), g, s)
  | reflow =>
      let (report, s) := g.reflow o.provisioner s
      (.ok (.reflowed report), g, s)
  | flush =>
      let (report, g, s) := g.flush o.sink s
      (.ok (.flushed report), g, s)
  | restore =>
      let (result, g) := g.restore o.sink s
      (result.map .restored, g, s)

end Duty

/-! ## Section 2: Routes -/

/-- How the lock of all sites is taken: together with other readers, or by one alone. -/
inductive Mode where
  | shared
  | exclusive
  deriving DecidableEq

/-- What is asked of the outside. -/
inductive Demand where
  | call (c : Call)
  | store (site : Site) (bytes : ByteArray)
  | load

/-- What may come back. -/
abbrev Demand.Reply : Demand → Type
  | call _ => Except ProvisionerError Unit
  | store _ _ => Except SinkError Unit
  | load => Except SinkError (List (Site × ByteArray))

/-- The steps of an operation. -/
inductive Route where
  /-- Queues up for the lock of all sites and takes it. -/
  | lockAll (mode : Mode) (next : Route)
  /-- Writes the sites, and goes on with the sites as they were. -/
  | atAll (write : Registry → Registry) (next : Registry → Route)
  | unlockAll (next : Route)
  /-- Queues up for the lock of a site and takes it. -/
  | lock (site : Site) (next : Route)
  /-- Writes the entry of a site, and goes on with the entry as it was. -/
  | atSite (site : Site) (write : Entry → Entry) (next : Entry → Route)
  | unlock (site : Site) (next : Route)
  /-- Asks the outside, and goes on with the reply. -/
  | send (d : Demand) (next : d.Reply → Route)
  /-- Leaves the work to a task, and ends as the task ends. -/
  | detach (work : Route)
  | finish (result : Duty.Result)

namespace Route

/-- Looks at the sites. -/
def look (next : Registry → Route) : Route :=
  .lockAll .shared (.atAll id fun g => .unlockAll (next g))

/-- Writes the sites, and nobody sees them in between. -/
def alter (write : Registry → Registry) (next : Registry → Route) : Route :=
  .lockAll .exclusive (.atAll write fun g => .unlockAll (next g))

end Route

/-- The steps of a turn, which end with giving back the lock of the site. -/
def Turn.route (site : Site) (next : Visit.Result → Route) : Turn → Route
  | access write more => .atSite site write fun e => (more e).route site next
  | send (.call c) more => .send (.call c) fun reply => (more reply).route site next
  | send (.blob bytes) more => .send (.store site bytes) fun reply => (more reply).route site next
  | leave result => .unlock site (next result)

/-- Takes the lock of the site and visits it. -/
def Visit.route (v : Visit) (next : Visit.Result → Route) : Route :=
  .lock v.site (v.turn.route v.site next)

/-- The result of a visit as that of an operation. -/
def Duty.ofVisit (result : Visit.Result) : Duty.Result := result.map .visit

/-- A creation asks for its login without a lock, and then puts its site in, unless the site has
    come in the meantime. -/
def Request.founding (site : Site) (endpoint : Endpoint) (rack shelf : UInt32) : Route :=
  .send (.call (.login endpoint)) fun reply =>
    match Registry.replyTo (.login endpoint) reply with
    | .error x => .finish (.error (.chassis x))
    | .ok () => .alter (fun g => (g.resume (.create site endpoint rack shelf) (.ok ())).2) fun g =>
        .finish ((g.resume (.create site endpoint rack shelf) (.ok ())).1.map fun a =>
          .visit (.answer a))

/-- A request checks its login before it looks at the sites, and leaves its work to a task. -/
def Request.route : Request → Route
  | create site endpoint rack shelf =>
      match requireLogin endpoint.user endpoint.password with
      | .error x => .finish (.error x)
      | .ok () => .look fun g =>
          if g.entries.contains site then .finish (.ok (.visit (.answer (.site site))))
          else .detach (founding site endpoint rack shelf)
  | change site what =>
      match (Visit.change site what).checkLogin with
      | .error x => .finish (.error x)
      | .ok () => .look fun g =>
          match g.entry site with
          | .error x => .finish (.error x)
          | .ok _ => .detach ((Visit.change site what).route fun result =>
              .finish (Duty.ofVisit result))

/-- Visits sites one after the other. -/
def Route.pass {α : Type} (visit : Site → Visit) (gather : α → Site → Visit.Result → α)
    (done : α → Route) : List Site → α → Route
  | [], found => done found
  | site :: rest, found =>
      (visit site).route fun result => pass visit gather done rest (gather found site result)

/-- Adds up the reports of two reflows. -/
def ReflowReport.add (a b : ReflowReport) : ReflowReport :=
  ⟨a.cards + b.cards, a.terminals + b.terminals, a.failures + b.failures⟩

/-- Adds up the reports of two flushes. -/
def FlushReport.add (a b : FlushReport) : FlushReport :=
  ⟨a.stored + b.stored, a.clean + b.clean, a.failed + b.failed⟩

namespace Duty

/-- A site that was found dirty is kept. -/
def gatherDirty (found : List Site) (site : Site) : Visit.Result → List Site
  | .ok (.dirty true) => found ++ [site]
  | _ => found

/-- An inventory is kept. -/
def gatherInventory (found : List Inventory) (_ : Site) : Visit.Result → List Inventory
  | .ok (.finding (.inventory i)) => found ++ [i]
  | _ => found

/-- What was told of is counted. -/
def gatherReflow (report : ReflowReport) (_ : Site) : Visit.Result → ReflowReport
  | .ok (.reflowed more) => report.add more
  | _ => report

/-- What was offered is counted. -/
def gatherFlush (report : FlushReport) (_ : Site) : Visit.Result → FlushReport
  | .ok (.flushed more) => report.add more
  | _ => report

/-- The route of an operation. A pass over the sites takes down which there are, and then visits
    them one at a time. -/
def route : Duty → Route
  | request r => r.route
  | ask q => .look fun g =>
      match g.entry q.site with
      | .error x => .finish (.error x)
      | .ok _ => (Visit.query q).route fun result => .finish (ofVisit result)
  | sites => .look fun g => .finish (.ok (.sites g.sites))
  | dirtySites => .look fun g =>
      .pass .inspect gatherDirty (fun found => .finish (.ok (.sites found))) g.sites []
  | inventories => .look fun g =>
      .pass (fun site => .query (.inventory site)) gatherInventory
        (fun found => .finish (.ok (.inventories found))) g.sites []
  | reflow => .look fun g =>
      .pass .reflow gatherReflow (fun report => .finish (.ok (.reflowed report))) g.sites {}
  | flush => .look fun g =>
      .pass .flush gatherFlush (fun report => .finish (.ok (.flushed report))) g.sites {}
  | restore => .send .load fun
      | .error e => .finish (.error (.persistence "*" e.message))
      | .ok blobs => .alter (fun g => (g.restoreEach blobs {}).2) fun g =>
          .finish (.ok (.restored (g.restoreEach blobs {}).1))

end Duty

/-! ## Section 3: Routes by themselves -/

variable {σ : Type}

/-- The outside is asked for something: the reply, and the outside after it. -/
def Outside.reply (o : Outside σ) : (d : Demand) → σ → d.Reply × σ
  | .call c, s => o.provisioner c s
  | .store site bytes, s => o.sink.store site bytes s
  | .load, s => (o.sink.load s, s)

/-- Takes all steps of a route while nobody else is about: the result, the sites and the outside
    after it. -/
def Route.run (o : Outside σ) : Route → Registry → σ → Duty.Result × Registry × σ
  | lockAll _ next, g, s | unlockAll next, g, s | lock _ next, g, s | unlock _ next, g, s =>
      next.run o g s
  | atAll write next, g, s => (next g).run o (write g) s
  | atSite site write next, g, s =>
      match g.entries.find? site with
      | some e => (next e).run o (g.put site (write e)) s
      | none => (.error (.unknownSite site), g, s)
  | send d next, g, s =>
      let (reply, s) := o.reply d s
      (next reply).run o g s
  | detach work, g, s => work.run o g s
  | finish result, g, s => (result, g, s)

/-- Takes all steps of a turn, as `Turn.run` does, with an outside in place of a script. -/
def Turn.along (o : Outside σ) (site : Site) : Turn → Entry → σ → Visit.Result × Entry × σ
  | access write next, e, s => (next e).along o site (write e) s
  | send (.call c) next, e, s =>
      let (reply, s) := o.provisioner c s
      (next reply).along o site e s
  | send (.blob bytes) next, e, s =>
      let (reply, s) := o.sink.store site bytes s
      (next reply).along o site e s
  | leave result, e, s => (result, e, s)

variable {o : Outside σ} {g : Registry} {s : σ} {site : Site} {e : Entry}

open Registry (entry_of_some entry_of_none put_find? settle_of_some)

namespace Turn

/-- The steps of a turn are those of its route. -/
theorem run_route (turn : Turn) (next : Visit.Result → Route)
    (hfound : g.entries.find? site = some e) :
    (turn.route site next).run o g s =
      (next (turn.along o site e s).1).run o (g.put site (turn.along o site e s).2.1)
        (turn.along o site e s).2.2 := by
  induction turn generalizing g e s with
  | access write more ih =>
    have hwritten : (g.put site (write e)).entries.find? site = some (write e) :=
      SiteMap.find?_insert_self _ _ _
    simp only [route, Route.run, hfound, along]
    rw [ih e hwritten, Registry.put_put]
  | send m more ih =>
    cases m with
    | call c =>
      simp only [route, Route.run, Outside.reply, along]
      exact ih _ hfound
    | blob bytes =>
      simp only [route, Route.run, Outside.reply, along]
      exact ih _ hfound
  | leave result =>
    simp only [route, Route.run, along, put_find? hfound]

/-- Committing and marking is what an entry does when the call was accepted. -/
theorem along_commit (plan : Plan) :
    (commit plan).along o site e s =
      (((e.resume plan (.ok ())).1.mapError .chassis).map .answer,
        (e.resume plan (.ok ())).2, s) := by
  simp only [commit, along, Entry.resume]
  rcases e.record.carryOut plan with ⟨result, record⟩
  cases result with
  | error x => rfl
  | ok answer => rfl

/-- A change comes to what the registry finishes for a site that is there. -/
theorem along_change (what : Change) (hfound : g.entries.find? site = some e) :
    ∃ result, g.finish (.change site what) o.provisioner s =
        (result, g.put site ((Turn.change what).along o site e s).2.1,
          ((Turn.change what).along o site e s).2.2) ∧
      ((Turn.change what).along o site e s).1 = result.map .answer := by
  simp only [Registry.finish, Registry.start, entry_of_some hfound, change, along, id]
  -- A refused plan, a plan without a call, and a call that is turned down or accepted.
  cases hplan : e.record.plan what with
  | error x =>
    refine ⟨.error (.chassis x), ?_, rfl⟩
    simp only [along, put_find? hfound]
  | ok plan =>
    cases hcall : plan.call? with
    | none =>
      simp only [hcall, along_commit, settle_of_some hfound]
      exact ⟨_, rfl, rfl⟩
    | some call =>
      simp only [hcall, along, Registry.resume, settle_of_some hfound]
      cases Registry.replyTo call (o.provisioner call s).1 with
      | error x =>
        simp only [along, Entry.resume]
        exact ⟨_, rfl, rfl⟩
      | ok _ =>
        simp only [along_commit]
        exact ⟨_, rfl, rfl⟩

/-- Calls that are made step by step are the calls of a reflow. -/
theorem along_callEach (count : ReflowReport → Except ProvisionerError Unit → ReflowReport)
    (calls : List Call) (report : ReflowReport) (next : ReflowReport → Turn) :
    (callEach count calls report next).along o site e s =
      (next (Record.callEach o.provisioner count calls report s).1).along o site e
        (Record.callEach o.provisioner count calls report s).2 := by
  induction calls generalizing report s with
  | nil => rfl
  | cons call rest ih => exact ih _

/-- A reflow step by step is the reflow of the record, and leaves the entry as it is. -/
theorem along_reflow :
    reflow.along o site e s =
      (.ok (.reflowed (e.record.reflow o.provisioner {} s).1), e,
        (e.record.reflow o.provisioner {} s).2) := by
  simp only [reflow, along, along_callEach, Record.reflow, id]
  cases e.record.activeNotices with
  | error x => rfl
  | ok notices =>
    show (callEach _ _ _ _).along o site e _ = _
    rw [along_callEach]
    rfl

/-- A flush step by step offers the entry to the sink. -/
theorem along_flush (hfound : g.entries.find? site = some e) (report : FlushReport) :
    ∃ more, g.flushEntry o.sink report s site e =
        (report.add more, g.put site (flush.along o site e s).2.1, (flush.along o site e s).2.2) ∧
      (flush.along o site e s).1 = .ok (.flushed more) := by
  obtain ⟨_, ⟨store, _⟩⟩ := o
  simp only [flush, along, id, Registry.flushEntry]
  -- Only a snapshot that the sink took clears the mark.
  by_cases hdirty : e.dirty = true
  · simp only [if_pos hdirty, along]
    rcases store site (Snapshot.write e.record).toUTF8 s with ⟨reply, s'⟩
    cases reply with
    | error x =>
      refine ⟨{ failed := 1 }, ?_, rfl⟩
      simp only [along, put_find? hfound]
      rfl
    | ok _ => exact ⟨{ stored := 1 }, rfl, rfl⟩
  · simp only [if_neg hdirty, along, put_find? hfound]
    exact ⟨{ clean := 1 }, rfl, rfl⟩

end Turn

/-! ## Section 4: Passes by themselves -/

/-- The steps of a visit are those of its turn. -/
theorem Visit.run_route (v : Visit) (next : Visit.Result → Route)
    (hfound : g.entries.find? v.site = some e) :
    (v.route next).run o g s =
      (next (v.turn.along o v.site e s).1).run o (g.put v.site (v.turn.along o v.site e s).2.1)
        (v.turn.along o v.site e s).2.2 := by
  rw [route, Route.run]
  exact v.turn.run_route next hfound

namespace Route

/-- Entries that are still to be visited are those that a registry has. -/
def Ahead (g : Registry) (rest : List (Site × Entry)) : Prop :=
  (rest.map Prod.fst).Nodup ∧ ∀ x ∈ rest, g.entries.find? x.1 = some x.2

theorem ahead_entries (g : Registry) : Ahead g g.entries.entries :=
  ⟨g.entries.nodup, fun _ hx => SiteMap.lookup_of_mem g.entries.nodup hx⟩

/-- A visit leaves the entries ahead as they are. -/
theorem Ahead.put {rest : List (Site × Entry)} (h : Ahead g ((site, e) :: rest)) (e' : Entry) :
    Ahead (g.put site e') rest := by
  obtain ⟨hnodup, hfound⟩ := h
  rw [List.map_cons, List.nodup_cons] at hnodup
  refine ⟨hnodup.2, fun x hx => ?_⟩
  have hne : x.1 ≠ site := by
    intro heq
    exact hnodup.1 (heq ▸ List.mem_map.mpr ⟨x, hx, rfl⟩)
  rw [Registry.put, SiteMap.find?_insert_of_ne hne]
  exact hfound x (List.mem_cons_of_mem _ hx)

theorem Ahead.head {rest : List (Site × Entry)} (h : Ahead g ((site, e) :: rest)) :
    g.entries.find? site = some e :=
  h.2 (site, e) List.mem_cons_self

variable {rest : List (Site × Entry)}

theorem callEach_add {count : ReflowReport → Except ProvisionerError Unit → ReflowReport}
    (hcount : ∀ (a b : ReflowReport) reply, count (a.add b) reply = a.add (count b reply)) (p : Provisioner σ)
    (calls : List Call) (a b : ReflowReport) :
    Record.callEach p count calls (a.add b) s =
      (a.add (Record.callEach p count calls b s).1, (Record.callEach p count calls b s).2) := by
  induction calls generalizing b s with
  | nil => rfl
  | cons call rest ih =>
    show Record.callEach p count rest (count (a.add b) (p call s).1) (p call s).2 = _
    rw [hcount, ih]
    rfl

theorem countCard_add (a b : ReflowReport) (reply : Except ProvisionerError Unit) :
    (a.add b).countCard reply = a.add (b.countCard reply) := by
  cases reply <;> rfl

theorem countTerminal_add (a b : ReflowReport) (reply : Except ProvisionerError Unit) :
    (a.add b).countTerminal reply = a.add (b.countTerminal reply) := by
  cases reply <;> rfl

/-- A reflow counts on from what was counted before. -/
theorem reflow_add (r : Record) (p : Provisioner σ) (a b : ReflowReport) :
    r.reflow p (a.add b) s = (a.add (r.reflow p b s).1, (r.reflow p b s).2) := by
  simp only [Record.reflow, callEach_add countCard_add]
  cases r.activeNotices with
  | error x => rfl
  | ok notices => exact callEach_add countTerminal_add p _ a _

/-- A pass that tells of the sites tells of their records. -/
theorem run_pass_reflow (h : Ahead g rest) (done : ReflowReport → Route) (report : ReflowReport) :
    (pass .reflow Duty.gatherReflow done (rest.map Prod.fst) report).run o g s =
      (done (Registry.reflowEach o.provisioner (rest.map fun x => x.2.record) report s).1).run o g
        (Registry.reflowEach o.provisioner (rest.map fun x => x.2.record) report s).2 := by
  induction rest generalizing report s with
  | nil => rfl
  | cons head rest ih =>
    obtain ⟨site, e⟩ := head
    have hrest : Ahead g rest := by
      have hput := h.put e
      rwa [put_find? h.head] at hput
    rw [List.map_cons, pass, Visit.run_route _ _ h.head]
    simp only [Visit.turn, Visit.site, Turn.along_reflow, put_find? h.head, Duty.gatherReflow]
    -- The report of the visit is counted on from nothing, that of the pass from the sites before.
    have hadd := reflow_add (s := s) e.record o.provisioner report {}
    rw [ih hrest]
    simp only [List.map_cons, Registry.reflowEach, show report.add {} = report from rfl] at hadd ⊢
    rw [hadd]

/-- A pass that offers the sites to a sink offers their entries. -/
theorem run_pass_flush (h : Ahead g rest) (done : FlushReport → Route) (report : FlushReport) :
    (pass .flush Duty.gatherFlush done (rest.map Prod.fst) report).run o g s =
      (done (Registry.flushEach o.sink rest report g s).1).run o
        (Registry.flushEach o.sink rest report g s).2.1
        (Registry.flushEach o.sink rest report g s).2.2 := by
  induction rest generalizing report g s with
  | nil => rfl
  | cons head rest ih =>
    obtain ⟨site, e⟩ := head
    obtain ⟨more, hoffered, hresult⟩ := Turn.along_flush (o := o) (s := s) h.head report
    rw [List.map_cons, pass, Visit.run_route _ _ h.head]
    simp only [Visit.turn, Visit.site, hresult, Duty.gatherFlush, Registry.flushEach, hoffered]
    exact ih (h.put _) _

/-- A pass that asks for marks finds those of the entries. -/
theorem run_pass_dirty (h : Ahead g rest) (done : List Site → Route) (found : List Site) :
    (pass .inspect Duty.gatherDirty done (rest.map Prod.fst) found).run o g s =
      (done (found ++ (rest.filter fun x => x.2.dirty).map Prod.fst)).run o g s := by
  induction rest generalizing found with
  | nil => simp only [List.map_nil, pass, List.filter_nil, List.append_nil]
  | cons head rest ih =>
    obtain ⟨site, e⟩ := head
    have hrest : Ahead g rest := by
      have hput := h.put e
      rwa [put_find? h.head] at hput
    rw [List.map_cons, pass, Visit.run_route _ _ h.head]
    simp only [Visit.turn, Visit.site, Turn.along, id, put_find? h.head]
    rw [ih hrest, List.filter_cons]
    cases e.dirty with
    | true => simp only [Duty.gatherDirty, if_true, List.map_cons, List.append_assoc,
        List.singleton_append]
    | false => rfl

/-- A pass that asks for inventories finds those of the records. -/
theorem run_pass_inventories (h : Ahead g rest) (done : List Inventory → Route)
    (found : List Inventory) :
    (pass (fun site => .query (.inventory site)) Duty.gatherInventory done (rest.map Prod.fst)
      found).run o g s =
      (done (found ++ rest.map fun x => x.2.record.inventory)).run o g s := by
  induction rest generalizing found with
  | nil => simp only [List.map_nil, pass, List.append_nil]
  | cons head rest ih =>
    obtain ⟨site, e⟩ := head
    have hrest : Ahead g rest := by
      have hput := h.put e
      rwa [put_find? h.head] at hput
    have hfound : g.entries.find? (Visit.query (.inventory site)).site = some e := h.head
    rw [List.map_cons, pass, Visit.run_route _ _ hfound]
    simp only [Visit.turn, Turn.along, id, put_find? hfound]
    show (pass _ _ _ _ (found ++ [e.record.inventory])).run o g s = _
    rw [ih hrest, List.append_assoc]
    rfl

end Route

/-! ## Section 5: Operations by themselves -/

/-- A creation by itself founds its site. -/
theorem Request.run_founding (endpoint : Endpoint) (rack shelf : UInt32) :
    (founding site endpoint rack shelf).run o g s =
      (((g.finish (.create site endpoint rack shelf) o.provisioner s).1).map fun a =>
          .visit (.answer a),
        (g.finish (.create site endpoint rack shelf) o.provisioner s).2) := by
  simp only [founding, Route.run, Outside.reply, Registry.finish, Registry.start]
  cases Registry.replyTo (.login endpoint) (o.provisioner (.login endpoint) s).1 with
  | error x => rfl
  | ok _ => rfl

/-- A request by itself is served. -/
theorem Request.run_route (r : Request) :
    r.route.run o g s =
      ((g.serve r o.provisioner s).1.map fun a => .visit (.answer a),
        (g.serve r o.provisioner s).2) := by
  cases r with
  | create site endpoint rack shelf =>
    simp only [route, Registry.serve, Registry.screen]
    cases requireLogin endpoint.user endpoint.password with
    | error x => rfl
    | ok _ =>
      simp only [Route.look, Route.run, id]
      by_cases hthere : g.entries.contains site = true
      · simp only [if_pos hthere]
        rfl
      · simp only [if_neg hthere, Route.run, run_founding]
        rfl
  | change site what =>
    simp only [route, Registry.serve]
    cases hfound : g.entries.find? site with
    | none =>
      have hscreen := Visit.screen_of_none (v := .change site what) hfound
      rcases g.screen_change site what with ⟨x, hrefused⟩ | ⟨_, e, hthere⟩
      · rw [Visit.screen, hrefused] at hscreen
        cases hlogin : (Visit.change site what).checkLogin with
        | error y =>
          rw [hlogin] at hscreen
          cases hscreen
          simp only [hrefused, Route.run]
          rfl
        | ok _ =>
          rw [hlogin] at hscreen
          cases hscreen
          simp only [hrefused, Route.look, Route.run, id, entry_of_none hfound]
          rfl
      · rw [hfound] at hthere
        cases hthere
    | some e =>
      have hscreen := Visit.screen_of_some (v := .change site what) hfound
      rcases g.screen_change site what with ⟨x, hrefused⟩ | ⟨hgo, _⟩
      · rw [Visit.screen, hrefused] at hscreen
        rw [← hscreen]
        simp only [hrefused, Except.map, Route.run]
      · rw [Visit.screen, hgo] at hscreen
        rw [← hscreen]
        simp only [hgo, Except.map, Route.look, Route.run, id, entry_of_some hfound]
        -- The task takes the lock and goes through the turn of the change.
        obtain ⟨result, hfinish, hanswer⟩ := Turn.along_change (o := o) (s := s) what hfound
        rw [Visit.run_route _ _ hfound]
        simp only [Visit.turn, Visit.site, hanswer, Route.run, hfinish, Duty.ofVisit]
        cases result <;> rfl

/-- **An operation by itself**: its route comes to what the registry does in one go. -/
theorem Duty.run_route (d : Duty) (o : Outside σ) (g : Registry) (s : σ) :
    d.route.run o g s = d.alone o g s := by
  have hahead := Route.ahead_entries g
  cases d with
  | request r => exact r.run_route
  | ask q =>
    simp only [route, alone, Route.look, Route.run, id, Registry.ask]
    cases hfound : g.entries.find? q.site with
    | none =>
      rw [entry_of_none hfound]
      rfl
    | some e =>
      rw [entry_of_some hfound]
      simp only
      rw [Visit.run_route (.query q) _ hfound]
      simp only [Visit.turn, Turn.along, id, put_find? hfound, Visit.site, Route.run, ofVisit,
        bind, Except.bind]
      cases e.record.find q with
      | error x => rfl
      | ok f => rfl
  | sites => rfl
  | dirtySites => exact Route.run_pass_dirty hahead _ []
  | inventories => exact Route.run_pass_inventories hahead _ []
  | reflow => exact Route.run_pass_reflow hahead (fun report => .finish (.ok (.reflowed report))) {}
  | flush => exact Route.run_pass_flush hahead (fun report => .finish (.ok (.flushed report))) {}
  | restore =>
    simp only [route, alone, Route.run, Outside.reply, Registry.restore]
    cases o.sink.load s with
    | error x => rfl
    | ok blobs => rfl

end ChassisRegistry
