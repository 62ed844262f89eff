import ChassisRegistry.Proofs.TerminalMachine
import ChassisRegistry.Proofs.Visits

/-! # A registry at work

    A registry between the provisioning system and a sink. Changes of several
    sites overlap in any order, and so do creations and the turns that sites
    have in a flush. A change holds the lock of its site from its plan to its
    end, so of each site there is one change on the way at most, and a flush
    passes by a site between two changes.

    Beside the registry stands what the two outside have seen of it: the calls
    that were accepted, and the records that the sink has taken.

    Main statement: `Traffic.Sound.moves`, all that an event can do. -/

namespace ChassisRegistry

/-! ## Section 1: Changes that are carried out -/

theorem Machine.site_after (m : Machine) (what : Change) : (m.after what).site = m.site := by
  unfold after
  split
  · rfl
  · split <;> rfl
  · split <;> rfl

namespace Record

variable {r : Record}

/-- No change moves a record to another site. -/
theorem Coherent.site_after (h : r.Coherent) (what : Change) : (r.after what).site = r.site := by
  have hsite := congrArg Machine.site (h.machine_after what)
  rw [Machine.site_after] at hsite
  exact hsite

/-- What was planned on a record is carried out on it without a failure. -/
theorem Coherent.carryOut_plan (h : r.Coherent) {what : Change} {plan : Plan}
    (hplan : r.plan what = .ok plan) :
    ∃ answer, r.carryOut plan = (.ok answer, r.after what) := by
  cases what with
  | login user password =>
    cases hplan
    exact ⟨.done, rfl⟩
  | attach driver address hostname =>
    cases hdescribe : r.describeCard driver address hostname with
    | error e => simp [Record.plan, hdescribe, Except.map] at hplan
    | ok notice =>
      obtain ⟨hfit, hname⟩ := of_describeCard hdescribe
      have hattach := h.attachCard_accepted hfit hname address
      have hinstall : r.installCard notice = r.attachCard driver address hostname := by
        rw [Record.attachCard, hdescribe]
      simp only [Record.plan, hdescribe, Except.map, Except.ok.injEq] at hplan
      subst hplan
      exact ⟨.card (r.physical.cards.length + 1), by
        simp only [carryOut, hinstall, hattach, Record.after, Except.map]⟩
  | terminal c request =>
    cases hrespond : r.machine.respond c request with
    | error e => simp [Record.plan, h.prepare_refused hrespond, Except.map] at hplan
    | ok cell =>
      obtain ⟨here, t, _, _, _, hprepare, hcommit⟩ := h.prepare_commit hrespond
      simp only [Record.plan, hprepare, Except.map, Except.ok.injEq] at hplan
      subst hplan
      exact ⟨.state cell.state, by
        simp only [carryOut, hcommit, Record.after, hprepare, Except.map]⟩

end Record

/-- A planned change is carried out and marks its site. -/
theorem Entry.resume_plan {e : Entry} (h : e.record.Coherent) {what : Change} {plan : Plan}
    (hplan : e.record.plan what = .ok plan) :
    (e.resume plan (.ok ())).2 = ⟨e.record.after what, true⟩ := by
  obtain ⟨answer, hcarry⟩ := h.carryOut_plan hplan
  simp only [resume, hcarry]

/-! ## Section 2: Traffic -/

/-- A change that holds the lock of its site and waits for the provisioning system. -/
structure Flight where
  call     : Call
  rest     : Pending
  /-- Its call was accepted, and it is still to be carried out. -/
  accepted : Bool

/-- A registry at work. -/
structure Traffic (σ : Type) where
  registry : Registry
  sink     : σ
  /-- The changes on the way. -/
  flight   : Site → Option Flight
  /-- The calls that were accepted, in order. -/
  log      : List Call
  /-- The records that the sink took, in order. -/
  stored   : List (Site × Record)

namespace Traffic

/-- What may come next. An event that cannot come is one that changes nothing. -/
inductive Event where
  /-- A creation comes to its end with the reply to its call. It holds no lock and changes nothing
      before, so it may have been screened at any time. -/
  | create (site : Site) (endpoint : Endpoint) (rack shelf : UInt32)
      (reply : Except ProvisionerError Unit)
  /-- A change gets the lock of its site and makes its plan. -/
  | change (site : Site) (what : Change)
  /-- The reply to the call of the change that holds the lock. -/
  | reply (site : Site) (reply : Except ProvisionerError Unit)
  /-- The change whose call was accepted is carried out. -/
  | finish (site : Site)
  /-- The turn of the site in a flush. -/
  | flush (site : Site)

variable {σ : Type}

/-- No sites, nothing on the way, and nothing seen yet. -/
def start (s : σ) : Traffic σ := ⟨.empty, s, fun _ => none, [], []⟩

/-- A creation comes to its end. -/
def create (w : Traffic σ) (site : Site) (endpoint : Endpoint) (rack shelf : UInt32)
    (reply : Except ProvisionerError Unit) : Traffic σ :=
  { w with
    registry := (w.registry.resume (.create site endpoint rack shelf)
      (Registry.replyTo (.login endpoint) reply)).2
    log := match reply with
      | .ok () => w.log ++ [.login endpoint]
      | .error _ => w.log }

/-- A change is screened and started. -/
def change (w : Traffic σ) (site : Site) (what : Change) : Traffic σ :=
  match w.registry.screen (.change site what) with
  | .ok none =>
      match w.registry.start (.change site what) with
      | .settled _ after => { w with registry := after }
      | .waiting call rest =>
          { w with flight := Function.update w.flight site (some ⟨call, rest, false⟩) }
  | _ => w

/-- A change is resumed, and gives the lock back. -/
def settle (w : Traffic σ) (site : Site) (f : Flight) (reply : Except ChassisError Unit) :
    Traffic σ :=
  { w with
    registry := (w.registry.resume f.rest reply).2
    flight   := Function.update w.flight site none }

/-- A site is offered to the sink. -/
def flush (sink : Sink σ) (w : Traffic σ) (site : Site) (e : Entry) : Traffic σ :=
  let (report, g, s) := w.registry.flushEntry sink {} w.sink site e
  { w with
    registry := g
    sink     := s
    stored   := if report.stored = 1 then w.stored ++ [(site, e.record)] else w.stored }

/-- The traffic after an event. -/
def step (sink : Sink σ) (w : Traffic σ) : Event → Traffic σ
  | .create site endpoint rack shelf reply => w.create site endpoint rack shelf reply
  | .change site what =>
      match w.flight site with
      | none => w.change site what
      | some _ => w
  | .reply site reply =>
      match w.flight site with
      | none => w
      | some f =>
          if f.accepted then w
          else
            match reply with
            | .ok () =>
                { w with
                  flight := Function.update w.flight site (some { f with accepted := true })
                  log    := w.log ++ [f.call] }
            | .error x => w.settle site f (Registry.replyTo f.call (.error x))
  | .finish site =>
      match w.flight site with
      | none => w
      | some f => if f.accepted then w.settle site f (.ok ()) else w
  | .flush site =>
      match w.flight site, w.registry.entries.find? site with
      | none, some e => w.flush sink site e
      | _, _ => w

/-! ## Section 3: All that an event can do -/

/-- What is known of the registry and of the changes on the way. -/
structure Sound (w : Traffic σ) : Prop where
  coherent : ∀ {site e}, w.registry.entries.find? site = some e → e.record.Coherent
  /-- Every record is the one of its site. -/
  named    : ∀ {site e}, w.registry.entries.find? site = some e → e.record.site = site
  /-- A change that waits was planned on the record as it is. -/
  planned  : ∀ {site f}, w.flight site = some f →
    ∃ e what plan, w.registry.entries.find? site = some e ∧ e.record.plan what = .ok plan ∧
      plan.call? = some f.call ∧ f.rest = .change site plan

/-- The ways in which the traffic goes on. -/
inductive Moves (sink : Sink σ) (w : Traffic σ) : Traffic σ → Prop where
  | idle : Moves sink w w
  /-- A login is accepted for a site that is there already. -/
  | present (endpoint : Endpoint) : Moves sink w { w with log := w.log ++ [.login endpoint] }
  | created {site : Site} (endpoint : Endpoint) (rack shelf : UInt32)
      (hnone : w.registry.entries.find? site = none) :
      Moves sink w { w with
        registry := w.registry.put site ⟨.create site endpoint rack shelf, true⟩
        log      := w.log ++ [.login endpoint] }
  /-- A change is planned that has a call. -/
  | planned {site : Site} {e : Entry} {what : Change} {plan : Plan} {call : Call}
      (hfree : w.flight site = none) (hfound : w.registry.entries.find? site = some e)
      (hplan : e.record.plan what = .ok plan) (hcall : plan.call? = some call) :
      Moves sink w { w with
        flight := Function.update w.flight site (some ⟨call, .change site plan, false⟩) }
  /-- A change has no call, and is carried out at once. -/
  | silent {site : Site} {e : Entry} {what : Change} {plan : Plan}
      (hfree : w.flight site = none) (hfound : w.registry.entries.find? site = some e)
      (hplan : e.record.plan what = .ok plan) (hcall : plan.call? = none) :
      Moves sink w { w with registry := w.registry.put site ⟨e.record.after what, true⟩ }
  | accepted {site : Site} {f : Flight} (hflight : w.flight site = some f)
      (hwaits : f.accepted = false) :
      Moves sink w { w with
        flight := Function.update w.flight site (some { f with accepted := true })
        log    := w.log ++ [f.call] }
  | refused {site : Site} {f : Flight} (hflight : w.flight site = some f)
      (hwaits : f.accepted = false) :
      Moves sink w { w with flight := Function.update w.flight site none }
  | finished {site : Site} {f : Flight} {e : Entry} {what : Change} {plan : Plan}
      (hflight : w.flight site = some f) (haccepted : f.accepted = true)
      (hfound : w.registry.entries.find? site = some e)
      (hplan : e.record.plan what = .ok plan) (hrest : f.rest = .change site plan) :
      Moves sink w { w with
        registry := w.registry.put site ⟨e.record.after what, true⟩
        flight   := Function.update w.flight site none }
  | stored {site : Site} {e : Entry} {s : σ} (hfree : w.flight site = none)
      (hfound : w.registry.entries.find? site = some e)
      (hstore : sink.store site (Snapshot.write e.record).toUTF8 w.sink = (.ok (), s)) :
      Moves sink w { w with
        registry := w.registry.put site { e with dirty := false }
        sink     := s
        stored   := w.stored ++ [(site, e.record)] }
  | failed {site : Site} {e : Entry} {x : SinkError} {s : σ}
      (hfound : w.registry.entries.find? site = some e)
      (hstore : sink.store site (Snapshot.write e.record).toUTF8 w.sink = (.error x, s)) :
      Moves sink w { w with sink := s }

variable {sink : Sink σ} {w w' : Traffic σ}

theorem moves_create (site : Site) (endpoint : Endpoint) (rack shelf : UInt32)
    (reply : Except ProvisionerError Unit) :
    Moves sink w (w.create site endpoint rack shelf reply) := by
  cases reply with
  | error x => exact .idle
  | ok _ =>
    unfold create
    simp only [Registry.replyTo, Except.mapError, Registry.resume]
    by_cases hthere : w.registry.entries.contains site = true
    · rw [if_pos hthere]
      exact .present endpoint
    · rw [if_neg hthere]
      exact .created endpoint rack shelf (by simpa [SiteMap.contains] using hthere)

theorem Sound.moves_change (h : w.Sound) {site : Site} (hfree : w.flight site = none)
    (what : Change) : Moves sink w (w.change site what) := by
  unfold change
  rcases w.registry.screen_change site what with ⟨x, hscreen⟩ | ⟨hscreen, e, hfound⟩
  · simp only [hscreen]
    exact .idle
  · simp only [hscreen, Registry.start, Registry.entry_of_some hfound]
    cases hplan : e.record.plan what with
    | error x => exact .idle
    | ok plan =>
      cases hcall : plan.call? with
      | some call =>
        simp only [hcall]
        exact .planned hfree hfound hplan hcall
      | none =>
        simp only [hcall, Registry.settle_of_some hfound,
          Entry.resume_plan (h.coherent hfound) hplan]
        exact .silent hfree hfound hplan hcall

theorem Sound.moves_settle (h : w.Sound) {site : Site} {f : Flight}
    (hflight : w.flight site = some f) :
    (f.accepted = false → ∀ x, Moves sink w (w.settle site f (.error x))) ∧
      (f.accepted = true → Moves sink w (w.settle site f (.ok ()))) := by
  obtain ⟨e, what, plan, hfound, hplan, _, hrest⟩ := h.planned hflight
  constructor
  · intro hwaits x
    have hsame : (w.registry.settle site plan (.error x)).2 = w.registry := by
      rw [Registry.settle_of_some hfound]
      exact Registry.put_find? hfound
    simp only [settle, hrest, Registry.resume, hsame]
    exact .refused hflight hwaits
  · intro haccepted
    simp only [settle, hrest, Registry.resume, Registry.settle_of_some hfound,
      Entry.resume_plan (h.coherent hfound) hplan]
    exact .finished hflight haccepted hfound hplan hrest

theorem moves_flush {site : Site} {e : Entry} (hfree : w.flight site = none)
    (hfound : w.registry.entries.find? site = some e) : Moves sink w (w.flush sink site e) := by
  rcases Registry.offer_cases sink site e w.sink with
    hclean | ⟨s, hdirty, hstore⟩ | ⟨x, s, hdirty, hstore⟩
  · rw [flush, Registry.flushEntry_clean hclean]
    exact .idle
  · rw [flush, Registry.flushEntry_stored hdirty hstore]
    exact .stored hfree hfound hstore
  · rw [flush, Registry.flushEntry_failed hdirty hstore]
    exact .failed hfound hstore

/-- Whatever comes next is one of the moves. -/
theorem Sound.moves (h : w.Sound) (event : Event) : Moves sink w (w.step sink event) := by
  cases event with
  | create site endpoint rack shelf reply => exact moves_create site endpoint rack shelf reply
  | change site what =>
    simp only [step]
    cases hflight : w.flight site with
    | some f => exact .idle
    | none => exact h.moves_change hflight what
  | reply site reply =>
    simp only [step]
    cases hflight : w.flight site with
    | none => exact .idle
    | some f =>
      cases hwaits : f.accepted with
      | true =>
        simp only [hwaits, if_true]
        exact .idle
      | false =>
        simp only [hwaits, Bool.false_eq_true, if_false]
        cases reply with
        | ok _ => exact .accepted hflight hwaits
        | error x => exact (h.moves_settle hflight).1 hwaits _
  | finish site =>
    simp only [step]
    cases hflight : w.flight site with
    | none => exact .idle
    | some f =>
      cases haccepted : f.accepted with
      | true =>
        simp only [haccepted, if_true]
        exact (h.moves_settle hflight).2 haccepted
      | false =>
        simp only [haccepted, Bool.false_eq_true, if_false]
        exact .idle
  | flush site =>
    simp only [step]
    cases hflight : w.flight site with
    | some f => exact .idle
    | none =>
      cases hfound : w.registry.entries.find? site with
      | none => exact .idle
      | some e => exact moves_flush hflight hfound

/-! ## Section 4: Every run -/

theorem find?_put (g : Registry) (site : Site) (e : Entry) :
    (g.put site e).entries.find? = Function.update g.entries.find? site (some e) := by
  funext other
  by_cases heq : other = site
  · rw [heq, Function.update_self]
    exact SiteMap.find?_insert_self _ _ _
  · rw [Function.update_of_ne heq]
    exact SiteMap.find?_insert_of_ne heq _ _

theorem sound_start (s : σ) : Sound (start s) where
  coherent := nofun
  named    := nofun
  planned  := nofun

/-- A site without a change on the way may get any entry that is coherent and its own. -/
theorem Sound.put (h : w.Sound) {site : Site} {e : Entry} (hcoherent : e.record.Coherent)
    (hnamed : e.record.site = site) {s : σ} {flight : Site → Option Flight} {log : List Call}
    {stored : List (Site × Record)} (hfree : flight site = none)
    (hothers : ∀ other, other ≠ site → flight other = w.flight other) :
    Sound (⟨w.registry.put site e, s, flight, log, stored⟩ : Traffic σ) where
  coherent := by
    intro other e' hfound
    rw [find?_put] at hfound
    by_cases heq : other = site
    · rw [heq, Function.update_self, Option.some.injEq] at hfound
      exact hfound ▸ hcoherent
    · rw [Function.update_of_ne heq] at hfound
      exact h.coherent hfound
  named := by
    intro other e' hfound
    rw [find?_put] at hfound
    by_cases heq : other = site
    · rw [heq, Function.update_self, Option.some.injEq] at hfound
      rw [heq, ← hfound, hnamed]
    · rw [Function.update_of_ne heq] at hfound
      exact h.named hfound
  planned := by
    intro other f hflight
    change flight other = some f at hflight
    by_cases heq : other = site
    · rw [heq, hfree] at hflight
      cases hflight
    · rw [hothers other heq] at hflight
      obtain ⟨e', what, plan, hfound, hplan⟩ := h.planned hflight
      exact ⟨e', what, plan, by rw [find?_put, Function.update_of_ne heq, hfound], hplan⟩

/-- A site may get a change on the way that is planned on its record. -/
theorem Sound.fly (h : w.Sound) {site : Site} {flown : Option Flight} {log : List Call}
    (hplanned : ∀ f, flown = some f → ∃ e what plan, w.registry.entries.find? site = some e ∧
      e.record.plan what = .ok plan ∧ plan.call? = some f.call ∧ f.rest = .change site plan) :
    Sound { w with flight := Function.update w.flight site flown, log := log } where
  coherent := h.coherent
  named    := h.named
  planned  := by
    intro other f hflight
    simp only [Function.update_apply] at hflight
    split at hflight
    · next heq =>
      rw [heq]
      exact hplanned f hflight
    · exact h.planned hflight

/-- A site that is not there has no change on the way. -/
theorem Sound.flight_eq_none (h : w.Sound) {site : Site}
    (hnone : w.registry.entries.find? site = none) : w.flight site = none := by
  cases hflight : w.flight site with
  | none => rfl
  | some f =>
    obtain ⟨e, _, _, hfound, _⟩ := h.planned hflight
    rw [hnone] at hfound
    cases hfound

theorem Moves.sound (hmoves : Moves sink w w') (h : w.Sound) : w'.Sound := by
  -- An entry is put in place where no change is on the way, or a change gets on its way or leaves.
  cases hmoves with
  | idle => exact h
  | present endpoint => exact ⟨h.coherent, h.named, h.planned⟩
  | created endpoint rack shelf hnone =>
    have hfree := h.flight_eq_none hnone
    refine h.put ?_ ?_ hfree fun _ _ => rfl
    · exact Record.coherent_create _ _ _ _
    · rfl
  | planned hfree hfound hplan hcall =>
    refine h.fly ?_
    intro f hf
    cases hf
    exact ⟨_, _, _, hfound, hplan, hcall, rfl⟩
  | silent hfree hfound hplan hcall =>
    refine h.put ((h.coherent hfound).after _) ?_ hfree fun _ _ => rfl
    rw [(h.coherent hfound).site_after, h.named hfound]
  | accepted hflight hwaits =>
    obtain ⟨e, what, plan, hplanned⟩ := h.planned hflight
    refine h.fly ?_
    intro f hf
    cases hf
    exact ⟨e, what, plan, hplanned⟩
  | refused hflight hwaits =>
    refine h.fly ?_
    intro f hf
    cases hf
  | finished hflight haccepted hfound hplan hrest =>
    refine h.put ((h.coherent hfound).after _) ?_ (Function.update_self ..)
      fun _ hne => Function.update_of_ne hne ..
    rw [(h.coherent hfound).site_after, h.named hfound]
  | stored hfree hfound hstore =>
    have hcoherent := h.coherent hfound
    have hnamed := h.named hfound
    refine h.put ?_ ?_ hfree fun _ _ => rfl
    · exact hcoherent
    · exact hnamed
  | failed hfound hstore => exact ⟨h.coherent, h.named, h.planned⟩

/-! ## Section 5: Whole operations -/

/-- A request that is served while its site is free is a run of events. -/
theorem exists_run_of_serve {τ : Type} (sink : Sink σ) (w : Traffic σ) (request : Request)
    (hfree : ∀ site, request.held? = some site → w.flight site = none) (p : Provisioner τ) (s : τ) :
    ∃ events : List Event, (events.foldl (step sink) w).registry =
      (w.registry.serve request p s).2.1 := by
  cases request with
  | create site endpoint rack shelf =>
    unfold Registry.serve
    split
    · exact ⟨[], rfl⟩
    · exact ⟨[], rfl⟩
    · exact ⟨[.create site endpoint rack shelf (p (.login endpoint) s).1], rfl⟩
  | change site what =>
    have hfree := hfree site rfl
    unfold Registry.serve
    rcases w.registry.screen_change site what with ⟨x, hscreen⟩ | ⟨hscreen, e, hfound⟩
    · exact ⟨[], by rw [hscreen]; rfl⟩
    · simp only [hscreen, Registry.finish, Registry.start, Registry.entry_of_some hfound]
      -- The events are as many as the change has steps.
      cases hplan : e.record.plan what with
      | error x => exact ⟨[], rfl⟩
      | ok plan =>
        cases hcall : plan.call? with
        | none =>
          refine ⟨[.change site what], ?_⟩
          simp only [List.foldl, step, hfree, change, hscreen, Registry.start,
            Registry.entry_of_some hfound, hplan, hcall]
        | some call =>
          have hplanned : step sink w (.change site what) = { w with
              flight := Function.update w.flight site (some ⟨call, .change site plan, false⟩) } := by
            simp only [step, hfree, change, hscreen, Registry.start,
              Registry.entry_of_some hfound, hplan, hcall]
          rcases hreply : p call s with ⟨reply, s'⟩
          cases reply with
          | error x =>
            refine ⟨[.change site what, .reply site (.error x)], ?_⟩
            rw [List.foldl_cons, hplanned]
            simp [step, settle, hcall, hreply]
          | ok _ =>
            refine ⟨[.change site what, .reply site (.ok ()), .finish site], ?_⟩
            rw [List.foldl_cons, hplanned]
            simp [step, settle, hcall, hreply, Registry.replyTo, Except.mapError]

/-- The turn of a site does what the flush does with its entry, whatever was counted before. -/
theorem flush_eq (sink : Sink σ) (w : Traffic σ) (site : Site) (e : Entry)
    (report : FlushReport) :
    (w.flush sink site e).registry = (w.registry.flushEntry sink report w.sink site e).2.1 ∧
      (w.flush sink site e).sink = (w.registry.flushEntry sink report w.sink site e).2.2 := by
  rcases Registry.offer_cases sink site e w.sink with
    hclean | ⟨s, hdirty, hstore⟩ | ⟨x, s, hdirty, hstore⟩
  · simp only [flush, Registry.flushEntry_clean hclean, and_self]
  · simp only [flush, Registry.flushEntry_stored hdirty hstore, and_self]
  · simp only [flush, Registry.flushEntry_failed hdirty hstore, and_self]

theorem flushEntry_find? (sink : Sink σ) (report : FlushReport) (g : Registry) (s : σ)
    {site other : Site} (hne : other ≠ site) (e : Entry) :
    (g.flushEntry sink report s site e).2.1.entries.find? other = g.entries.find? other := by
  rcases Registry.offer_cases sink site e s with
    hclean | ⟨s', hdirty, hstore⟩ | ⟨x, s', hdirty, hstore⟩
  · rw [Registry.flushEntry_clean hclean]
  · rw [Registry.flushEntry_stored hdirty hstore]
    exact SiteMap.find?_insert_of_ne hne _ _
  · rw [Registry.flushEntry_failed hdirty hstore]

/-- Flushing entries is giving each of their sites its turn. -/
theorem flushEach_eq_run (sink : Sink σ) {xs : List (Site × Entry)}
    (hnodup : (xs.map Prod.fst).Nodup) (report : FlushReport) (w : Traffic σ)
    (hfree : ∀ site, w.flight site = none)
    (hfound : ∀ site e, (site, e) ∈ xs → w.registry.entries.find? site = some e) :
    let w' := ((xs.map Prod.fst).map Event.flush).foldl (step sink) w
    (w'.registry, w'.sink) = (Registry.flushEach sink xs report w.registry w.sink).2 := by
  induction xs generalizing report w with
  | nil => rfl
  | cons head rest ih =>
    obtain ⟨site, e⟩ := head
    obtain ⟨hfresh, hrest⟩ := List.nodup_cons.mp hnodup
    have hturn : step sink w (.flush site) = w.flush sink site e := by
      simp only [step, hfree, hfound site e (List.mem_cons_self ..)]
    obtain ⟨hregistry, hsink⟩ := flush_eq sink w site e report
    have hbehind : ∀ other e', (other, e') ∈ rest →
        (w.flush sink site e).registry.entries.find? other = some e' := by
      intro other e' hmem
      rw [hregistry, flushEntry_find? sink report _ _ (SiteMap.ne_of_mem hmem hfresh),
        hfound other e' (.tail _ hmem)]
    have hrun := ih hrest (w.registry.flushEntry sink report w.sink site e).1
      (w.flush sink site e) hfree hbehind
    simp only [List.map_cons, List.foldl_cons, hturn]
    rw [hrun, hregistry, hsink]
    rfl

/-- A flush without a change on the way is a run of the turns of all sites. -/
theorem flush_eq_run (sink : Sink σ) (w : Traffic σ) (hfree : ∀ site, w.flight site = none) :
    let w' := (w.registry.entries.sites.map Event.flush).foldl (step sink) w
    (w'.registry, w'.sink) = (w.registry.flush sink w.sink).2 :=
  flushEach_eq_run sink w.registry.entries.nodup {} w hfree
    fun _ _ hmem => SiteMap.lookup_of_mem w.registry.entries.nodup hmem

end Traffic

end ChassisRegistry
