import ChassisRegistry.Proofs.Abandonment
import ChassisRegistry.Proofs.ActiveTerminals

/-! # Internal errors

    An internal error says that a record does not fit itself: a port is bound
    to one that is missing, the cursor has left the chassis, a number came
    twice. The halves of a coherent record fit, so whatever is asked of it is
    refused, if at all, for the request or for the present state; and what it
    was prepared for is carried out.

    A registry keeps its records coherent, and between preparing a change and
    carrying it out nobody else writes the record. So no operation is ever
    answered with an internal error, whatever else is under way.

    Main statement: `Record.Reachable.faultless`. -/

namespace ChassisRegistry

/-! ## Section 1: Records -/

/-- The rules of the machine refuse a request for the present state or for a blank serial
    number. -/
theorem Machine.error_of_respond {m : Machine} {c : TerminalCoordinate} {request : TerminalRequest}
    {x : ChassisError} (hrespond : m.respond c request = .error x) :
    x.isStateConflict = true ∨ x = .blank "serial" := by
  have hactivated : ∀ {serial service}, activated serial service = .error x →
      x = .blank "serial" := by
    intro serial service hrefused
    unfold activated at hrefused
    split at hrefused
    · cases hrefused
      rfl
    · cases hrefused
  unfold respond at hrespond
  split at hrespond
  · cases hrespond
    exact Or.inl rfl
  · cases hrespond
  · cases hrespond
    exact Or.inl rfl
  · cases hrespond
    exact Or.inl rfl
  · exact Or.inr (hactivated hrespond)
  · exact Or.inr (hactivated hrespond)
  · exact Or.inr (hactivated hrespond)
  · cases hrespond

namespace Record

variable {r : Record} {c : TerminalCoordinate} {request : TerminalRequest} {x : ChassisError}

/-- A card is turned down for want of ports or of a host name. -/
theorem Coherent.error_of_describeCard (h : r.Coherent) {driver : CardDriver}
    {address : SocketAddress} {hostname : String}
    (hdescribe : r.describeCard driver address hostname = .error x) :
    x.isStateConflict = true ∨ x = .blank "hostname" := by
  by_cases hrefused : r.logical.remaining < driver.portCount ∨ Text.allBlank hostname = true
  · rw [describeCard_refused hrefused, Except.error.injEq] at hdescribe
    subst hdescribe
    split
    · exact Or.inl rfl
    · exact Or.inr rfl
  · rw [not_or, Nat.not_lt, Bool.not_eq_true] at hrefused
    -- A card that is attached was described.
    have hattach := h.attachCard_accepted hrefused.1 hrefused.2 address
    rw [Record.attachCard, hdescribe] at hattach
    cases hattach

/-- What is prepared for a terminal is refused for its state or for a blank serial number. -/
theorem Coherent.error_of_prepare (h : r.Coherent) (hprepare : r.prepare c request = .error x) :
    x.isStateConflict = true ∨ x = .blank "serial" := by
  cases hrespond : r.machine.respond c request with
  | error y =>
    rw [h.prepare_refused hrespond, Except.error.injEq] at hprepare
    exact hprepare ▸ Machine.error_of_respond hrespond
  | ok cell =>
    obtain ⟨_, t, _, _, _, hprepared, _⟩ := h.prepare_commit hrespond
    rw [hprepared] at hprepare
    cases hprepare

/-- A card that was described is installed under the number of its notice. -/
theorem Coherent.installCard_described (h : r.Coherent) {driver : CardDriver}
    {address : SocketAddress} {hostname : String} {notice : CardNotice}
    (hdescribe : r.describeCard driver address hostname = .ok notice) :
    r.installCard notice = (.ok notice.number, r.withNextCard driver address hostname) := by
  obtain ⟨hfit, hname⟩ := of_describeCard hdescribe
  have hattach := h.attachCard_accepted hfit hname address
  rw [Record.attachCard, hdescribe] at hattach
  have hattach : r.installCard notice = _ := hattach
  -- The notice and the card have got their numbers from the same count.
  have hnumber : notice.number = r.physical.cards.length + 1 := by
    simp only [describeCard, if_neg (Nat.not_lt.mpr hfit), hname, Bool.false_eq_true, if_false,
      Physical.Chassis.nextNumber] at hdescribe
    split at hdescribe
    · cases hdescribe
      rfl
    · cases hdescribe
  rw [hattach, hnumber]

/-- What was prepared is committed, and the terminal is then in the state that is answered. -/
theorem Coherent.commit_prepared (h : r.Coherent) {t : Transition}
    (hprepare : r.prepare c request = .ok t) :
    ∃ state r', r.commit t = (.ok state, r') ∧ r'.terminalState c = state := by
  cases hrespond : r.machine.respond c request with
  | error y =>
    rw [h.prepare_refused hrespond] at hprepare
    cases hprepare
  | ok cell =>
    obtain ⟨here, t', hbound, _, _, hprepared, hcommit⟩ := h.prepare_commit hrespond
    rw [hprepared, Except.ok.injEq] at hprepare
    subst hprepare
    refine ⟨_, _, hcommit, ?_⟩
    rw [(h.of_commit hcommit).terminalState_eq, h.cell?_writeCell hbound, Function.update_self]
    rfl

/-- Nothing that is asked of a record is answered with an internal error, and what it was prepared
    for succeeds. -/
structure NoFault (r : Record) : Prop where
  describes : ∀ driver address hostname fault,
    r.describeCard driver address hostname ≠ .error (.internal fault)
  attaches  : ∀ driver address hostname fault,
    (r.attachCard driver address hostname).1 ≠ .error (.internal fault)
  /-- A card that was described gets the number that it was described with. -/
  installs  : ∀ driver address hostname notice,
    r.describeCard driver address hostname = .ok notice →
      (r.installCard notice).1 = .ok notice.number
  prepares  : ∀ c request fault, r.prepare c request ≠ .error (.internal fault)
  /-- A transition that was prepared leaves its terminal in the state that is answered. -/
  commits   : ∀ c request t, r.prepare c request = .ok t →
    ∃ state r', r.commit t = (.ok state, r') ∧ r'.terminalState c = state
  /-- The notices of the active terminals can always be made. -/
  tells     : ∃ notices, r.activeNotices = .ok notices

theorem Coherent.noFault (h : r.Coherent) : r.NoFault where
  describes driver address hostname fault hdescribe := by
    rcases h.error_of_describeCard hdescribe with hconflict | hblank
    · cases hconflict
    · cases hblank
  attaches driver address hostname fault hattach := by
    rw [h.attachCard_eq] at hattach
    split at hattach
    · cases hattach
    · split at hattach <;> cases hattach
  installs driver address hostname notice hdescribe := by rw [h.installCard_described hdescribe]
  prepares c request fault hprepare := by
    rcases h.error_of_prepare hprepare with hconflict | hblank
    · cases hconflict
    · cases hblank
  commits c request t hprepare := h.commit_prepared hprepare
  tells := ⟨_, h.activeNotices_eq⟩

/-- No change is planned into an internal error. -/
theorem Coherent.plan_ne_internal (h : r.Coherent) (what : Change) (fault : InternalFault) :
    r.plan what ≠ .error (.internal fault) := by
  intro hplan
  cases what with
  | login user password => cases hplan
  | attach driver address hostname =>
    cases hdescribe : r.describeCard driver address hostname with
    | ok notice => simp [plan, hdescribe, Except.map] at hplan
    | error y =>
      simp only [plan, hdescribe, Except.map, Except.error.injEq] at hplan
      exact h.noFault.describes _ _ _ fault (hplan ▸ hdescribe)
  | terminal c request =>
    cases hprepare : r.prepare c request with
    | ok t => simp [plan, hprepare, Except.map] at hplan
    | error y =>
      simp only [plan, hprepare, Except.map, Except.error.injEq] at hplan
      exact h.noFault.prepares _ _ fault (hplan ▸ hprepare)

/-- No question is answered with an internal error, whatever the record is. -/
theorem find_ne_internal (r : Record) (q : Query) (fault : InternalFault) :
    r.find q ≠ .error (.internal fault) := by
  intro hfind
  cases q with
  | card site number =>
    simp only [find, card] at hfind
    split at hfind <;> cases hfind
  | _ => cases hfind

end Record

/-! ## Section 2: Results and turns -/

/-- The result is no internal error. -/
def NoFault {α : Type} (result : Except RegistryError α) : Prop :=
  ∀ fault, result ≠ .error (.chassis (.internal fault))

theorem noFault_ok {α : Type} (a : α) : NoFault (.ok a) := by
  intro fault hresult
  cases hresult

theorem noFault_chassis {α β : Type} {result : Except ChassisError α}
    (h : ∀ fault, result ≠ .error (.internal fault)) (f : α → β) :
    NoFault ((result.mapError .chassis).map f) := by
  intro fault hresult
  cases result with
  | ok a => cases hresult
  | error x =>
    cases hresult
    exact h fault rfl

/-- A refused call is an error of the outside. -/
theorem replyTo_ne_internal (call : Call) (reply : Except ProvisionerError Unit)
    (fault : InternalFault) : Registry.replyTo call reply ≠ .error (.internal fault) := by
  intro hreply
  cases reply <;> cases hreply

theorem noFault_map {α β : Type} {result : Except RegistryError α} (h : NoFault result)
    (f : α → β) : NoFault (result.map f) := by
  intro fault hresult
  cases result with
  | ok a => cases hresult
  | error x =>
    cases hresult
    exact h fault rfl

/-- Whatever the replies are, a turn does not end in an internal error. -/
def Turn.NoFault : Turn → Entry → Prop
  | access write next, e => (next e).NoFault (write e)
  | send _ next, e => ∀ reply, (next reply).NoFault e
  | leave result, _ => ChassisRegistry.NoFault result

namespace Turn

variable {e : Entry}

theorem noFault_commit (h : e.record.Coherent) {what : Change} {plan : Plan}
    (hplan : e.record.plan what = .ok plan) : (commit plan).NoFault e := by
  obtain ⟨answer, hcarry⟩ := h.carryOut_plan hplan
  simp only [commit, NoFault, hcarry]
  exact noFault_ok _

theorem noFault_change (h : e.record.Coherent) (what : Change) : (change what).NoFault e := by
  simp only [change, NoFault, id]
  cases hplan : e.record.plan what with
  | error x =>
    intro fault hresult
    cases hresult
    exact h.plan_ne_internal what fault hplan
  | ok plan =>
    -- The plan is carried out on the record that it was made for.
    have hcommit := noFault_commit h hplan
    cases hcall : plan.call? with
    | none =>
      simp only [hcall]
      exact hcommit
    | some call =>
      simp only [hcall]
      intro reply
      cases hreply : Registry.replyTo call reply with
      | error x =>
        simp only [hreply]
        intro fault hresult
        cases hresult
        exact replyTo_ne_internal call reply fault hreply
      | ok _ =>
        simp only [hreply]
        exact hcommit

theorem noFault_callEach (count : ReflowReport → Except ProvisionerError Unit → ReflowReport)
    (calls : List Call) (report : ReflowReport) {next : ReflowReport → Turn}
    (hnext : ∀ report, (next report).NoFault e) :
    (callEach count calls report next).NoFault e := by
  induction calls generalizing report with
  | nil => exact hnext report
  | cons call rest ih =>
    intro reply
    exact ih _

theorem noFault_reflow : reflow.NoFault e := by
  unfold reflow
  refine noFault_callEach _ _ _ fun report => ?_
  simp only [NoFault, id]
  cases e.record.activeNotices with
  | error x => exact noFault_ok _
  | ok notices => exact noFault_callEach _ _ _ fun _ => noFault_ok _

theorem noFault_flush : flush.NoFault e := by
  simp only [flush, NoFault, id]
  by_cases hdirty : e.dirty = true
  · rw [if_pos hdirty]
    intro reply
    cases reply with
    | error x => exact noFault_ok _
    | ok _ => exact noFault_ok _
  · rw [if_neg hdirty]
    exact noFault_ok _

end Turn

theorem Visit.noFault_turn (v : Visit) {e : Entry} (h : e.record.Coherent) :
    v.turn.NoFault e := by
  cases v with
  | change site what => exact Turn.noFault_change h what
  | query q => exact noFault_chassis (e.record.find_ne_internal q) _
  | inspect site => exact noFault_ok _
  | flush site => exact Turn.noFault_flush
  | reflow site => exact Turn.noFault_reflow

/-! ## Section 3: Errands and stations -/

/-- Whatever an errand meets, it does not end in an internal error. -/
def Errand.NoFault : Errand → Prop
  | look next => ∀ g, (next g).NoFault
  | settle _ reply => ∀ fault, reply ≠ .error (.internal fault)
  | enter _ turn => ∀ e : Entry, e.record.Coherent → turn.NoFault e
  | handOver work => work.NoFault
  | answer result => ChassisRegistry.NoFault result
  | ask _ _ | load | takeIn _ => True

theorem noFault_requireLogin (user password : String) : NoFault (requireLogin user password) := by
  intro fault hlogin
  unfold requireLogin at hlogin
  split at hlogin <;> cases hlogin

theorem Registry.noFault_entry (g : Registry) (site : Site) : NoFault (g.entry site) := by
  intro fault hentry
  unfold entry at hentry
  split at hentry <;> cases hentry

theorem Visit.noFault_checkLogin (v : Visit) : NoFault v.checkLogin := by
  unfold checkLogin
  split
  · exact noFault_requireLogin _ _
  · exact noFault_ok _

theorem Visit.noFault_screen (v : Visit) (g : Registry) : NoFault (v.screen g) := by
  cases hfound : g.entries.find? v.site with
  | some e =>
    rw [screen_of_some hfound]
    exact v.noFault_checkLogin
  | none =>
    rw [screen_of_none hfound]
    intro fault hscreen
    cases hlogin : v.checkLogin with
    | ok _ =>
      rw [hlogin] at hscreen
      cases hscreen
    | error x =>
      rw [hlogin] at hscreen
      cases hscreen
      exact v.noFault_checkLogin fault hlogin

theorem Registry.noFault_screen (g : Registry) (request : Request) :
    NoFault (g.screen request) := by
  intro fault hscreen
  cases request with
  | create site endpoint rack shelf =>
    cases hlogin : requireLogin endpoint.user endpoint.password with
    | ok _ => simp [screen, hlogin, bind, Except.bind, pure, Except.pure] at hscreen
    | error x =>
      simp only [screen, hlogin, bind, Except.bind, Except.error.injEq] at hscreen
      exact noFault_requireLogin _ _ fault (hscreen ▸ hlogin)
  | change site what =>
    refine (Visit.change site what).noFault_screen g fault ?_
    simp only [Visit.screen, hscreen, Except.map]

theorem Job.noFault_errand (j : Job) : j.errand.NoFault := by
  cases j with
  | request r =>
    intro g
    simp only [Request.screened]
    cases hscreen : g.screen r with
    | error x =>
      simp only
      intro fault hresult
      cases hresult
      exact g.noFault_screen r fault hscreen
    | ok found =>
      cases found with
      | some answer => exact noFault_ok _
      | none =>
        cases r with
        | create site endpoint rack shelf => trivial
        | change site what => exact fun e h => Turn.noFault_change h what
  | visit v =>
    intro g
    simp only [Visit.screened]
    cases hscreen : v.screen g with
    | error x =>
      simp only
      intro fault hresult
      cases hresult
      exact v.noFault_screen g fault hscreen
    | ok _ => exact fun e h => v.noFault_turn h
  | restore => trivial

variable {ι σ : Type}

/-- A party has not come to an internal error, and will not. -/
def Station.NoFault (g : Registry) : Station → Prop
  | ahead errand => errand.NoFault
  | queued _ turn => ∀ e : Entry, e.record.Coherent → turn.NoFault e
  | inside site turn => ∀ e, g.entries.find? site = some e → turn.NoFault e
  | waiting site m next => ∀ e, g.entries.find? site = some e → (Turn.send m next).NoFault e
  | done result => ChassisRegistry.NoFault result
  | absent | asking _ _ | joining | gone => True

/-- The steps of others do not lead a party to an internal error: the entry that it is at stays. -/
theorem Station.NoFault.of_spares {station : Station} {j : Job} {p q : Party ι}
    {h h' : Ground ι σ} (hnone : station.NoFault h.registry) (hserves : station.Serves j q h)
    (hspares : h.Spares p h') (hne : q ≠ p) : station.NoFault h'.registry := by
  have hsame : ∀ {site e e'}, h.holder site = some q → h.registry.entries.find? site = some e →
      h'.registry.entries.find? site = some e' → e' = e := by
    intro site e e' hheld hfound hfound'
    rw [hspares.kept hheld hne hfound, Option.some.injEq] at hfound'
    exact hfound'.symm
  cases station with
  | inside site turn =>
    obtain ⟨_, hheld, e, hfound, _⟩ := hserves
    intro e' hfound'
    exact hsame hheld hfound hfound' ▸ hnone e hfound
  | waiting site m next =>
    obtain ⟨_, hheld, e, hfound, _⟩ := hserves
    intro e' hfound'
    exact hsame hheld hfound hfound' ▸ hnone e hfound
  | _ => exact hnone

/-! ## Section 4: Every run -/

variable [DecidableEq ι] {o : Outside σ} {h : Ground ι σ} {p : Party ι} {task station : Station}
  {j : Job}

/-- The next step of a party does not lead it to an internal error. -/
theorem Station.NoFault.act (hnone : station.NoFault h.registry) (hserves : station.Serves j p h)
    (hsound : h.registry.Sound) (htask : task.NoFault h.registry) :
    (h.act o p task station).station.NoFault (h.act o p task station).ground.registry := by
  cases station with
  | ahead errand =>
    cases errand with
    | look next => exact hnone h.registry
    | ask call rest => trivial
    | settle rest reply =>
      -- Only creations go on without a lock, and they have nothing to carry out.
      obtain ⟨_, site, endpoint, rack, shelf, _, _, rfl⟩ := hserves
      simp only [Ground.act]
      rcases h.registry.resume_create_cases site endpoint rack shelf reply with
        ⟨x, rfl, hresume⟩ | ⟨_, _, hresume⟩ | ⟨_, _, hresume⟩
      · rw [hresume]
        intro fault hresult
        cases hresult
        exact hnone fault rfl
      · rw [hresume]
        exact noFault_ok _
      · rw [hresume]
        exact noFault_ok _
    | load =>
      simp only [Ground.act]
      cases o.sink.load h.outside with
      | error x =>
        intro fault hresult
        cases hresult
      | ok blobs => trivial
    | takeIn blobs => exact noFault_ok _
    | enter site turn => exact hnone
    | handOver work =>
      cases p with
      | caller t => trivial
      | task t => exact hnone
    | answer result => exact hnone
  | asking call rest => exact replyTo_ne_internal call _
  | queued site turn =>
    simp only [Ground.act]
    split
    · exact fun e hfound => hnone e (hsound hfound).coherent
    · exact hnone
  | inside site turn =>
    obtain ⟨_, _, e, hfound, _⟩ := hserves
    have hturn := hnone e hfound
    cases turn with
    | access write next =>
      simp only [Ground.act, hfound]
      intro e' hfound'
      have hwritten : (h.registry.put site (write e)).entries.find? site = some (write e) :=
        SiteMap.find?_insert_self _ _ _
      rw [hwritten, Option.some.injEq] at hfound'
      exact hfound' ▸ hturn
    | send m next => exact hnone
    | leave result => exact noFault_map hturn _
  | waiting site m next =>
    simp only [Ground.act]
    intro e hfound
    rw [Ground.registry_deliver] at hfound
    exact hnone e hfound _
  | joining =>
    cases task with
    | done result => exact htask
    | _ => trivial
  | _ => exact hnone

namespace Registry

variable {g : Registry} {site : Site} {e : Entry} {τ : Type}

/-- What was planned on an entry is settled without an internal error. -/
theorem noFault_settle (hfound : g.entries.find? site = some e) (hcoherent : e.record.Coherent)
    {what : Change} {plan : Plan} (hplan : e.record.plan what = .ok plan)
    {reply : Except ChassisError Unit} (hreply : ∀ fault, reply ≠ .error (.internal fault)) :
    NoFault (g.settle site plan reply).1 := by
  obtain ⟨answer, hcarry⟩ := hcoherent.carryOut_plan hplan
  rw [settle_of_some hfound]
  cases reply with
  | error x =>
    intro fault hresult
    cases hresult
    exact hreply fault rfl
  | ok _ =>
    simp only [Entry.resume, hcarry]
    exact noFault_ok _

/-- A request that is served in one go is not answered with an internal error. -/
theorem Sound.noFault_serve (h : g.Sound) (request : Request) (p : Provisioner τ) (s : τ) :
    NoFault (g.serve request p s).1 := by
  simp only [serve]
  cases hscreen : g.screen request with
  | error x =>
    intro fault hresult
    cases hresult
    exact g.noFault_screen request fault hscreen
  | ok found =>
    cases found with
    | some answer => exact noFault_ok _
    | none =>
      simp only [finish]
      cases request with
      | create site endpoint rack shelf =>
        simp only [start]
        rcases g.resume_create_cases site endpoint rack shelf
            (replyTo (.login endpoint) (p (.login endpoint) s).1) with
          ⟨x, hreply, hresume⟩ | ⟨_, _, hresume⟩ | ⟨_, _, hresume⟩
        · rw [hresume]
          intro fault hresult
          cases hresult
          exact replyTo_ne_internal _ _ fault hreply
        · rw [hresume]
          exact noFault_ok _
        · rw [hresume]
          exact noFault_ok _
      | change site what =>
        rcases g.screen_change site what with ⟨x, hx⟩ | ⟨_, e, hfound⟩
        · rw [hscreen] at hx
          cases hx
        · have hcoherent := (h hfound).coherent
          simp only [start, entry_of_some hfound]
          cases hplan : e.record.plan what with
          | error x =>
            intro fault hresult
            cases hresult
            exact hcoherent.plan_ne_internal what fault hplan
          | ok plan =>
            simp only
            cases hcall : plan.call? with
            | none =>
              refine noFault_settle hfound hcoherent hplan ?_
              intro fault hreply
              cases hreply
            | some call =>
              exact noFault_settle hfound hcoherent hplan (replyTo_ne_internal call _)

theorem noFault_ask (g : Registry) (q : Query) : NoFault (g.ask q) := by
  intro fault hask
  cases hentry : g.entry q.site with
  | error x =>
    simp only [ask, hentry, bind, Except.bind, Except.error.injEq] at hask
    exact g.noFault_entry q.site fault (hask ▸ hentry)
  | ok e =>
    simp only [ask, hentry, bind, Except.bind] at hask
    cases hfind : e.record.find q with
    | ok finding =>
      rw [hfind] at hask
      cases hask
    | error x =>
      rw [hfind] at hask
      cases hask
      exact e.record.find_ne_internal q fault hfind

theorem noFault_restore (g : Registry) (sink : Sink τ) (s : τ) :
    NoFault (g.restore sink s).1 := by
  intro fault hrestore
  simp only [restore] at hrestore
  split at hrestore <;> cases hrestore

end Registry

namespace Scene

variable {load : ι → Job} {w : Scene ι σ}

/-- No party comes to an internal error. -/
def NoFault (w : Scene ι σ) : Prop := ∀ p, (w.station p).NoFault w.ground.registry

omit [DecidableEq ι] in
theorem noFault_start (load : ι → Job) (g : Registry) (s : σ) : (start load g s).NoFault
  | .caller t => (load t).noFault_errand
  | .task _ => trivial

theorem NoFault.advance (hnone : w.NoFault) (hw : w.Sound load) (o : Outside σ) (p : Party ι) :
    (w.advance o p).NoFault := by
  have hothers : ∀ q, q ≠ p → (w.station q).NoFault
      (w.ground.act o p (w.station (.task p.job)) (w.station p)).ground.registry :=
    fun q hne => (hnone q).of_spares (hw.serves q) (hw.serves p).spares hne
  rcases w.advance_cases o p with ⟨t, work, rfl, hstation, hadvance⟩ | hadvance
  · have hwork : work.NoFault := by
      have hcaller := hnone (.caller t)
      rw [hstation] at hcaller
      exact hcaller
    rw [hadvance]
    intro q
    by_cases htask : q = .task t
    · subst htask
      simp only [Function.update_self]
      exact hwork
    · simp only [Function.update_of_ne htask]
      by_cases hcaller : q = .caller t
      · subst hcaller
        simp only [Function.update_self]
        trivial
      · simp only [Function.update_of_ne hcaller]
        exact hnone q
  · rw [hadvance]
    intro q
    by_cases heq : q = p
    · subst heq
      simp only [Function.update_self]
      exact (hnone q).act (hw.serves q) hw.registry (hnone (.task q.job))
    · simp only [Function.update_of_ne heq]
      exact hothers q heq

theorem NoFault.giveUp (hnone : w.NoFault) (t : ι) : (w.giveUp t).NoFault := by
  intro q
  simp only [Scene.giveUp, Ground.registry_abandon]
  by_cases heq : q = .caller t
  · subst heq
    rw [Function.update_self]
    rcases w.ground.abandon_cases (.caller t) (w.station (.caller t)) with hgone | ⟨hsame, _⟩
    · rw [hgone]
      trivial
    · rw [hsame]
      exact hnone (.caller t)
  · rw [Function.update_of_ne heq]
    exact hnone q

theorem NoFault.run (hnone : w.NoFault) (hw : w.Sound load) (o : Outside σ)
    (events : List (Event ι)) : (w.run o events).NoFault := by
  induction events generalizing w with
  | nil => exact hnone
  | cons event rest ih =>
    refine ih ?_ (hw.after o event)
    cases event with
    | step p => exact hnone.advance hw o p
    | giveUp t => exact hnone.giveUp t

omit [DecidableEq ι] in
theorem NoFault.answer (hnone : w.NoFault) {t : ι} {result : Except RegistryError Yielded}
    (hanswer : w.answer? t = some result) : ChassisRegistry.NoFault result := by
  have hstation := hnone (.caller t)
  unfold answer? at hanswer
  split at hanswer
  · next hdone =>
    rw [hdone] at hstation
    cases hanswer
    exact hstation
  · cases hanswer

/-- No operation on a registry is answered with an internal error: none of those under way, and
    none that comes by itself. -/
structure Faultless (w : Scene ι σ) : Prop where
  /-- What callers and tasks have got, however their steps were interleaved. -/
  answers  : ∀ t result, w.answer? t = some result → ChassisRegistry.NoFault result
  records  : ∀ site e, w.ground.registry.entries.find? site = some e → e.record.NoFault
  requests : ∀ (τ : Type) (request : Request) (p : Provisioner τ) (s : τ),
    ChassisRegistry.NoFault (w.ground.registry.serve request p s).1
  queries  : ∀ q, ChassisRegistry.NoFault (w.ground.registry.ask q)
  restores : ∀ (τ : Type) (sink : Sink τ) (s : τ),
    ChassisRegistry.NoFault (w.ground.registry.restore sink s).1

theorem faultless_run (load : ι → Job) (o : Outside σ) (s : σ) (events : List (Event ι)) :
    ((start load .empty s).run o events).Faultless := by
  have hstart := sound_start load Registry.sound_empty s
  have hsound := hstart.run o events
  have hnone := (noFault_start load .empty s).run hstart o events
  exact {
    answers  := fun t result hanswer => hnone.answer hanswer
    records  := fun site e hfound => (hsound.registry hfound).coherent.noFault
    requests := fun τ request p s => hsound.registry.noFault_serve request p s
    queries  := Registry.noFault_ask _
    restores := fun τ sink s => Registry.noFault_restore _ sink s }

end Scene

/-- **No internal errors**: a record that was created or read and then changed in any way fits
    itself, and no operation on a registry is ever answered with an internal error, whatever the
    outside says, whatever a sink has loaded and in whatever order callers and tasks take their
    steps. -/
theorem Record.Reachable.faultless {r : Record} (hr : r.Reachable) (load : ι → Job)
    (o : Outside σ) (s : σ) (events : List (Scene.Event ι)) :
    r.NoFault ∧ ((Scene.start load .empty s).run o events).Faultless :=
  ⟨hr.coherent.noFault, Scene.faultless_run load o s events⟩

/-- A chassis is created, and a card is attached to it. -/
def Scene.foundingAndCard : Fin 2 → Job
  | 0 => .request (.create Record.oneCard.site ⟨.v4 ⟨10, 0, 0, 1⟩ 8080, "olt", "secret"⟩ 1 2)
  | 1 => .request (.change Record.oneCard.site
      (.attach .adtran (.v4 ⟨10, 0, 0, 2⟩ 830) " card-1 "))

/-- The creation is carried out, and then the card; both callers come for their answers later. -/
def Scene.foundingThenCard : List (Scene.Event (Fin 2)) :=
  List.replicate 2 (.step (.caller 0)) ++ List.replicate 5 (.step (.task 0)) ++
    List.replicate 2 (.step (.caller 1)) ++ List.replicate 11 (.step (.task 1)) ++
    [.step (.caller 1), .step (.caller 0)]

/-- A record with one card, and the run that leads to it: both callers get what they asked for. -/
theorem faultless_foundingThenCard :
    Record.oneCard.Reachable ∧ Record.oneCard.NoFault ∧
    ((Scene.start Scene.foundingAndCard .empty ()).run Scene.willing
      Scene.foundingThenCard).Faultless ∧
    ((Scene.start Scene.foundingAndCard .empty ()).run Scene.willing
      Scene.foundingThenCard).answer? 0 =
        some (.ok (.visit (.answer (.site Record.oneCard.site)))) ∧
    ((Scene.start Scene.foundingAndCard .empty ()).run Scene.willing
      Scene.foundingThenCard).answer? 1 = some (.ok (.visit (.answer (.card 1)))) := by
  obtain ⟨hrecord, hscene⟩ := Record.Reachable.faultless Record.reachable_oneCard
    Scene.foundingAndCard Scene.willing () Scene.foundingThenCard
  exact ⟨Record.reachable_oneCard, hrecord, hscene, rfl, rfl⟩

end ChassisRegistry
