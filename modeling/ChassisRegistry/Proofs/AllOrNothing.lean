import ChassisRegistry.Proofs.Custody

/-! # All or nothing

    A request that fails leaves the registry as it was: no site is put in, no
    record is changed and no mark is set or taken away. One that succeeds
    changes the entry of its own site and marks it, but for the creation of a
    site that is there, which changes nothing. The provisioning system is
    called at most once, and only when nothing else can fail any more.

    Main statement: `Scene.allOrNothing`. -/

namespace ChassisRegistry

/-! ## Section 1: What is allowed -/

/-- The site that a request is about. -/
def Request.site : Request → Site
  | create site _ _ _ | change site _ => site

/-- A provisioning system that keeps all calls beside its own state. -/
def Provisioner.logged {σ : Type} (p : Provisioner σ) : Provisioner (σ × List Call) :=
  fun call s => ((p call s.1).1, (p call s.1).2, s.2 ++ [call])

/-- The checks that a change of a record has to pass: a login that is not blank, room for the ports
    of the card and a name for it, and a terminal that allows the request. -/
def Record.Allows (r : Record) : Change → Prop
  | .login user password => requireLogin user password = .ok ()
  | .attach driver _ hostname =>
      driver.portCount ≤ r.logical.remaining ∧ Text.allBlank hostname = false
  | .terminal c request => ∃ cell, r.machine.respond c request = .ok cell

/-- The checks that a request has to pass, of its arguments and of the state of its site. -/
def Registry.Allows (g : Registry) : Request → Prop
  | .create site endpoint _ _ =>
      requireLogin endpoint.user endpoint.password = .ok () ∧ g.entries.find? site = none
  | .change site what => ∃ e, g.entries.find? site = some e ∧ e.record.Allows what

namespace Record

variable {r : Record} {what : Change}

/-- An allowed change can be planned. -/
theorem Coherent.exists_plan (h : r.Coherent) (hallows : r.Allows what) :
    ∃ plan, r.plan what = .ok plan := by
  cases what with
  | login user password => exact ⟨_, rfl⟩
  | attach driver address hostname =>
    have hattach := h.attachCard_accepted hallows.1 hallows.2 address
    cases hdescribe : r.describeCard driver address hostname with
    | ok notice => exact ⟨.card notice, by rw [plan, hdescribe]; rfl⟩
    | error x =>
      rw [Record.attachCard, hdescribe] at hattach
      cases hattach
  | terminal c request =>
    obtain ⟨cell, hrespond⟩ := hallows
    obtain ⟨_, _, _, _, _, hprepare, _⟩ := h.prepare_commit hrespond
    exact ⟨.transition _, by rw [plan, hprepare]; rfl⟩

/-- Planning makes every check but the one of the login. -/
theorem Coherent.allows_of_plan (h : r.Coherent) {plan : Plan} (hplan : r.plan what = .ok plan)
    (hlogin : ∀ user password, what = .login user password →
      requireLogin user password = .ok ()) : r.Allows what := by
  cases what with
  | login user password => exact hlogin user password rfl
  | attach driver address hostname =>
    cases hdescribe : r.describeCard driver address hostname with
    | ok notice => exact of_describeCard hdescribe
    | error x => simp [Record.plan, hdescribe, Except.map] at hplan
  | terminal c request =>
    cases hrespond : r.machine.respond c request with
    | ok cell => exact ⟨cell, hrespond⟩
    | error x => simp [Record.plan, h.prepare_refused hrespond, Except.map] at hplan

end Record

namespace Registry

variable {g : Registry}

/-- A screened change has a login that is not blank. -/
theorem login_of_screen {site : Site} {user password : String}
    (hscreen : g.screen (.change site (.login user password)) = .ok none) :
    requireLogin user password = .ok () := by
  cases hlogin : requireLogin user password with
  | ok _ => rfl
  | error x =>
    simp only [screen, hlogin] at hscreen
    cases hscreen

/-- An allowed change is screened without an objection. -/
theorem screen_of_allows {site : Site} {what : Change} (hallows : g.Allows (.change site what)) :
    g.screen (.change site what) = .ok none := by
  obtain ⟨e, hfound, hallows⟩ := hallows
  cases what with
  | login user password =>
    have hlogin : requireLogin user password = .ok () := hallows
    simp only [screen, hlogin, entry_of_some hfound]
    rfl
  | _ =>
    simp only [screen, entry_of_some hfound]
    rfl

/-! ## Section 2: What comes of a request -/

variable {τ : Type} {request : Request} {p : Provisioner τ} {s : τ}

/-- What can come of a request: its result, the registry and the provisioning system after it, and
    the calls that were made. -/
inductive Served (g : Registry) (request : Request) (p : Provisioner τ) (s : τ) :
    Except RegistryError Answer → Registry → τ → List Call → Prop where
  | refused (x : RegistryError) (hnot : ¬ g.Allows request) :
      Served g request p s (.error x) g s []
  | existing {site : Site} {endpoint : Endpoint} {rack shelf : UInt32} {e : Entry}
      (hrequest : request = .create site endpoint rack shelf)
      (hfound : g.entries.find? site = some e) :
      Served g request p s (.ok (.site site)) g s []
  | denied {call : Call} {why : ProvisionerError} (hallows : g.Allows request)
      (hreply : (p call s).1 = .error why) :
      Served g request p s (.error (.chassis (.ofRefusal call why))) g (p call s).2 [call]
  | carried {call : Call} (answer : Answer) {r : Record} (hown : Entry.Own request.site ⟨r, true⟩)
      (hallows : g.Allows request) (hreply : (p call s).1 = .ok ()) :
      Served g request p s (.ok answer) (g.put request.site ⟨r, true⟩) (p call s).2 [call]
  | silent (answer : Answer) {r : Record} (hown : Entry.Own request.site ⟨r, true⟩)
      (hallows : g.Allows request) :
      Served g request p s (.ok answer) (g.put request.site ⟨r, true⟩) s []

/-- The outcome of a request, with and without a log of the calls. -/
def ServesTo (g : Registry) (request : Request) (p : Provisioner τ) (s : τ)
    (result : Except RegistryError Answer) (g' : Registry) (s' : τ) (log : List Call) : Prop :=
  g.serve request p s = (result, g', s') ∧
    g.serve request p.logged (s, []) = (result, g', s', log)

/-- A creation is refused, its site is there, or it asks for its login. -/
theorem exists_served_create (g : Registry) (site : Site) (endpoint : Endpoint)
    (rack shelf : UInt32) (p : Provisioner τ) (s : τ) :
    ∃ result g' s' log, g.ServesTo (.create site endpoint rack shelf) p s result g' s' log ∧
      g.Served (.create site endpoint rack shelf) p s result g' s' log := by
  cases hlogin : requireLogin endpoint.user endpoint.password with
  | error x =>
    refine ⟨.error x, g, s, [], ?_, .refused x fun hallows => ?_⟩
    · simp only [ServesTo, serve, screen, hlogin]
      exact ⟨rfl, rfl⟩
    · cases hlogin.symm.trans hallows.1
  | ok _ =>
    cases hfound : g.entries.find? site with
    | some e =>
      refine ⟨.ok (.site site), g, s, [], ?_, .existing rfl hfound⟩
      simp only [ServesTo, serve, screen, hlogin, SiteMap.contains, hfound]
      exact ⟨rfl, rfl⟩
    | none =>
      have hallows : g.Allows (.create site endpoint rack shelf) := ⟨hlogin, hfound⟩
      have hgo : g.screen (.create site endpoint rack shelf) = .ok none := by
        simp only [screen, hlogin, SiteMap.contains, hfound]
        rfl
      cases hreply : (p (.login endpoint) s).1 with
      | error why =>
        refine ⟨_, g, (p (.login endpoint) s).2, [.login endpoint], ?_, .denied hallows hreply⟩
        simp only [ServesTo, serve, hgo, finish, start, Provisioner.logged, hreply]
        exact ⟨rfl, rfl⟩
      | ok _ =>
        refine ⟨.ok (.site site), _, (p (.login endpoint) s).2, [.login endpoint], ?_,
          .carried _ ⟨Record.coherent_create site endpoint rack shelf, rfl⟩ hallows hreply⟩
        simp only [ServesTo, serve, hgo, finish, start, Provisioner.logged, hreply, replyTo,
          Except.mapError, resume, SiteMap.contains, hfound]
        exact ⟨rfl, rfl⟩

/-- A change is refused, or planned; then its call is refused, or nothing else can fail. -/
theorem Sound.exists_served_change (h : g.Sound) (site : Site) (what : Change)
    (p : Provisioner τ) (s : τ) :
    ∃ result g' s' log, g.ServesTo (.change site what) p s result g' s' log ∧
      g.Served (.change site what) p s result g' s' log := by
  rcases g.screen_change site what with ⟨x, hscreen⟩ | ⟨hscreen, e, hfound⟩
  · refine ⟨.error x, g, s, [], ?_, .refused x fun hallows => ?_⟩
    · exact ⟨by simp only [serve, hscreen], by simp only [serve, hscreen]⟩
    · cases hscreen.symm.trans (screen_of_allows hallows)
  · have hcoherent := (h hfound).coherent
    have hstart : ∀ (p : Provisioner τ) (s : τ), g.serve (.change site what) p s =
        g.finish (.change site what) p s := fun p s => by simp only [serve, hscreen]
    have hlogged : g.serve (.change site what) p.logged (s, []) =
        g.finish (.change site what) p.logged (s, []) := by simp only [serve, hscreen]
    unfold ServesTo
    rw [hstart, hlogged]
    simp only [finish, start, entry_of_some hfound]
    cases hplan : e.record.plan what with
    | error x =>
      refine ⟨.error (.chassis x), g, s, [], ⟨rfl, rfl⟩, .refused _ ?_⟩
      rintro ⟨e', hfound', hallows⟩
      cases hfound.symm.trans hfound'
      obtain ⟨plan, hplan'⟩ := hcoherent.exists_plan hallows
      rw [hplan] at hplan'
      cases hplan'
    | ok plan =>
      have hallows : g.Allows (.change site what) := by
        refine ⟨e, hfound, hcoherent.allows_of_plan hplan ?_⟩
        rintro user password rfl
        exact login_of_screen hscreen
      have hown : Entry.Own site ⟨e.record.after what, true⟩ :=
        ⟨hcoherent.after what, by rw [hcoherent.site_after, (h hfound).named]⟩
      -- What is planned on the present record is carried out without a failure.
      obtain ⟨answer, hcarry⟩ := hcoherent.carryOut_plan hplan
      have hsettle : g.settle site plan (.ok ()) =
          (.ok answer, g.put site ⟨e.record.after what, true⟩) := by
        rw [settle_of_some hfound]
        simp only [Entry.resume, hcarry]
        rfl
      cases hcall : plan.call? with
      | none =>
        simp only [hcall, hsettle]
        exact ⟨_, _, _, _, ⟨rfl, rfl⟩, .silent answer hown hallows⟩
      | some call =>
        simp only [hcall, Provisioner.logged]
        cases hreply : (p call s).1 with
        | error why =>
          simp only [replyTo, Except.mapError, resume, settle_of_some hfound, Entry.resume,
            put_find? hfound]
          exact ⟨_, _, _, _, ⟨rfl, rfl⟩, .denied hallows hreply⟩
        | ok _ =>
          simp only [replyTo, Except.mapError, resume, hsettle]
          exact ⟨_, _, _, _, ⟨rfl, rfl⟩, .carried answer hown hallows hreply⟩

/-- All that can come of a request. -/
theorem Sound.exists_served (h : g.Sound) (request : Request) (p : Provisioner τ) (s : τ) :
    ∃ result g' s' log, g.ServesTo request p s result g' s' log ∧
      g.Served request p s result g' s' log := by
  cases request with
  | create site endpoint rack shelf => exact g.exists_served_create site endpoint rack shelf p s
  | change site what => exact h.exists_served_change site what p s

/-- A request fails without an effect, or succeeds and marks its site. -/
structure AllOrNothing (g : Registry) (request : Request) (p : Provisioner τ) (s : τ)
    (result : Except RegistryError Answer) (g' : Registry) (s' : τ) (log : List Call) : Prop where
  /-- After a failure all sites, records and marks are what they were. -/
  failed    : ∀ x, result = .error x → g' = g
  /-- Other sites are never touched. -/
  elsewhere : ∀ site, site ≠ request.site → g'.entries.find? site = g.entries.find? site
  /-- A creation of a site that is there changes nothing and makes no call; it is answered unless
      its login is blank. -/
  existing  : ∀ site endpoint rack shelf, request = .create site endpoint rack shelf →
    g.entries.contains site = true → g' = g ∧ log = [] ∧
      result = (requireLogin endpoint.user endpoint.password).map fun _ => .site site
  /-- Any other success marks the site. -/
  marked    : ∀ answer, result = .ok answer →
    (∃ site endpoint rack shelf, request = .create site endpoint rack shelf ∧
      g.entries.contains site = true) ∨
    ∃ r, g'.entries.find? request.site = some ⟨r, true⟩
  /-- A call is made only when all checks have passed, of the arguments and of the state of the
      site, and then nothing but its refusal makes the request fail. -/
  checked   : ∀ call, call ∈ log → log = [call] ∧ g.Allows request ∧ s' = (p call s).2 ∧
    ∀ x, result = .error x → ∃ why, (p call s).1 = .error why ∧
      x = .chassis (.ofRefusal call why)
  /-- Without a call the provisioning system is left alone. -/
  silent    : log = [] → s' = s

/-- The creation of a site that is there is decided by its login alone. -/
theorem serve_existing {site : Site} {endpoint : Endpoint} {rack shelf : UInt32}
    (hthere : g.entries.contains site = true) (p : Provisioner τ) (s : τ) :
    g.serve (.create site endpoint rack shelf) p s =
      ((requireLogin endpoint.user endpoint.password).map fun _ => .site site, g, s) := by
  simp only [serve, screen, hthere]
  cases requireLogin endpoint.user endpoint.password <;> rfl

theorem Served.outcome {result : Except RegistryError Answer} {g' : Registry} {s' : τ}
    {log : List Call} (hserves : g.ServesTo request p s result g' s' log)
    (hserved : g.Served request p s result g' s' log) :
    g.AllOrNothing request p s result g' s' log where
  failed := by
    rintro x rfl
    cases hserved <;> rfl
  elsewhere := by
    intro site hne
    cases hserved with
    | carried => exact SiteMap.find?_insert_of_ne hne _ _
    | silent => exact SiteMap.find?_insert_of_ne hne _ _
    | _ => rfl
  existing := by
    rintro site endpoint rack shelf rfl hthere
    have hlogged := hserves.2
    rw [serve_existing hthere] at hlogged
    cases hlogged
    exact ⟨rfl, rfl, rfl⟩
  marked := by
    rintro answer rfl
    cases hserved with
    | existing hrequest hfound =>
      exact Or.inl ⟨_, _, _, _, hrequest, by simp [SiteMap.contains, hfound]⟩
    | @carried _ _ r => exact Or.inr ⟨r, SiteMap.find?_insert_self _ _ _⟩
    | @silent _ r => exact Or.inr ⟨r, SiteMap.find?_insert_self _ _ _⟩
  checked := by
    intro call hcall
    cases hserved with
    | denied hallows hreply =>
      cases List.mem_singleton.mp hcall
      refine ⟨rfl, hallows, rfl, ?_⟩
      rintro x hx
      cases hx
      exact ⟨_, hreply, rfl⟩
    | carried answer hown hallows hreply =>
      cases List.mem_singleton.mp hcall
      refine ⟨rfl, hallows, rfl, ?_⟩
      rintro x hx
      cases hx
    | _ => cases hcall
  silent := by
    intro hlog
    cases hserved with
    | denied => cases hlog
    | carried => cases hlog
    | _ => rfl

end Registry

namespace Scene

variable {ι σ τ : Type} [DecidableEq ι]

/-- **All or nothing**: whatever has been going on in the registry, any request that is served then
    fails without an effect, or succeeds and marks its site. -/
theorem allOrNothing (load : ι → Job) (o : Outside σ) (s₀ : σ) (events : List (Event ι))
    (request : Request) (p : Provisioner τ) (s : τ) :
    let g := ((start load .empty s₀).run o events).ground.registry
    ∃ result g' s' log, g.serve request p s = (result, g', s') ∧
      g.serve request p.logged (s, []) = (result, g', s', log) ∧
      g.AllOrNothing request p s result g' s' log := by
  intro g
  have hsound : g.Sound := ((sound_start load Registry.sound_empty s₀).run o events).registry
  obtain ⟨result, g', s', log, hserves, hserved⟩ := hsound.exists_served request p s
  exact ⟨result, g', s', log, hserves.1, hserves.2, hserved.outcome hserves⟩

end Scene

end ChassisRegistry
