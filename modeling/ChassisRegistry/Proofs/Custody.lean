import ChassisRegistry.Proofs.Errands
import ChassisRegistry.Proofs.Restoration
import ChassisRegistry.Proofs.Traffic

/-! # Custody

    Callers and tasks touch little of what they share. The entry of a site is
    written only by a party that has the lock of the site, and only as its job
    asks for it; creations and restorations put in sites that are not there;
    and no step takes a lock away from somebody else. So what a party has found
    out about its site stays true until the party goes on.

    Main statement: `Scene.Sound.run`. -/

namespace ChassisRegistry

/-! ## Section 1: Registries that are kept well -/

/-- An entry is fit for a site. -/
structure Entry.Own (site : Site) (e : Entry) : Prop where
  coherent : e.record.Coherent
  named    : e.record.site = site

namespace Registry

variable {g g' : Registry} {site : Site} {e : Entry}

/-- Every entry is fit for its site. -/
def Sound (g : Registry) : Prop := ∀ ⦃site e⦄, g.entries.find? site = some e → e.Own site

theorem sound_empty : Sound .empty := by
  intro site e hfound
  cases hfound

theorem Sound.put (h : g.Sound) (hown : e.Own site) : (g.put site e).Sound := by
  intro other e' hfound
  by_cases heq : other = site
  · subst heq
    rw [Registry.put, SiteMap.find?_insert_self, Option.some.injEq] at hfound
    exact hfound ▸ hown
  · rw [Registry.put, SiteMap.find?_insert_of_ne heq] at hfound
    exact h hfound

/-- One site with one card, and with changes. -/
def oneSite : Registry := Registry.empty.put Record.oneCard.site ⟨Record.oneCard, true⟩

theorem sound_oneSite : oneSite.Sound :=
  sound_empty.put ⟨Record.reachable_oneCard.coherent, rfl⟩

/-! ### Creations -/

/-- A creation comes to its end: it is refused, its site is there already, or it puts its site
    in. -/
theorem resume_create_cases (g : Registry) (site : Site) (endpoint : Endpoint)
    (rack shelf : UInt32) (reply : Except ChassisError Unit) :
    (∃ x, reply = .error x ∧
      g.resume (.create site endpoint rack shelf) reply = (.error (.chassis x), g)) ∨
    (reply = .ok () ∧ (∃ e, g.entries.find? site = some e) ∧
      g.resume (.create site endpoint rack shelf) reply = (.ok (.site site), g)) ∨
    (reply = .ok () ∧ g.entries.find? site = none ∧
      g.resume (.create site endpoint rack shelf) reply =
        (.ok (.site site), g.put site ⟨.create site endpoint rack shelf, true⟩)) := by
  cases reply with
  | error x => exact Or.inl ⟨x, rfl, rfl⟩
  | ok _ =>
    right
    cases hfound : g.entries.find? site with
    | some e =>
      left
      refine ⟨rfl, ⟨e, rfl⟩, ?_⟩
      simp only [resume, SiteMap.contains, hfound, Option.isSome_some, if_true]
    | none =>
      right
      refine ⟨rfl, rfl, ?_⟩
      simp only [resume, SiteMap.contains, hfound, Option.isSome_none, Bool.false_eq_true, if_false]

theorem extends_resume_create (g : Registry) (site : Site) (endpoint : Endpoint)
    (rack shelf : UInt32) (reply : Except ChassisError Unit) :
    g.Extends (g.resume (.create site endpoint rack shelf) reply).2 := by
  rcases g.resume_create_cases site endpoint rack shelf reply with
    ⟨_, _, hresume⟩ | ⟨_, _, hresume⟩ | ⟨_, hnone, hresume⟩
  · rw [hresume]
    exact .refl g
  · rw [hresume]
    exact .refl g
  · rw [hresume]
    exact extends_put hnone

theorem Sound.resume_create (h : g.Sound) (site : Site) (endpoint : Endpoint)
    (rack shelf : UInt32) (reply : Except ChassisError Unit) :
    (g.resume (.create site endpoint rack shelf) reply).2.Sound := by
  rcases g.resume_create_cases site endpoint rack shelf reply with
    ⟨_, _, hresume⟩ | ⟨_, _, hresume⟩ | ⟨_, _, hresume⟩
  · rw [hresume]
    exact h
  · rw [hresume]
    exact h
  · rw [hresume]
    exact h.put ⟨Record.coherent_create site endpoint rack shelf, rfl⟩

/-! ### Restorations -/

theorem Sound.restoreEach (h : g.Sound) (blobs : List (Site × ByteArray))
    (report : RestoreReport) : (restoreEach blobs report g).2.Sound := by
  induction blobs generalizing report g with
  | nil => exact h
  | cons head rest ih =>
    obtain ⟨site, blob⟩ := head
    unfold Registry.restoreEach
    split
    · next r hrestorable =>
      obtain ⟨hread, hsite, _⟩ := restorable_eq_some.mp hrestorable
      obtain ⟨l, p, hjoin⟩ := Record.join_of_read hread
      exact ih (h.put ⟨Record.coherent_of_join hjoin, hsite⟩) _
    · exact ih h _

end Registry

/-! ## Section 2: Turns that serve a job -/

namespace Job

/-- The site whose lock a job takes. -/
def site? : Job → Option Site
  | request r => r.held?
  | visit v => some v.site
  | restore => none

/-- The change that a job asks for. -/
def change? : Job → Option Change
  | request (.change _ what) | visit (.change _ what) => some what
  | _ => none

/-- What a job may write: no other record, or the record with its change carried out. -/
def Writes (j : Job) (e e' : Entry) : Prop :=
  e'.record = e.record ∨ ∃ what, j.change? = some what ∧ e'.record = e.record.after what

/-- What the job asks for leaves entries fit for their sites. -/
theorem Writes.own {j : Job} {e e' : Entry} (hwrites : j.Writes e e') {site : Site}
    (hown : e.Own site) : e'.Own site := by
  rcases hwrites with hsame | ⟨what, _, hafter⟩
  · exact ⟨hsame ▸ hown.coherent, by rw [hsame, hown.named]⟩
  · refine ⟨hafter ▸ hown.coherent.after what, ?_⟩
    rw [hafter, hown.coherent.site_after, hown.named]

end Job

/-- A change is carried out on a record: it is answered, and the site is marked. -/
def Record.Carried (r : Record) (what : Change) (result : Visit.Result) (e : Entry) : Prop :=
  (∃ a, result = .ok (.answer a)) ∧ e = ⟨r.after what, true⟩

namespace Turn

/-- A turn sends nothing more, and comes to such an end. -/
def Ends (q : Visit.Result → Entry → Prop) : Turn → Entry → Prop
  | access write next, e => (next e).Ends q (write e)
  | send _ _, _ => False
  | leave result, e => q result e

end Turn

/-- What a job may send. A change sends the call of its plan for the present record, and carries the
    plan out when the call is accepted. -/
def Job.Sends (j : Job) : (m : Message) → (m.Reply → Turn) → Entry → Prop
  | .call call, next, e => ∀ what, j.change? = some what →
      ∃ plan, e.record.plan what = .ok plan ∧ plan.call? = some call ∧
        (next (.ok ())).Ends (e.record.Carried what) e
  | .blob _, _, _ => j.change? = none

namespace Turn

/-- Whatever the replies are, a turn writes and sends what the job asks for. -/
def Serves (j : Job) : Turn → Entry → Prop
  | access write next, e => j.Writes e (write e) ∧ (next e).Serves j (write e)
  | send m next, e => j.Sends m next e ∧ ∀ reply, (next reply).Serves j e
  | leave _, _ => True

variable {j : Job} {e : Entry}

/-- A plan for the record is carried out by its commit. -/
theorem ends_commit (hcoherent : e.record.Coherent) {what : Change} {plan : Plan}
    (hplan : e.record.plan what = .ok plan) :
    (commit plan).Ends (e.record.Carried what) e := by
  obtain ⟨answer, hcarry⟩ := hcoherent.carryOut_plan hplan
  simp only [commit, Ends, hcarry]
  exact ⟨⟨answer, rfl⟩, rfl⟩

theorem serves_commit (hcoherent : e.record.Coherent) {what : Change} {plan : Plan}
    (hplan : e.record.plan what = .ok plan) (hchange : j.change? = some what) :
    (commit plan).Serves j e := by
  obtain ⟨answer, hcarry⟩ := hcoherent.carryOut_plan hplan
  simp only [commit, Serves, hcarry]
  exact ⟨Or.inr ⟨what, hchange, rfl⟩, Or.inl rfl, trivial⟩

theorem serves_change (hcoherent : e.record.Coherent) {what : Change}
    (hchange : j.change? = some what) : (change what).Serves j e := by
  refine ⟨Or.inl rfl, ?_⟩
  simp only [id]
  cases hplan : e.record.plan what with
  | error x => trivial
  | ok plan =>
    cases hcall : plan.call? with
    | none =>
      simp only [hcall]
      exact serves_commit hcoherent hplan hchange
    | some call =>
      simp only [hcall]
      refine ⟨?_, ?_⟩
      · rintro what' hchange'
        cases hchange.symm.trans hchange'
        exact ⟨plan, hplan, hcall, ends_commit hcoherent hplan⟩
      · intro reply
        cases hreply : Registry.replyTo call reply with
        | error x =>
          simp only [hreply]
          trivial
        | ok _ =>
          simp only [hreply]
          exact serves_commit hcoherent hplan hchange

theorem serves_callEach (hchange : j.change? = none)
    (count : ReflowReport → Except ProvisionerError Unit → ReflowReport) (calls : List Call)
    (report : ReflowReport) {next : ReflowReport → Turn}
    (hnext : ∀ report, (next report).Serves j e) :
    (callEach count calls report next).Serves j e := by
  induction calls generalizing report with
  | nil => exact hnext report
  | cons call rest ih =>
    refine ⟨?_, fun reply => ih _⟩
    intro what hwhat
    rw [hchange] at hwhat
    cases hwhat

theorem serves_reflow (hchange : j.change? = none) : reflow.Serves j e := by
  refine ⟨Or.inl rfl, serves_callEach hchange _ _ _ fun report => ⟨Or.inl rfl, ?_⟩⟩
  simp only [id]
  cases e.record.activeNotices with
  | error x => trivial
  | ok notices => exact serves_callEach hchange _ _ _ fun _ => trivial

theorem serves_flush (hchange : j.change? = none) : flush.Serves j e := by
  refine ⟨Or.inl rfl, ?_⟩
  simp only [id]
  by_cases hdirty : e.dirty = true
  · rw [if_pos hdirty]
    refine ⟨hchange, fun reply => ?_⟩
    cases reply with
    | error x => trivial
    | ok _ => exact ⟨Or.inl rfl, trivial⟩
  · rw [if_neg hdirty]
    trivial

end Turn

/-- The turn of a visit serves it. -/
theorem Visit.serves_turn (v : Visit) {e : Entry} (hcoherent : e.record.Coherent) :
    v.turn.Serves (.visit v) e := by
  cases v with
  | change site what => exact Turn.serves_change hcoherent rfl
  | query q => exact ⟨Or.inl rfl, trivial⟩
  | inspect site => exact ⟨Or.inl rfl, trivial⟩
  | flush site => exact Turn.serves_flush rfl
  | reflow site => exact Turn.serves_reflow rfl

/-! ## Section 3: Parties that serve a job -/

/-- The call and the rest of a creation that a job asks for. -/
def Job.Founds (j : Job) (call : Call) (rest : Pending) : Prop :=
  ∃ site endpoint rack shelf, j = .request (.create site endpoint rack shelf) ∧
    call = .login endpoint ∧ rest = .create site endpoint rack shelf

/-- A turn at a site serves a job, whatever the entry of the site will be. -/
structure Job.Visits (j : Job) (g : Registry) (site : Site) (turn : Turn) : Prop where
  own    : j.site? = some site
  there  : ∃ e, g.entries.find? site = some e
  serves : ∀ e : Entry, e.record.Coherent → turn.Serves j e

/-- An errand serves a job. -/
def Errand.Serves (j : Job) : Errand → Registry → Prop
  | look next, _ => ∀ g, (next g).Serves j g
  | ask call rest, _ => j.Founds call rest
  | settle rest _, _ => ∃ call, j.Founds call rest
  | load, _ | takeIn _, _ => j = .restore
  | enter site turn, g => j.Visits g site turn
  | handOver work, g => work.Serves j g
  | answer _, _ => True

theorem Request.serves_work {r : Request} {g : Registry} (hscreen : g.screen r = .ok none) :
    r.work.Serves (.request r) g := by
  cases r with
  | create site endpoint rack shelf => exact ⟨site, endpoint, rack, shelf, rfl, rfl, rfl⟩
  | change site what =>
    rcases g.screen_change site what with ⟨x, hrefused⟩ | ⟨_, hthere⟩
    · rw [hscreen] at hrefused
      cases hrefused
    · exact ⟨rfl, hthere, fun e hcoherent => Turn.serves_change hcoherent rfl⟩

theorem Request.serves_screened (r : Request) (g : Registry) :
    (r.screened g).Serves (.request r) g := by
  unfold screened
  split
  · trivial
  · trivial
  · next hscreen => exact serves_work hscreen

theorem Visit.serves_screened (v : Visit) (g : Registry) :
    (v.screened g).Serves (.visit v) g := by
  unfold screened
  split
  · trivial
  · next hscreen => exact ⟨rfl, exists_entry hscreen, fun e hcoherent => v.serves_turn hcoherent⟩

/-- The errand of a job serves it. -/
theorem Job.serves_errand (j : Job) (g : Registry) : j.errand.Serves j g := by
  cases j with
  | request r => exact r.serves_screened
  | visit v => exact v.serves_screened
  | restore => rfl

variable {ι σ : Type}

/-- A party serves a job: what it does is asked for, and a lock that it needs is its own. -/
def Station.Serves (j : Job) (p : Party ι) (h : Ground ι σ) : Station → Prop
  | ahead errand => errand.Serves j h.registry
  | asking call rest => j.Founds call rest
  | queued site turn => j.Visits h.registry site turn
  | inside site turn => j.site? = some site ∧ h.holder site = some p ∧
      ∃ e, h.registry.entries.find? site = some e ∧ turn.Serves j e
  | waiting site m next => j.site? = some site ∧ h.holder site = some p ∧
      ∃ e, h.registry.entries.find? site = some e ∧ (Turn.send m next).Serves j e
  | absent | joining | done _ | gone => True

/-! ## Section 4: What a step may touch -/

variable {p : Party ι} {h h' : Ground ι σ} {station : Station} {j : Job} {g g' : Registry}

/-- All that a step of a party can do to a registry. -/
inductive Station.Alters (station : Station) (g : Registry) : Registry → Prop where
  | nothing : Alters station g g
  | founds {site : Site} {endpoint : Endpoint} {rack shelf : UInt32}
      {reply : Except ChassisError Unit}
      (hstation : station = .ahead (.settle (.create site endpoint rack shelf) reply)) :
      Alters station g (g.resume (.create site endpoint rack shelf) reply).2
  | takesIn {blobs : List (Site × ByteArray)} (hstation : station = .ahead (.takeIn blobs)) :
      Alters station g (Registry.restoreEach blobs {} g).2
  | writes {site : Site} {write : Entry → Entry} {next : Entry → Turn} {e : Entry}
      (hstation : station = .inside site (.access write next))
      (hfound : g.entries.find? site = some e) : Alters station g (g.put site (write e))

/-- A party that serves its job leaves every entry fit for its site. -/
theorem Station.Alters.sound (halters : station.Alters h.registry g')
    (hserves : station.Serves j p h) (hsound : h.registry.Sound) : g'.Sound := by
  cases halters with
  | nothing => exact hsound
  | founds hstation => exact hsound.resume_create ..
  | takesIn hstation => exact hsound.restoreEach ..
  | writes hstation hfound =>
    subst hstation
    obtain ⟨_, _, e, hfound', hwrites, _⟩ := hserves
    cases hfound.symm.trans hfound'
    exact hsound.put (hwrites.own (hsound hfound))

/-- Entries stay as they are, but for the one of the site whose lock the party has. -/
theorem Station.Alters.kept (halters : station.Alters g g') {site : Site}
    {e : Entry} (hfound : g.entries.find? site = some e)
    (hother : ∀ turn, station ≠ .inside site turn) : g'.entries.find? site = some e := by
  cases halters with
  | nothing => exact hfound
  | founds hstation => exact Registry.extends_resume_create _ _ _ _ _ _ hfound
  | takesIn hstation => exact Registry.extends_restoreEach _ _ _ hfound
  | @writes there write next e' hstation _ =>
    have hne : site ≠ there := by
      rintro rfl
      exact hother _ hstation
    rw [Registry.put, SiteMap.find?_insert_of_ne hne, hfound]

/-- Every site stays. -/
theorem Station.Alters.there (halters : station.Alters g g') {site : Site}
    {e : Entry} (hfound : g.entries.find? site = some e) :
    ∃ e', g'.entries.find? site = some e' := by
  by_cases hother : ∀ turn, station ≠ .inside site turn
  · exact ⟨e, halters.kept hfound hother⟩
  · push Not at hother
    obtain ⟨turn, rfl⟩ := hother
    cases halters with
    | nothing => exact ⟨e, hfound⟩
    | founds hstation => cases hstation
    | takesIn hstation => cases hstation
    | writes hstation _ =>
      cases hstation
      exact ⟨_, SiteMap.find?_insert_self _ _ _⟩

/-- All that a step of a party can do to the locks. -/
inductive Station.Grips (p : Party ι) (station : Station) (holder : Site → Option (Party ι)) :
    (Site → Option (Party ι)) → Prop where
  | nothing : Grips p station holder holder
  | takes {site : Site} {turn : Turn} (hstation : station = .queued site turn)
      (hfree : holder site = none) :
      Grips p station holder (Function.update holder site (some p))
  | givesBack {site : Site} {result : Visit.Result}
      (hstation : station = .inside site (.leave result)) :
      Grips p station holder (Function.update holder site none)

/-- Locks of others stay theirs. -/
theorem Station.Grips.held {holder holder' : Site → Option (Party ι)}
    (hgrips : station.Grips p holder holder') {site : Site} {q : Party ι}
    (hown : ∀ turn, station = .inside site turn → holder site = some p)
    (hheld : holder site = some q) (hne : q ≠ p) : holder' site = some q := by
  cases hgrips with
  | nothing => exact hheld
  | @takes there turn hstation hfree =>
    have hother : site ≠ there := by
      rintro rfl
      rw [hfree] at hheld
      cases hheld
    rw [Function.update_of_ne hother, hheld]
  | @givesBack there result hstation =>
    have hother : site ≠ there := by
      rintro rfl
      rw [hown _ hstation, Option.some.injEq] at hheld
      exact hne hheld.symm
    rw [Function.update_of_ne hother, hheld]

/-- A party that serves its job has the lock of the site that it is at. -/
theorem Station.Serves.holds {site : Site} (hserves : station.Serves j p h) (turn : Turn)
    (hstation : station = .inside site turn) : h.holder site = some p := by
  subst hstation
  exact hserves.2.1

/-- What a step of a party leaves to the others: the sites, and what others have a lock of. -/
structure Ground.Spares (p : Party ι) (h h' : Ground ι σ) : Prop where
  there : ∀ ⦃site e⦄, h.registry.entries.find? site = some e →
    ∃ e', h'.registry.entries.find? site = some e'
  held  : ∀ ⦃site q⦄, h.holder site = some q → q ≠ p → h'.holder site = some q
  kept  : ∀ ⦃site q e⦄, h.holder site = some q → q ≠ p →
    h.registry.entries.find? site = some e → h'.registry.entries.find? site = some e

theorem Ground.spares_of_extends {p : Party ι} {h h' : Ground ι σ}
    (hregistry : h.registry.Extends h'.registry) (hholder : h'.holder = h.holder) :
    h.Spares p h' where
  there _ _ hfound := ⟨_, hregistry hfound⟩
  held _ _ hheld _ := hholder ▸ hheld
  kept _ _ _ _ _ hfound := hregistry hfound

theorem Errand.Serves.of_there {j : Job} {errand : Errand} {g g' : Registry}
    (h : errand.Serves j g) (hthere : ∀ ⦃site e⦄, g.entries.find? site = some e →
      ∃ e', g'.entries.find? site = some e') : errand.Serves j g' := by
  induction errand with
  | enter site turn =>
    obtain ⟨e, hfound⟩ := h.there
    exact ⟨h.own, hthere hfound, h.serves⟩
  | handOver work ih => exact ih h
  | _ => exact h

/-- A party is not concerned by the steps of others. -/
theorem Station.Serves.of_spares {j : Job} {p q : Party ι} {h h' : Ground ι σ} {station : Station}
    (hserves : station.Serves j q h) (hspares : h.Spares p h') (hne : q ≠ p) :
    station.Serves j q h' := by
  cases station with
  | ahead errand => exact Errand.Serves.of_there hserves hspares.there
  | queued site turn => exact ⟨hserves.own, hspares.there hserves.there.choose_spec, hserves.serves⟩
  | inside site turn =>
    obtain ⟨hsite, hheld, e, hfound, hturn⟩ := hserves
    exact ⟨hsite, hspares.held hheld hne, e, hspares.kept hheld hne hfound, hturn⟩
  | waiting site m next =>
    obtain ⟨hsite, hheld, e, hfound, hturn⟩ := hserves
    exact ⟨hsite, hspares.held hheld hne, e, hspares.kept hheld hne hfound, hturn⟩
  | _ => exact hserves

namespace Scene

variable {load : ι → Job}

/-- The registry is kept well, and every party serves its job. -/
structure Sound (load : ι → Job) (w : Scene ι σ) : Prop where
  registry : w.ground.registry.Sound
  serves   : ∀ p, (w.station p).Serves (load p.job) p w.ground

theorem sound_start (load : ι → Job) {g : Registry} (hg : g.Sound) (s : σ) :
    (start load g s).Sound load where
  registry := hg
  serves
    | .caller t => (load t).serves_errand g
    | .task _ => trivial

end Scene

/-! ## Section 5: One step -/

namespace Ground

variable {h : Ground ι σ}

@[simp] theorem registry_deliver (o : Outside σ) (t : ι) (site : Site) (m : Message) :
    (h.deliver o t site m).2.registry = h.registry := by
  cases m <;> rfl

@[simp] theorem holder_deliver (o : Outside σ) (t : ι) (site : Site) (m : Message) :
    (h.deliver o t site m).2.holder = h.holder := by
  cases m <;> rfl

end Ground

variable [DecidableEq ι] {o : Outside σ} {task : Station}

theorem Station.Serves.alters (hserves : station.Serves j p h) :
    station.Alters h.registry (h.act o p task station).ground.registry := by
  cases station with
  | ahead errand =>
    cases errand with
    | settle rest reply =>
      obtain ⟨_, site, endpoint, rack, shelf, _, _, rfl⟩ := hserves
      exact .founds rfl
    | takeIn blobs => exact .takesIn rfl
    | load =>
      simp only [Ground.act]
      cases o.sink.load h.outside <;> exact .nothing
    | handOver work => cases p <;> exact .nothing
    | _ => exact .nothing
  | queued site turn =>
    simp only [Ground.act]
    split <;> exact .nothing
  | inside site turn =>
    cases turn with
    | access write next =>
      obtain ⟨_, _, e, hfound, _⟩ := hserves
      simp only [Ground.act, hfound]
      exact .writes rfl hfound
    | _ => exact .nothing
  | waiting site m next =>
    simp only [Ground.act, Ground.registry_deliver]
    exact .nothing
  | joining => cases task <;> exact .nothing
  | _ => exact .nothing

theorem Station.grips_act (station : Station) :
    station.Grips p h.holder (h.act o p task station).ground.holder := by
  cases station with
  | ahead errand =>
    cases errand with
    | load =>
      simp only [Ground.act]
      cases o.sink.load h.outside <;> exact .nothing
    | handOver work => cases p <;> exact .nothing
    | _ => exact .nothing
  | queued site turn =>
    simp only [Ground.act]
    split
    · next hfirst => exact .takes rfl hfirst.1
    · exact .nothing
  | inside site turn =>
    cases turn with
    | access write next =>
      simp only [Ground.act]
      split <;> exact .nothing
    | send m next => exact .nothing
    | leave result => exact .givesBack rfl
  | waiting site m next =>
    simp only [Ground.act, Ground.holder_deliver]
    exact .nothing
  | joining => cases task <;> exact .nothing
  | _ => exact .nothing

/-- A step leaves to the others what is theirs. -/
theorem Station.Serves.spares (hserves : station.Serves j p h) :
    h.Spares p (h.act o p task station).ground where
  there _ _ hfound := hserves.alters.there hfound
  held _ _ hheld hne := (Station.grips_act _).held hserves.holds hheld hne
  kept site q e hheld hne hfound := by
    refine hserves.alters.kept hfound fun turn hstation => ?_
    rw [hserves.holds turn hstation, Option.some.injEq] at hheld
    exact hne hheld.symm

/-- A party goes on to serve its job. -/
theorem Station.Serves.act (hserves : station.Serves j p h) (hsound : h.registry.Sound) :
    (h.act o p task station).station.Serves j p (h.act o p task station).ground := by
  cases station with
  | ahead errand =>
    cases errand with
    | look next => exact hserves h.registry
    | ask call rest => exact hserves
    | settle rest reply => trivial
    | load =>
      simp only [Ground.act]
      cases o.sink.load h.outside with
      | error x => trivial
      | ok blobs => exact hserves
    | takeIn blobs => trivial
    | enter site turn => exact hserves
    | handOver work =>
      cases p with
      | caller t => trivial
      | task t => exact hserves
    | answer result => trivial
  | asking call rest => exact ⟨call, hserves⟩
  | queued site turn =>
    simp only [Ground.act]
    split
    · obtain ⟨e, hfound⟩ := hserves.there
      exact ⟨hserves.own, Function.update_self .., e, hfound,
        hserves.serves e (hsound hfound).coherent⟩
    · exact hserves
  | inside site turn =>
    obtain ⟨hsite, hheld, e, hfound, hturn⟩ := hserves
    cases turn with
    | access write next =>
      simp only [Ground.act, hfound]
      exact ⟨hsite, hheld, write e, SiteMap.find?_insert_self _ _ _, hturn.2⟩
    | send m next => exact ⟨hsite, hheld, e, hfound, hturn⟩
    | leave result => trivial
  | waiting site m next =>
    obtain ⟨hsite, hheld, e, hfound, _, hnext⟩ := hserves
    simp only [Ground.act]
    exact ⟨hsite, by simpa using hheld, e, by simpa using hfound, hnext _⟩
  | joining =>
    cases task with
    | done result => trivial
    | _ => trivial
  | _ => trivial

/-- Only a caller hands work over. -/
theorem Ground.spawned_act {work : Errand}
    (hspawned : (h.act o p task station).spawned = some work) :
    (∃ t, p = .caller t) ∧ station = .ahead (.handOver work) := by
  cases station with
  | ahead errand =>
    cases errand with
    | handOver work' =>
      cases p with
      | caller t =>
        cases hspawned
        exact ⟨⟨t, rfl⟩, rfl⟩
      | task t => cases hspawned
    | load =>
      simp only [Ground.act] at hspawned
      cases hload : o.sink.load h.outside <;> rw [hload] at hspawned <;> cases hspawned
    | _ => cases hspawned
  | queued site turn =>
    simp only [Ground.act] at hspawned
    split at hspawned <;> cases hspawned
  | inside site turn =>
    cases turn with
    | access write next =>
      simp only [Ground.act] at hspawned
      split at hspawned <;> cases hspawned
    | _ => cases hspawned
  | joining => cases task <;> cases hspawned
  | _ => cases hspawned

/-- Whoever stops waiting leaves to the others what is theirs. -/
theorem Station.Serves.spares_abandon (hserves : station.Serves j p h) :
    h.Spares p (h.abandon p station).1 := by
  have hback : ∀ site, h.holder site = some p →
      h.Spares p { h with holder := Function.update h.holder site none } := by
    intro site hown
    refine ⟨fun _ _ hfound => ⟨_, hfound⟩, ?_, fun _ _ _ _ _ hfound => hfound⟩
    intro other q hheld hne
    have hother : other ≠ site := by
      rintro rfl
      rw [hown, Option.some.injEq] at hheld
      exact hne hheld.symm
    exact (Function.update_of_ne hother ..).trans hheld
  cases station with
  | inside site turn => exact hback site hserves.2.1
  | waiting site m next => exact hback site hserves.2.1
  | _ => exact Ground.spares_of_extends (.refl _) rfl

@[simp] theorem Ground.registry_abandon (h : Ground ι σ) (p : Party ι) (station : Station) :
    (h.abandon p station).1.registry = h.registry := by
  cases station <;> rfl

/-- It has nothing to do any more. -/
theorem Ground.abandon_cases (h : Ground ι σ) (p : Party ι) (station : Station) :
    (h.abandon p station).2 = .gone ∨
      (h.abandon p station).2 = station ∧
        (station = .absent ∨ ∃ result, station = .done result) := by
  cases station with
  | absent => exact Or.inr ⟨rfl, Or.inl rfl⟩
  | done result => exact Or.inr ⟨rfl, Or.inr ⟨result, rfl⟩⟩
  | _ => exact Or.inl rfl

/-! ## Section 6: Every run -/

namespace Scene

variable {load : ι → Job} {w : Scene ι σ}

/-- A party hands work over to its task, or what it does concerns no other station. -/
theorem advance_cases (o : Outside σ) (w : Scene ι σ) (p : Party ι) :
    (∃ t work, p = .caller t ∧ w.station (.caller t) = .ahead (.handOver work) ∧
      w.advance o p = ⟨w.ground, Function.update
        (Function.update w.station (.caller t) .joining) (.task t) (.ahead work)⟩) ∨
    w.advance o p =
      ⟨(w.ground.act o p (w.station (.task p.job)) (w.station p)).ground,
        Function.update w.station p
          (w.ground.act o p (w.station (.task p.job)) (w.station p)).station⟩ := by
  cases hspawned : (w.ground.act o p (w.station (.task p.job)) (w.station p)).spawned with
  | none =>
    right
    simp only [advance, hspawned]
  | some work =>
    left
    obtain ⟨⟨t, rfl⟩, hstation⟩ := Ground.spawned_act hspawned
    refine ⟨t, work, rfl, hstation, ?_⟩
    simp only [advance, hstation, Ground.act, Party.job]

theorem Sound.advance (hw : w.Sound load) (o : Outside σ) (p : Party ι) :
    (w.advance o p).Sound load := by
  have hspares : w.ground.Spares p
      (w.ground.act o p (w.station (.task p.job)) (w.station p)).ground := (hw.serves p).spares
  have hothers : ∀ q, q ≠ p → (w.station q).Serves (load q.job) q
      (w.ground.act o p (w.station (.task p.job)) (w.station p)).ground :=
    fun q hne => (hw.serves q).of_spares hspares hne
  rcases w.advance_cases o p with ⟨t, work, rfl, hstation, hadvance⟩ | hadvance
  · have hwork : work.Serves (load t) w.ground.registry := by
      have hcaller := hw.serves (.caller t)
      rw [hstation] at hcaller
      exact hcaller
    rw [hadvance]
    refine ⟨hw.registry, fun q => ?_⟩
    by_cases htask : q = .task t
    · subst htask
      simp only [Function.update_self]
      exact hwork
    · simp only [Function.update_of_ne htask]
      by_cases hcaller : q = .caller t
      · subst hcaller
        simp only [Function.update_self]
        trivial
      · simp only [Function.update_of_ne hcaller]
        exact hw.serves q
  · rw [hadvance]
    refine ⟨(hw.serves p).alters.sound (hw.serves p) hw.registry, fun q => ?_⟩
    by_cases heq : q = p
    · subst heq
      simp only [Function.update_self]
      exact (hw.serves q).act hw.registry
    · simp only [Function.update_of_ne heq]
      exact hothers q heq

theorem Sound.giveUp (hw : w.Sound load) (t : ι) : (w.giveUp t).Sound load := by
  have hspares := (hw.serves (.caller t)).spares_abandon
  refine ⟨by simpa [Scene.giveUp] using hw.registry, fun q => ?_⟩
  simp only [Scene.giveUp]
  by_cases heq : q = .caller t
  · subst heq
    rw [Function.update_self]
    rcases w.ground.abandon_cases (.caller t) (w.station (.caller t)) with hgone | ⟨hsame, hover⟩
    · rw [hgone]
      trivial
    · rw [hsame]
      rcases hover with hover | ⟨result, hover⟩ <;> rw [hover] <;> trivial
  · rw [Function.update_of_ne heq]
    exact (hw.serves q).of_spares hspares heq

/-- Who takes a step or gives up. -/
def Event.party : Event ι → Party ι
  | .step p => p
  | .giveUp t => .caller t

theorem Sound.spares (hw : w.Sound load) (o : Outside σ) (event : Event ι) :
    w.ground.Spares event.party (w.after o event).ground := by
  cases event with
  | step p => exact (hw.serves p).spares
  | giveUp t => exact (hw.serves (.caller t)).spares_abandon

theorem Sound.after (hw : w.Sound load) (o : Outside σ) (event : Event ι) :
    (w.after o event).Sound load := by
  cases event with
  | step p => exact hw.advance o p
  | giveUp t => exact hw.giveUp t

/-- **Custody**: in every run the registry is kept well, and every party has what it relies on. -/
theorem Sound.run (hw : w.Sound load) (o : Outside σ) (events : List (Event ι)) :
    (w.run o events).Sound load := by
  induction events generalizing w with
  | nil => exact hw
  | cons event rest ih => exact ih (hw.after o event)

end Scene

end ChassisRegistry
