import ChassisRegistry.Proofs.SiteMap
import ChassisRegistry.Registry.Flush
import ChassisRegistry.Registry.Query
import ChassisRegistry.Registry.Reflow

/-! # Visits to a site

    A visit is one operation on one site: a change, a question, or the part
    that the site has in a pass over all sites. A pass visits the sites one
    after the other and holds one lock at a time.

    A visit is described twice. `Visit.alone` performs it in one go, with the
    operations of the registry. `Visit.turn` are the steps that it takes once
    it has the lock of its site: it reads and writes the entry, sends messages
    and waits for their replies, and leaves with a result. Between two steps
    anything may happen elsewhere.

    Main statement: by itself, a turn does what the operation does
    (`Visit.alone_of_admitted`). -/

namespace ChassisRegistry

/-! ## Section 1: The outside -/

/-- What a visit sends out: a call, or a snapshot to be stored. -/
inductive Message where
  | call (c : Call)
  | blob (bytes : ByteArray)

/-- What may come back. -/
abbrev Message.Reply : Message → Type
  | .call _ => Except ProvisionerError Unit
  | .blob _ => Except SinkError Unit

/-- The replies to a visit: any reply to any message, after the messages that it sent before. -/
abbrev Script := List Message → (m : Message) → m.Reply

namespace Script

/-- The provisioning system that replies by a script and keeps the messages. -/
def provisioner (script : Script) : Provisioner (List Message) := fun call sent =>
  (script sent (.call call), sent ++ [.call call])

/-- The sink that replies by a script and keeps the messages. Nothing is loaded from it. -/
def sink (script : Script) : Sink (List Message) where
  store _ bytes sent := (script sent (.blob bytes), sent ++ [.blob bytes])
  load _ := .ok []

end Script

/-! ## Section 2: Visits in one go -/

/-- An operation on one site. -/
inductive Visit where
  | change (site : Site) (what : Change)
  | query (q : Query)
  /-- Has the site changes that no sink has taken yet? -/
  | inspect (site : Site)
  | flush (site : Site)
  | reflow (site : Site)
  deriving DecidableEq

namespace Visit

/-- What a visit gives. -/
inductive Outcome where
  | answer (a : Answer)
  | finding (f : Finding)
  | dirty (b : Bool)
  | flushed (report : FlushReport)
  | reflowed (report : ReflowReport)

/-- How a visit ends. -/
abbrev Result := Except RegistryError Outcome

/-- The site that is visited. -/
def site : Visit → Site
  | change site _ | inspect site | flush site | reflow site => site
  | query q => q.site

/-- The login that comes with a visit, if one comes with it, must not be blank. -/
def checkLogin : Visit → Except RegistryError Unit
  | change _ (.login user password) => requireLogin user password
  | _ => .ok ()

/-- May the visit go on to the lock of its site? -/
def screen (g : Registry) : Visit → Except RegistryError Unit
  | change site what => (g.screen (.change site what)).map fun _ => ()
  | query q => (g.entry q.site).map fun _ => ()
  | inspect site | flush site | reflow site => (g.entry site).map fun _ => ()

/-- Performs a visit in one go: its result, the registry after it and the messages that it sent. -/
def alone (script : Script) (g : Registry) : Visit → Result × Registry × List Message
  | change site what =>
      let (result, g, sent) := g.serve (.change site what) script.provisioner []
      (result.map .answer, g, sent)
  | query q => ((g.ask q).map .finding, g, [])
  | inspect site => ((g.entry site).map fun e => .dirty e.dirty, g, [])
  | flush site =>
      match g.entry site with
      | .error x => (.error x, g, [])
      | .ok e =>
          let (report, g, sent) := g.flushEntry script.sink {} [] site e
          (.ok (.flushed report), g, sent)
  | reflow site =>
      match g.entry site with
      | .error x => (.error x, g, [])
      | .ok e =>
          let (report, sent) := e.record.reflow script.provisioner {} []
          (.ok (.reflowed report), g, sent)

end Visit

/-! ## Section 3: Turns -/

/-- What is left of a visit that has the lock of its site. -/
inductive Turn where
  /-- Writes the entry, and goes on with the entry as it was. -/
  | access (write : Entry → Entry) (next : Entry → Turn)
  /-- Sends a message, and goes on with the reply. -/
  | send (m : Message) (next : m.Reply → Turn)
  /-- Gives the lock back. -/
  | leave (result : Visit.Result)

namespace Turn

/-- Takes all steps of a turn: the result, the entry, and the messages behind those sent before. -/
def run (script : Script) : Turn → Entry → List Message → Visit.Result × Entry × List Message
  | access write next, e, sent => (next e).run script (write e) sent
  | send m next, e, sent => (next (script sent m)).run script e (sent ++ [m])
  | leave result, e, sent => (result, e, sent)

/-- Commits a plan whose call was accepted, and then marks the site. -/
def commit (plan : Plan) : Turn :=
  access (fun e => { e with record := (e.record.carryOut plan).2 }) fun e =>
    -- The mark is a step of its own: between the two, others may look at other sites.
    match (e.record.carryOut plan).1 with
    | .error x => leave (.error (.chassis x))
    | .ok answer => access (fun e => { e with dirty := true }) fun _ => leave (.ok (.answer answer))

/-- Prepares a change on the present record, sends its call, and commits it when it is accepted. -/
def change (what : Change) : Turn :=
  access id fun e =>
    match e.record.plan what with
    | .error x => leave (.error (.chassis x))
    | .ok plan =>
        match plan.call? with
        | none => commit plan
        | some call => send (.call call) fun reply =>
            match Registry.replyTo call reply with
            | .error x => leave (.error (.chassis x))
            | .ok () => commit plan

/-- Reads the record, and offers its snapshot to a sink if it has changed. -/
def flush : Turn :=
  access id fun e =>
    if e.dirty then
      send (.blob (Snapshot.write e.record).toUTF8) fun reply =>
        match reply with
        | .ok () => access (fun e => { e with dirty := false }) fun _ =>
            leave (.ok (.flushed { stored := 1 }))
        | .error _ => leave (.ok (.flushed { failed := 1 }))
    else leave (.ok (.flushed { clean := 1 }))

/-- Sends calls, one after the other, and counts the replies. -/
def callEach (count : ReflowReport → Except ProvisionerError Unit → ReflowReport) :
    List Call → ReflowReport → (ReflowReport → Turn) → Turn
  | [], report, next => next report
  | call :: rest, report, next =>
      send (.call call) fun reply => callEach count rest (count report reply) next

/-- Tells of the cards of the record, reads it again, and tells of its active terminals. -/
def reflow : Turn :=
  access id fun e =>
    callEach .countCard (e.record.cardNotices.map .addCard) {} fun report =>
      access id fun e =>
        match e.record.activeNotices with
        | .error _ => leave (.ok (.reflowed { report with failures := report.failures + 1 }))
        | .ok notices =>
            callEach .countTerminal (notices.map .activate) report fun report =>
              leave (.ok (.reflowed report))

end Turn

/-- The steps of a visit that has the lock of its site. -/
def Visit.turn : Visit → Turn
  | change _ what => .change what
  | query q => .access id fun e =>
      .leave (((e.record.find q).mapError .chassis).map .finding)
  | inspect _ => .access id fun e => .leave (.ok (.dirty e.dirty))
  | flush _ => .flush
  | reflow _ => .reflow

/-! ## Section 4: A turn by itself -/

namespace Registry

theorem entry_of_some {g : Registry} {site : Site} {e : Entry}
    (hfound : g.entries.find? site = some e) : g.entry site = .ok e := by
  rw [entry, hfound]

theorem entry_of_none {g : Registry} {site : Site} (hnone : g.entries.find? site = none) :
    g.entry site = .error (.unknownSite site) := by
  rw [entry, hnone]

theorem put_find? {g : Registry} {site : Site} {e : Entry}
    (hfound : g.entries.find? site = some e) : g.put site e = g := by
  rw [put, SiteMap.insert_find? hfound]

/-- A change that is screened is refused or goes on. -/
theorem screen_change (g : Registry) (site : Site) (what : Change) :
    (∃ x, g.screen (.change site what) = .error x) ∨
      g.screen (.change site what) = .ok none ∧ ∃ e, g.entries.find? site = some e := by
  -- A login that is blank is refused before the site is looked up.
  cases hfound : g.entries.find? site with
  | none =>
    left
    cases what with
    | login user password =>
      simp only [screen, entry_of_none hfound]
      cases hlogin : requireLogin user password with
      | error x => exact ⟨x, rfl⟩
      | ok _ => exact ⟨_, rfl⟩
    | _ => exact ⟨.unknownSite site, by simp only [screen, entry_of_none hfound]; rfl⟩
  | some e =>
    cases what with
    | login user password =>
      simp only [screen, entry_of_some hfound]
      cases hlogin : requireLogin user password with
      | error x => exact Or.inl ⟨x, rfl⟩
      | ok _ => exact Or.inr ⟨rfl, e, rfl⟩
    | _ => exact Or.inr ⟨by simp only [screen, entry_of_some hfound]; rfl, e, rfl⟩

/-- A plan is settled as the entry resumes. -/
theorem settle_of_some {g : Registry} {site : Site} {e : Entry}
    (hfound : g.entries.find? site = some e) (plan : Plan) (reply : Except ChassisError Unit) :
    g.settle site plan reply =
      ((e.resume plan reply).1.mapError .chassis, g.put site (e.resume plan reply).2) := by
  simp only [settle, entry_of_some hfound]

end Registry

open Registry (entry_of_some entry_of_none put_find? settle_of_some)

namespace Turn

variable {script : Script}

/-- Committing and marking is what an entry does when the call was accepted. -/
theorem run_commit (plan : Plan) (e : Entry) (sent : List Message) :
    (commit plan).run script e sent =
      (((e.resume plan (.ok ())).1.mapError .chassis).map .answer,
        (e.resume plan (.ok ())).2, sent) := by
  simp only [commit, run, Entry.resume]
  rcases e.record.carryOut plan with ⟨result, record⟩
  cases result with
  | error x => rfl
  | ok answer => rfl

/-- Calls that are sent step by step are the calls of a reflow. -/
theorem run_callEach (count : ReflowReport → Except ProvisionerError Unit → ReflowReport)
    (calls : List Call) (report : ReflowReport) (next : ReflowReport → Turn) (e : Entry)
    (sent : List Message) :
    (callEach count calls report next).run script e sent =
      (next (Record.callEach script.provisioner count calls report sent).1).run script e
        (Record.callEach script.provisioner count calls report sent).2 := by
  induction calls generalizing report sent with
  | nil => rfl
  | cons call rest ih => exact ih _ _

/-- A reflow step by step is the reflow of the record, and leaves the entry as it is. -/
theorem run_reflow (e : Entry) (sent : List Message) :
    reflow.run script e sent =
      (.ok (.reflowed (e.record.reflow script.provisioner {} sent).1), e,
        (e.record.reflow script.provisioner {} sent).2) := by
  simp only [reflow, run, run_callEach, Record.reflow, id]
  cases e.record.activeNotices with
  | error x => rfl
  | ok notices =>
    show (callEach _ _ _ _).run script e _ = _
    rw [run_callEach]
    rfl

end Turn

namespace Visit

variable {script : Script} {g : Registry}

/-- A visit that is not admitted has no effect. -/
theorem alone_of_refused {v : Visit} {x : RegistryError} (hscreen : v.screen g = .error x) :
    v.alone script g = (.error x, g, []) := by
  -- All visits but changes are refused by the look-up alone.
  have hentry : ∀ {site}, ((g.entry site).map fun _ => ()) = .error x → g.entry site = .error x := by
    intro site h
    cases hsite : g.entry site with
    | error y =>
      rw [hsite] at h
      cases h
      rfl
    | ok e =>
      rw [hsite] at h
      cases h
  cases v with
  | change site what =>
    rcases g.screen_change site what with ⟨y, hy⟩ | ⟨hok, _⟩
    · simp only [screen, hy, Except.map, Except.error.injEq] at hscreen
      simp only [alone, Registry.serve, hy, hscreen, Except.map]
    · simp only [screen, hok, Except.map] at hscreen
      cases hscreen
  | query q =>
    simp only [alone, Registry.ask, hentry hscreen]
    rfl
  | inspect site =>
    simp only [alone, hentry hscreen]
    rfl
  | flush site => simp only [alone, hentry hscreen]
  | reflow site => simp only [alone, hentry hscreen]

/-- Of a site that is not there, the login is refused first. -/
theorem screen_of_none {v : Visit} (hnone : g.entries.find? v.site = none) :
    v.screen g = v.checkLogin.bind fun _ => .error (.unknownSite v.site) := by
  have hentry : g.entry v.site = .error (.unknownSite v.site) := entry_of_none hnone
  cases v with
  | change site what =>
    simp only [Visit.site] at hentry
    cases what with
    | login user password =>
      simp only [screen, Registry.screen, hentry, checkLogin, Visit.site]
      cases requireLogin user password with
      | error x => rfl
      | ok _ => rfl
    | _ => simp only [screen, Registry.screen, hentry]; rfl
  | _ =>
    simp only [Visit.site] at hentry
    simp only [screen, hentry]
    rfl

/-- Of a site that is there, only the login is checked. -/
theorem screen_of_some {v : Visit} {e : Entry} (hfound : g.entries.find? v.site = some e) :
    v.screen g = v.checkLogin := by
  have hentry : g.entry v.site = .ok e := entry_of_some hfound
  cases v with
  | change site what =>
    simp only [Visit.site] at hentry
    cases what with
    | login user password =>
      simp only [screen, Registry.screen, hentry, checkLogin]
      cases requireLogin user password with
      | error x => rfl
      | ok _ => rfl
    | _ => simp only [screen, Registry.screen, hentry]; rfl
  | _ =>
    simp only [Visit.site] at hentry
    simp only [screen, hentry]
    rfl

/-- A visit that is admitted finds the entry of its site. -/
theorem exists_entry {v : Visit} (hscreen : v.screen g = .ok ()) :
    ∃ e, g.entries.find? v.site = some e := by
  cases hfound : g.entries.find? v.site with
  | some e => exact ⟨e, rfl⟩
  | none =>
    rw [screen_of_none hfound] at hscreen
    cases hlogin : v.checkLogin with
    | error x =>
      rw [hlogin] at hscreen
      cases hscreen
    | ok _ =>
      rw [hlogin] at hscreen
      cases hscreen

/-- Whether a visit is admitted depends on whether its site is there, and on no record. -/
theorem screen_congr {v : Visit} {g' : Registry}
    (hsame : (g.entries.find? v.site).isSome = (g'.entries.find? v.site).isSome) :
    v.screen g = v.screen g' := by
  cases hfound : g.entries.find? v.site with
  | none =>
    rw [hfound] at hsame
    have hnone : g'.entries.find? v.site = none := by simpa using hsame.symm
    rw [screen_of_none hfound, screen_of_none hnone]
  | some e =>
    rw [hfound] at hsame
    obtain ⟨e', hfound'⟩ := Option.isSome_iff_exists.mp hsame.symm
    rw [screen_of_some hfound, screen_of_some hfound']

/-- A change by itself goes through the steps of its turn. -/
theorem alone_change {site : Site} {what : Change} {e e' : Entry} {result : Result}
    {sent : List Message} (hscreen : (change site what).screen g = .ok ())
    (hfound : g.entries.find? site = some e)
    (hrun : (Turn.change what).run script e [] = (result, e', sent)) :
    (change site what).alone script g = (result, g.put site e', sent) := by
  have hgo : g.screen (.change site what) = .ok none := by
    rcases g.screen_change site what with ⟨x, hx⟩ | ⟨hok, _⟩
    · simp only [screen, hx, Except.map] at hscreen
      cases hscreen
    · exact hok
  simp only [alone, Registry.serve, hgo, Registry.finish, Registry.start, entry_of_some hfound]
  simp only [Turn.change, Turn.run, id] at hrun
  -- A refused plan, a plan without a call, and a call that is turned down or accepted.
  cases hplan : e.record.plan what with
  | error x =>
    simp only [hplan, Turn.run, Prod.mk.injEq] at hrun
    obtain ⟨rfl, rfl, rfl⟩ := hrun
    rw [put_find? hfound]
    rfl
  | ok plan =>
    simp only [hplan] at hrun
    cases hcall : plan.call? with
    | none =>
      simp only [hcall, Turn.run_commit, Prod.mk.injEq] at hrun
      obtain ⟨rfl, rfl, rfl⟩ := hrun
      simp only [hcall, settle_of_some hfound]
    | some call =>
      simp only [hcall, Turn.run, List.nil_append] at hrun
      simp only [hcall, Script.provisioner, Registry.resume, settle_of_some hfound,
        List.nil_append]
      cases hreply : Registry.replyTo call (script [] (.call call)) with
      | error x =>
        simp only [hreply, Turn.run, Prod.mk.injEq] at hrun
        obtain ⟨rfl, rfl, rfl⟩ := hrun
        rfl
      | ok _ =>
        simp only [hreply, Turn.run_commit, Prod.mk.injEq] at hrun
        obtain ⟨rfl, rfl, rfl⟩ := hrun
        rfl

/-- A flush by itself goes through the steps of its turn. -/
theorem alone_flush {site : Site} {e e' : Entry} {result : Result} {sent : List Message}
    (hfound : g.entries.find? site = some e)
    (hrun : Turn.flush.run script e [] = (result, e', sent)) :
    (flush site).alone script g = (result, g.put site e', sent) := by
  simp only [alone, entry_of_some hfound, Registry.flushEntry]
  simp only [Turn.flush, Turn.run, id] at hrun
  -- Only a snapshot that the sink took clears the mark.
  by_cases hdirty : e.dirty = true
  · simp only [if_pos hdirty, Turn.run, List.nil_append] at hrun
    rw [if_pos hdirty]
    simp only [Script.sink, List.nil_append]
    cases hreply : script [] (.blob (Snapshot.write e.record).toUTF8) with
    | error x =>
      simp only [hreply, Turn.run, Prod.mk.injEq] at hrun
      obtain ⟨rfl, rfl, rfl⟩ := hrun
      rw [put_find? hfound]
    | ok _ =>
      simp only [hreply, Turn.run, Prod.mk.injEq] at hrun
      obtain ⟨rfl, rfl, rfl⟩ := hrun
      rfl
  · simp only [if_neg hdirty, Turn.run, Prod.mk.injEq] at hrun
    obtain ⟨rfl, rfl, rfl⟩ := hrun
    rw [if_neg hdirty, put_find? hfound]

/-- **A visit by itself**: an admitted visit does in one go what its turn does step by step. -/
theorem alone_of_admitted {v : Visit} {e e' : Entry} {result : Result} {sent : List Message}
    (hscreen : v.screen g = .ok ()) (hfound : g.entries.find? v.site = some e)
    (hrun : v.turn.run script e [] = (result, e', sent)) :
    v.alone script g = (result, g.put v.site e', sent) := by
  have hentry : g.entry v.site = .ok e := entry_of_some hfound
  have hsame : g.put v.site e = g := put_find? hfound
  cases v with
  | change site what => exact alone_change hscreen hfound hrun
  | flush site => exact alone_flush hfound hrun
  | query q =>
    simp only [turn, Turn.run, id, Prod.mk.injEq] at hrun
    obtain ⟨rfl, rfl, rfl⟩ := hrun
    rw [hsame]
    simp only [alone, Registry.ask, show g.entry q.site = .ok e from hentry]
    rfl
  | inspect site =>
    simp only [turn, Turn.run, id, Prod.mk.injEq] at hrun
    obtain ⟨rfl, rfl, rfl⟩ := hrun
    rw [hsame]
    simp only [alone, show g.entry site = .ok e from hentry]
    rfl
  | reflow site =>
    simp only [turn, Turn.run_reflow, Prod.mk.injEq] at hrun
    obtain ⟨rfl, rfl, rfl⟩ := hrun
    rw [hsame]
    simp only [alone, show g.entry site = .ok e from hentry]

end Visit

end ChassisRegistry
