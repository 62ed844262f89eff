import ChassisRegistry.Proofs.AllOrNothing
import ChassisRegistry.Proofs.Passwords
import ChassisRegistry.Proofs.Routes
import ChassisRegistry.Proofs.SnapshotRoundTrip

/-! # Discretion

    The operations of a registry do not look at passwords either: on a masked
    registry, with masked arguments and an outside that makes no difference
    between masked values and others, they come to the same results, but for the
    text of a snapshot, and the registry after it is masked.

    A sink gets the passwords within snapshots. A blob is masked by reading it,
    masking the record and writing it again.

    Main statement: `Duty.alone_masked`. -/

namespace ChassisRegistry

/-! ## Section 1: Maps, registries and blobs -/

namespace SiteMap

variable {α β : Type}

/-- The map with a function applied to every value. -/
def map (f : α → β) (m : SiteMap α) : SiteMap β where
  entries := m.entries.map fun x => (x.1, f x.2)
  sorted  := by
    rw [List.map_map]
    exact m.sorted

variable (f : α → β)

theorem lookup_map (s : Site) (xs : List (Site × α)) :
    lookup s (xs.map fun x => (x.1, f x.2)) = (lookup s xs).map f := by
  induction xs with
  | nil => rfl
  | cons head rest ih =>
    simp only [List.map_cons, lookup]
    split
    · rfl
    · exact ih

@[simp] theorem find?_map (m : SiteMap α) (s : Site) : (m.map f).find? s = (m.find? s).map f :=
  lookup_map f s m.entries

theorem contains_map (m : SiteMap α) (s : Site) : (m.map f).contains s = m.contains s := by
  unfold contains
  rw [find?_map, Option.isSome_map]

theorem place_map (s : Site) (x : α) (xs : List (Site × α)) :
    place s (f x) (xs.map fun x => (x.1, f x.2)) = (place s x xs).map fun x => (x.1, f x.2) := by
  induction xs with
  | nil => rfl
  | cons head rest ih =>
    simp only [List.map_cons, place]
    split
    · rfl
    · split
      · rfl
      · rw [ih]
        rfl

/-- Inserting and then applying the function is applying it and then inserting. -/
theorem insert_map (m : SiteMap α) (s : Site) (x : α) :
    (m.map f).insert s (f x) = (m.insert s x).map f := by
  simp only [insert, map, place_map]

end SiteMap

/-- An entry without its password. -/
def Entry.masked (e : Entry) : Entry :=
  { e with record := e.record.masked }

/-- A registry without the stored passwords. -/
def Registry.masked (g : Registry) : Registry :=
  ⟨g.entries.map Entry.masked⟩

/-- A blob without the password in it: what is written of the record without it. A blob that holds
    no record stays as it is. -/
def Snapshot.masked (bytes : ByteArray) : ByteArray :=
  match Snapshot.read bytes with
  | .ok r => (Snapshot.write r.masked).toUTF8
  | .error _ => bytes

/-- A request without its password, if one comes with it. -/
def Request.masked : Request → Request
  | create site endpoint rack shelf => .create site endpoint.masked rack shelf
  | change site what => .change site what.masked

/-- A request that waits, without its password. -/
def Pending.masked : Pending → Pending
  | create site endpoint rack shelf => .create site endpoint.masked rack shelf
  | change site plan => .change site plan.masked

/-- How far a request has got, without its password. -/
def Stage.masked : Stage → Stage
  | settled result after => .settled result after.masked
  | waiting call rest => .waiting call.masked rest.masked

/-- An operation without its password, if one comes with it. -/
def Duty.masked : Duty → Duty
  | request r => .request r.masked
  | ask q => .ask q
  | sites => .sites
  | dirtySites => .dirtySites
  | inventories => .inventories
  | reflow => .reflow
  | flush => .flush
  | restore => .restore

/-- Whether the halves of a record fit does not hang on the password. -/
theorem Record.Coherent.masked {r : Record} (h : r.Coherent) : r.masked.Coherent where
  laidOut  := h.laidOut
  numbered := h.numbered
  -- Linking does not touch the endpoint: the masked half linked is the linked half masked.
  linked   := congrArg Physical.Chassis.masked h.linked
  fits     := h.fits

namespace Snapshot

/-- The blob of a record, masked, is the blob of the masked record. -/
theorem masked_write {r : Record} (h : r.Coherent) :
    masked (write r).toUTF8 = (write r.masked).toUTF8 := by
  unfold masked
  rw [h.read_written]

/-- A masked blob holds the masked record. -/
theorem read_masked (bytes : ByteArray) : read (masked bytes) = (read bytes).map Record.masked := by
  unfold masked
  cases hread : read bytes with
  | error x =>
    simp only [hread]
    rfl
  | ok r =>
    obtain ⟨l, p, hjoin⟩ := Record.join_of_read hread
    exact (Record.coherent_of_join hjoin).masked.read_written

end Snapshot

/-! ## Section 2: Requests -/

/-- Screening looks at no more of a password than whether it is empty. -/
theorem requireLogin_concealed (user password : String) :
    requireLogin user (Endpoint.concealed password) = requireLogin user password := by
  simp only [requireLogin, Endpoint.concealed_eq_empty_iff]

theorem Entry.resume_masked (e : Entry) (plan : Plan) (reply : Except ChassisError Unit) :
    e.masked.resume plan.masked reply =
      ((e.resume plan reply).1, (e.resume plan reply).2.masked) := by
  cases reply with
  | error x => rfl
  | ok _ =>
    simp only [resume, masked, Record.carryOut_masked]
    rcases e.record.carryOut plan with ⟨result, record⟩
    cases result <;> rfl

namespace Registry

variable (g : Registry)

theorem entry_masked (site : Site) : g.masked.entry site = (g.entry site).map Entry.masked := by
  unfold entry masked
  rw [SiteMap.find?_map]
  cases g.entries.find? site <;> rfl

theorem put_masked (site : Site) (e : Entry) : g.masked.put site e.masked = (g.put site e).masked := by
  unfold put masked
  rw [SiteMap.insert_map]

theorem contains_masked (site : Site) : g.masked.entries.contains site = g.entries.contains site :=
  SiteMap.contains_map Entry.masked g.entries site

theorem replyTo_masked (call : Call) (reply : Except ProvisionerError Unit) :
    replyTo call.masked reply = replyTo call reply := by
  cases reply with
  | ok _ => rfl
  | error e =>
    simp only [replyTo, Except.mapError, ChassisError.ofRefusal_masked]

theorem screen_masked (request : Request) : g.masked.screen request.masked = g.screen request := by
  cases request with
  | create site endpoint rack shelf =>
    simp only [Request.masked, screen, Endpoint.masked, requireLogin_concealed, contains_masked]
  | change site what =>
    cases what with
    | login user password =>
      simp only [Request.masked, Change.masked, screen, requireLogin_concealed, entry_masked]
      cases g.entry site <;> rfl
    | attach | terminal =>
      simp only [Request.masked, Change.masked, screen, entry_masked]
      cases g.entry site <;> rfl

theorem settle_masked (site : Site) (plan : Plan) (reply : Except ChassisError Unit) :
    g.masked.settle site plan.masked reply =
      ((g.settle site plan reply).1, (g.settle site plan reply).2.masked) := by
  simp only [settle, entry_masked]
  cases g.entry site with
  | error x => rfl
  | ok e => simp only [Except.map, Entry.resume_masked, put_masked]

theorem resume_masked (p : Pending) (reply : Except ChassisError Unit) :
    g.masked.resume p.masked reply = ((g.resume p reply).1, (g.resume p reply).2.masked) := by
  cases p with
  | create site endpoint rack shelf =>
    cases reply with
    | error x => rfl
    | ok _ =>
      simp only [Pending.masked, resume, contains_masked]
      split
      · rfl
      · exact congrArg _ (g.put_masked site ⟨.create site endpoint rack shelf, true⟩)
  | change site plan => exact g.settle_masked site plan reply

theorem start_masked (request : Request) : g.masked.start request.masked = (g.start request).masked := by
  cases request with
  | create site endpoint rack shelf => rfl
  | change site what =>
    simp only [Request.masked, start, entry_masked]
    cases g.entry site with
    | error x => rfl
    | ok e =>
      have hplan : e.masked.record.plan what.masked = (e.record.plan what).map Plan.masked :=
        e.record.plan_masked what
      simp only [Except.map, hplan]
      cases e.record.plan what with
      | error x => rfl
      | ok plan =>
        simp only [Plan.call?_masked]
        cases plan.call? with
        | none => simp only [Option.map_none, settle_masked, Stage.masked]
        | some call => rfl

end Registry

/-! ## Section 3: An outside without an eye for passwords -/

/-- An outside makes no difference between masked values and others: its replies are the same, and
    its state after a masked value is the masked state. -/
structure Outside.Blind {σ : Type} (o : Outside σ) (mask : σ → σ) : Prop where
  call  : ∀ c s, o.provisioner c.masked (mask s) =
    ((o.provisioner c s).1, mask (o.provisioner c s).2)
  store : ∀ site bytes s, o.sink.store site (Snapshot.masked bytes) (mask s) =
    ((o.sink.store site bytes s).1, mask (o.sink.store site bytes s).2)
  load  : ∀ s, o.sink.load (mask s) =
    (o.sink.load s).map (List.map fun x => (x.1, Snapshot.masked x.2))

variable {σ : Type} {o : Outside σ} {mask : σ → σ} {s : σ}

/-- **Requests** are served without an eye for passwords. -/
theorem Outside.Blind.serve_masked (h : o.Blind mask) (g : Registry) (request : Request) :
    g.masked.serve request.masked o.provisioner (mask s) =
      ((g.serve request o.provisioner s).1, (g.serve request o.provisioner s).2.1.masked,
        mask (g.serve request o.provisioner s).2.2) := by
  simp only [Registry.serve, Registry.screen_masked]
  cases g.screen request with
  | error x => rfl
  | ok found =>
    cases found with
    | some answer => rfl
    | none =>
      simp only [Registry.finish, Registry.start_masked]
      cases g.start request with
      | settled result after => rfl
      | waiting call rest =>
        simp only [Stage.masked, h.call, Registry.replyTo_masked, Registry.resume_masked]

/-! ### Reflows -/

theorem Outside.Blind.callEach_masked (h : o.Blind mask)
    (count : ReflowReport → Except ProvisionerError Unit → ReflowReport) (calls : List Call)
    (report : ReflowReport) :
    Record.callEach o.provisioner count (calls.map Call.masked) report (mask s) =
      ((Record.callEach o.provisioner count calls report s).1,
        mask (Record.callEach o.provisioner count calls report s).2) := by
  induction calls generalizing report s with
  | nil => rfl
  | cons call rest ih =>
    simp only [List.map_cons, Record.callEach, h.call]
    exact ih _

theorem Outside.Blind.reflow_masked (h : o.Blind mask) (r : Record) (report : ReflowReport) :
    r.masked.reflow o.provisioner report (mask s) =
      ((r.reflow o.provisioner report s).1, mask (r.reflow o.provisioner report s).2) := by
  have hcards : (r.cardNotices.map CardNotice.masked).map Call.addCard =
      (r.cardNotices.map Call.addCard).map Call.masked := by
    rw [List.map_map, List.map_map]
    rfl
  simp only [Record.reflow, Record.cardNotices_masked, Record.activeNotices_masked, hcards,
    h.callEach_masked]
  cases r.activeNotices with
  | error x => rfl
  | ok notices =>
    have hnotices : (notices.map TerminalNotice.masked).map Call.activate =
        (notices.map Call.activate).map Call.masked := by
      rw [List.map_map, List.map_map]
      rfl
    simp only [Except.map, hnotices, h.callEach_masked]

theorem Outside.Blind.reflowEach_masked (h : o.Blind mask) (rs : List Record)
    (report : ReflowReport) :
    Registry.reflowEach o.provisioner (rs.map Record.masked) report (mask s) =
      ((Registry.reflowEach o.provisioner rs report s).1,
        mask (Registry.reflowEach o.provisioner rs report s).2) := by
  induction rs generalizing report s with
  | nil => rfl
  | cons r rest ih =>
    simp only [List.map_cons, Registry.reflowEach, h.reflow_masked]
    exact ih _

/-! ### Flushes and restorations -/

theorem Outside.Blind.flushEntry_masked (h : o.Blind mask) (report : FlushReport) (g : Registry)
    (site : Site) {e : Entry} (hcoherent : e.record.Coherent) :
    Registry.flushEntry o.sink report g.masked (mask s) site e.masked =
      ((Registry.flushEntry o.sink report g s site e).1,
        (Registry.flushEntry o.sink report g s site e).2.1.masked,
        mask (Registry.flushEntry o.sink report g s site e).2.2) := by
  have hblob : (Snapshot.write e.masked.record).toUTF8 =
      Snapshot.masked (Snapshot.write e.record).toUTF8 := (Snapshot.masked_write hcoherent).symm
  have hdirty : e.masked.dirty = e.dirty := rfl
  unfold Registry.flushEntry
  rw [hblob, hdirty, h.store]
  split
  · rcases o.sink.store site (Snapshot.write e.record).toUTF8 s with ⟨reply, s'⟩
    cases reply with
    | error x => rfl
    | ok _ =>
      have hput := g.put_masked site { e with dirty := false }
      simp only [← hput]
      rfl
  · rfl

theorem Outside.Blind.flushEach_masked (h : o.Blind mask) {xs : List (Site × Entry)}
    (hcoherent : ∀ x ∈ xs, x.2.record.Coherent) (report : FlushReport) (g : Registry) :
    Registry.flushEach o.sink (xs.map fun x => (x.1, x.2.masked)) report g.masked (mask s) =
      ((Registry.flushEach o.sink xs report g s).1,
        (Registry.flushEach o.sink xs report g s).2.1.masked,
        mask (Registry.flushEach o.sink xs report g s).2.2) := by
  induction xs generalizing report g s with
  | nil => rfl
  | cons head rest ih =>
    obtain ⟨hhead, hrest⟩ := List.forall_mem_cons.mp hcoherent
    simp only [List.map_cons, Registry.flushEach, h.flushEntry_masked report g head.1 hhead]
    exact ih hrest _ _

theorem Registry.restorable_masked (g : Registry) (site : Site) (blob : ByteArray) :
    g.masked.restorable site (Snapshot.masked blob) =
      (g.restorable site blob).map Record.masked := by
  unfold restorable
  rw [Snapshot.read_masked, contains_masked]
  cases Snapshot.read blob with
  | error x => rfl
  | ok r =>
    simp only [Except.map]
    by_cases huse : r.site = site ∧ (!g.entries.contains site) = true
    · rw [if_pos huse]
      exact if_pos huse
    · rw [if_neg huse]
      exact if_neg huse

theorem Registry.restoreEach_masked (blobs : List (Site × ByteArray)) (report : RestoreReport)
    (g : Registry) :
    restoreEach (blobs.map fun x => (x.1, Snapshot.masked x.2)) report g.masked =
      ((restoreEach blobs report g).1, (restoreEach blobs report g).2.masked) := by
  induction blobs generalizing report g with
  | nil => rfl
  | cons head rest ih =>
    simp only [List.map_cons, restoreEach, restorable_masked]
    cases g.restorable head.1 head.2 with
    | none => exact ih _ g
    | some r =>
      have hput := g.put_masked head.1 ⟨r, false⟩
      simp only [Option.map_some]
      rw [← ih, ← hput]
      rfl

/-! ## Section 4: Operations -/

/-- What an operation gives, without the text of a snapshot. -/
def Duty.Outcome.withoutSnapshot : Duty.Outcome → Duty.Outcome
  | visit (.finding f) => .visit (.finding f.withoutSnapshot)
  | other => other

/-- How an operation ends, without the text of a snapshot. -/
def Duty.Result.withoutSnapshot (result : Duty.Result) : Duty.Result :=
  result.map Duty.Outcome.withoutSnapshot

namespace Registry

variable {g : Registry}

theorem ask_masked (g : Registry) (q : Query) :
    (g.masked.ask q).map Finding.withoutSnapshot = (g.ask q).map Finding.withoutSnapshot := by
  unfold ask
  rw [entry_masked]
  cases g.entry q.site with
  | error x => rfl
  | ok e =>
    have hfind := e.record.find_masked q
    show ((e.record.masked.find q).mapError RegistryError.chassis).map _ =
      ((e.record.find q).mapError RegistryError.chassis).map _
    cases hmasked : e.record.masked.find q <;> cases hopen : e.record.find q <;>
      simp_all [Except.map, Except.mapError]

theorem sites_masked (g : Registry) : g.masked.sites = g.sites := by
  simp only [sites, SiteMap.sites, masked, SiteMap.map, List.map_map]
  rfl

theorem dirtySites_masked (g : Registry) : g.masked.dirtySites = g.dirtySites := by
  simp only [dirtySites, masked, SiteMap.map, List.filter_map, List.map_map]
  rfl

theorem inventories_masked (g : Registry) : g.masked.inventories = g.inventories := by
  simp only [inventories, masked, SiteMap.map, List.map_map]
  rfl

/-- Every entry in the list of a sound registry is fit for its site. -/
theorem Sound.own_of_mem (h : g.Sound) : ∀ x ∈ g.entries.entries, x.2.Own x.1 := by
  intro x hx
  have hfound : g.entries.find? x.1 = some x.2 := SiteMap.lookup_of_mem g.entries.nodup hx
  exact h hfound

end Registry

/-- **Operations** have no eye for passwords. -/
theorem Duty.alone_masked (h : o.Blind mask) {g : Registry} (hg : g.Sound) (d : Duty) :
    (d.masked.alone o g.masked (mask s)).1.withoutSnapshot =
        (d.alone o g s).1.withoutSnapshot ∧
      (d.masked.alone o g.masked (mask s)).2 =
        ((d.alone o g s).2.1.masked, mask (d.alone o g s).2.2) := by
  cases d with
  | request r =>
    simp only [masked, alone, h.serve_masked, and_self]
  | ask q =>
    refine ⟨?_, rfl⟩
    have hask := g.ask_masked q
    simp only [masked, alone]
    cases hmasked : g.masked.ask q <;> cases hopen : g.ask q <;>
      simp_all [Result.withoutSnapshot, Outcome.withoutSnapshot, Except.map]
  | sites =>
    simp only [masked, alone, Registry.sites_masked, and_self]
  | dirtySites =>
    simp only [masked, alone, Registry.dirtySites_masked, and_self]
  | inventories =>
    simp only [masked, alone, Registry.inventories_masked, and_self]
  | reflow =>
    have hrecords : (g.masked.entries.entries.map fun e => e.2.record) =
        (g.entries.entries.map fun e => e.2.record).map Record.masked := by
      simp only [Registry.masked, SiteMap.map, List.map_map]
      rfl
    simp only [masked, alone, Registry.reflow, hrecords, h.reflowEach_masked, and_self]
  | flush =>
    have hentries : g.masked.entries.entries =
        g.entries.entries.map fun x => (x.1, x.2.masked) := rfl
    have hcoherent : ∀ x ∈ g.entries.entries, x.2.record.Coherent := fun x hx =>
      (hg.own_of_mem x hx).coherent
    simp only [masked, alone, Registry.flush, hentries, h.flushEach_masked hcoherent, and_self]
  | restore =>
    simp only [masked, alone, Registry.restore, h.load]
    cases o.sink.load s with
    | error x => exact ⟨rfl, rfl⟩
    | ok blobs =>
      simp only [Except.map, Registry.restoreEach_masked, and_self]

end ChassisRegistry
