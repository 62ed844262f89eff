import ChassisRegistry.Proofs.CompleteServices
import ChassisRegistry.Proofs.Custody

/-! # Annals

    Annals are a registry at work together with what was done to every site:
    the changes that were carried out on the way to its record. A change is
    begun when its site is free for it, and is written down when it comes to
    its end. A restart takes every site back to what was done before its last
    store.

    Main statement: `Annals.accurate`, every record is what was done to its
    site. -/

namespace ChassisRegistry

open Traffic (Event)

/-! ## Section 1: Writing down what is done -/

/-- A registry at work, with what was done on the way to its records. -/
structure Annals (σ : Type) where
  traffic : Traffic σ
  /-- The change that was begun at a site last. -/
  begun   : Site → Option Change
  /-- The changes that were carried out on the way to the record of a site. -/
  deeds   : Site → List Change
  /-- The same of the record that the sink took last. -/
  saved   : Site → List Change

/-- The record of a site. -/
def Traffic.record? {σ : Type} (w : Traffic σ) (site : Site) : Option Record :=
  (w.registry.entries.find? site).map Entry.record

namespace Annals

variable {σ : Type}

/-- Nothing has been done yet. -/
def start (s : σ) : Annals σ := ⟨.start s, fun _ => none, fun _ => [], fun _ => []⟩

/-- A change is begun at a site that is free. -/
def beginning (a : Annals σ) : Event → Site → Option Change
  | .change site what =>
      if (a.traffic.flight site).isNone then Function.update a.begun site (some what) else a.begun
  | _ => a.begun

/-- The change that comes to its end: at once, if nobody has to be asked, and otherwise once its
    call was accepted. -/
def deed? (a : Annals σ) : Event → Option (Site × Change)
  | .change site what =>
      match a.traffic.flight site, a.traffic.registry.screen (.change site what),
          a.traffic.registry.start (.change site what) with
      | none, .ok none, .settled (.ok _) _ => some (site, what)
      | _, _, _ => none
  | .finish site =>
      match a.traffic.flight site, a.begun site with
      | some f, some what => if f.accepted then some (site, what) else none
      | _, _ => none
  | _ => none

/-- The deeds of all sites, with one more. -/
def noting (deeds : Site → List Change) : Option (Site × Change) → Site → List Change
  | some (site, what) => Function.update deeds site (deeds site ++ [what])
  | none => deeds

/-- The annals after what comes next. A site that was stored will be taken back to this moment. -/
def step (sink : Sink σ) (a : Annals σ) : Occasion → Annals σ
  | .event e =>
      let w := a.traffic.step sink e
      let deeds := noting a.deeds (a.deed? e)
      let taken := (w.stored.drop a.traffic.stored.length).map Prod.fst
      ⟨w, a.beginning e, deeds, fun site => if site ∈ taken then deeds site else a.saved site⟩
  | .restart => ⟨a.traffic.restart sink, a.begun, a.saved, a.saved⟩

/-! ## Section 2: All that an event can mean -/

/-- What an event means for the records, for the changes on the way and for what is written down. -/
inductive Turns (a : Annals σ) (w : Traffic σ) (begun : Site → Option Change)
    (deeds : Site → List Change) : Prop where
  /-- No record is another one, and no change gets on its way. -/
  | kept (hbegun : begun = a.begun) (hdeeds : deeds = a.deeds)
      (hrecords : w.record? = a.traffic.record?)
      (hflights : ∀ site f', w.flight site = some f' →
        ∃ f, a.traffic.flight site = some f ∧ f'.rest = f.rest)
  | created {site : Site} (endpoint : Endpoint) (rack shelf : UInt32) (hbegun : begun = a.begun)
      (hdeeds : deeds = a.deeds) (hnone : a.traffic.record? site = none)
      (hrecords : w.record? =
        Function.update a.traffic.record? site (some (.create site endpoint rack shelf)))
      (hflight : w.flight = a.traffic.flight)
  /-- A change is begun, and may get on its way. -/
  | started {site : Site} {what : Change} (flown : Option Flight)
      (hbegun : begun = Function.update a.begun site (some what)) (hdeeds : deeds = a.deeds)
      (hrecords : w.record? = a.traffic.record?)
      (hflight : w.flight = Function.update a.traffic.flight site flown)
      (hplanned : ∀ f, flown = some f → ∃ r plan, a.traffic.record? site = some r ∧
        r.plan what = .ok plan ∧ f.rest = .change site plan)
  /-- A change comes to its end. -/
  | done {site : Site} {what : Change} {r : Record} {plan : Plan}
      (hbegun : ∀ other, other ≠ site → begun other = a.begun other)
      (hdeeds : deeds = Function.update a.deeds site (a.deeds site ++ [what]))
      (hrecord : a.traffic.record? site = some r) (hplan : r.plan what = .ok plan)
      (hrecords : w.record? = Function.update a.traffic.record? site (some (r.after what)))
      (hflight : w.flight = Function.update a.traffic.flight site none)

/-- The annals say what was done: a change on the way was planned on the present record, and what is
    written down has led to the records, to those in the registry and to those in the sink. -/
structure Accurate (blobs : σ → Site → Option ByteArray) (a : Annals σ) : Prop where
  safe  : a.traffic.Safe blobs
  begun : ∀ {site f}, a.traffic.flight site = some f → ∃ r what plan, a.begun site = some what ∧
    a.traffic.record? site = some r ∧ r.plan what = .ok plan ∧ f.rest = .change site plan
  deeds : ∀ site, Record.Led site (a.deeds site) (a.traffic.record? site)
  saved : ∀ site, Record.Led site (a.saved site) (a.traffic.lastStored site)

variable {sink : Sink σ} {blobs : σ → Site → Option ByteArray} {a : Annals σ} {w : Traffic σ}

theorem record?_put (g : Registry) (site : Site) (e : Entry) (s : σ)
    (flight : Site → Option Flight) (log : List Call) (stored : List (Site × Record)) :
    Traffic.record? ⟨g.put site e, s, flight, log, stored⟩ =
      Function.update (fun site => (g.entries.find? site).map Entry.record) site
        (some e.record) := by
  funext other
  simp only [Traffic.record?, Traffic.find?_put]
  by_cases heq : other = site
  · rw [heq, Function.update_self, Function.update_self, Option.map_some]
  · rw [Function.update_of_ne heq, Function.update_of_ne heq]

theorem record?_of_find? {site : Site} {e : Entry}
    (hfound : w.registry.entries.find? site = some e) : w.record? site = some e.record := by
  rw [Traffic.record?, hfound, Option.map_some]

/-- The end of a creation. -/
theorem turns_create (site : Site) (endpoint : Endpoint) (rack shelf : UInt32)
    (reply : Except ProvisionerError Unit) :
    a.Turns (a.traffic.create site endpoint rack shelf reply) a.begun a.deeds := by
  unfold Traffic.create
  rcases a.traffic.registry.resume_create_cases site endpoint rack shelf
    (Registry.replyTo (.login endpoint) reply) with
    ⟨x, _, hresume⟩ | ⟨_, _, hresume⟩ | ⟨_, hnone, hresume⟩
  · rw [hresume]
    exact .kept rfl rfl rfl fun site f hf => ⟨f, hf, rfl⟩
  · rw [hresume]
    exact .kept rfl rfl rfl fun site f hf => ⟨f, hf, rfl⟩
  · rw [hresume]
    refine .created endpoint rack shelf rfl rfl ?_ (record?_put ..) rfl
    rw [Traffic.record?, hnone, Option.map_none]

/-- A change at a site that is free. -/
theorem Accurate.turns_change (h : a.Accurate blobs) {site : Site}
    (hfree : a.traffic.flight site = none) (what : Change) :
    a.Turns (a.traffic.change site what) (Function.update a.begun site (some what))
      (noting a.deeds (a.deed? (.change site what))) := by
  -- A change that is refused gets nothing on its way.
  have hrefused : ∀ deeds, deeds = a.deeds →
      a.Turns a.traffic (Function.update a.begun site (some what)) deeds := by
    intro deeds hdeeds
    refine .started none rfl hdeeds rfl ?_ fun f hf => by cases hf
    rw [← hfree, Function.update_eq_self]
  unfold Traffic.change
  rcases a.traffic.registry.screen_change site what with ⟨x, hscreen⟩ | ⟨hscreen, e, hfound⟩
  · simp only [hscreen]
    exact hrefused _ (by simp only [deed?, hfree, hscreen, noting])
  · have hrecord := record?_of_find? hfound
    simp only [hscreen, Registry.start, Registry.entry_of_some hfound]
    cases hplan : e.record.plan what with
    | error x =>
      exact hrefused _ (by simp only [deed?, hfree, hscreen, Registry.start,
        Registry.entry_of_some hfound, hplan, noting])
    | ok plan =>
      cases hcall : plan.call? with
      | some call =>
        simp only [hcall]
        refine .started (some ⟨call, .change site plan, false⟩) rfl ?_ rfl rfl ?_
        · simp only [deed?, hfree, hscreen, Registry.start, Registry.entry_of_some hfound, hplan,
            hcall, noting]
        · intro f hf
          cases hf
          exact ⟨e.record, plan, hrecord, hplan, rfl⟩
      | none =>
        obtain ⟨answer, hcarry⟩ := (h.safe.sound.coherent hfound).carryOut_plan hplan
        have hsettle : a.traffic.registry.settle site plan (.ok ()) =
            (.ok answer, a.traffic.registry.put site ⟨e.record.after what, true⟩) := by
          simp only [Registry.settle_of_some hfound, Entry.resume, hcarry]
          rfl
        simp only [hcall, hsettle]
        refine .done (fun other hne => Function.update_of_ne hne ..) ?_ hrecord hplan
          (record?_put ..) ?_
        · simp only [deed?, hfree, hscreen, Registry.start, Registry.entry_of_some hfound, hplan,
            hcall, hsettle, noting]
        · rw [← hfree, Function.update_eq_self]

/-- The end of a change whose call was accepted. -/
theorem Accurate.turns_finish (h : a.Accurate blobs) {site : Site} {f : Flight}
    (hflight : a.traffic.flight site = some f) (haccepted : f.accepted = true) :
    a.Turns (a.traffic.settle site f (.ok ())) a.begun
      (noting a.deeds (a.deed? (.finish site))) := by
  obtain ⟨r, what, plan, hbegun, hrecord, hplan, hrest⟩ := h.begun hflight
  obtain ⟨e, hfound, rfl⟩ := Option.map_eq_some_iff.mp hrecord
  have hentry := Entry.resume_plan (h.safe.sound.coherent hfound) hplan
  refine .done (fun _ _ => rfl) ?_ hrecord hplan ?_ rfl
  · simp only [deed?, hflight, hbegun, haccepted, if_true, noting]
  · simp only [Traffic.settle, hrest, Registry.resume, Registry.settle_of_some hfound, hentry]
    exact record?_put ..

/-- The refusal of a change on the way. -/
theorem Accurate.turns_refuse (h : a.Accurate blobs) {site : Site} {f : Flight}
    (hflight : a.traffic.flight site = some f) (x : ChassisError) :
    a.Turns (a.traffic.settle site f (.error x)) a.begun a.deeds := by
  obtain ⟨r, what, plan, _, hrecord, _, hrest⟩ := h.begun hflight
  obtain ⟨e, hfound, rfl⟩ := Option.map_eq_some_iff.mp hrecord
  have hsame : (a.traffic.registry.settle site plan (.error x)).2 = a.traffic.registry := by
    rw [Registry.settle_of_some hfound]
    exact Registry.put_find? hfound
  refine .kept rfl rfl ?_ ?_
  · simp only [Traffic.settle, hrest, Registry.resume, hsame]
    rfl
  · intro other f' hf'
    simp only [Traffic.settle, Function.update_apply] at hf'
    split at hf'
    · cases hf'
    · exact ⟨f', hf', rfl⟩

theorem turns_flush {site : Site} {e : Entry}
    (hfound : a.traffic.registry.entries.find? site = some e) :
    a.Turns (a.traffic.flush sink site e) a.begun a.deeds := by
  have hput : (fun other => (a.traffic.registry.entries.find? other).map Entry.record) =
      Function.update (fun other => (a.traffic.registry.entries.find? other).map Entry.record) site
        (some e.record) := by
    conv_rhs => rw [← record?_of_find? hfound, Traffic.record?, Function.update_eq_self]
  have hrecords : (a.traffic.flush sink site e).record? = a.traffic.record? := by
    rcases Registry.offer_cases sink site e a.traffic.sink with
      hclean | ⟨s, hdirty, hstore⟩ | ⟨x, s, hdirty, hstore⟩
    · rw [Traffic.flush, Registry.flushEntry_clean hclean]
      rfl
    · rw [Traffic.flush, Registry.flushEntry_stored hdirty hstore]
      exact (record?_put ..).trans hput.symm
    · rw [Traffic.flush, Registry.flushEntry_failed hdirty hstore]
      rfl
  exact .kept rfl rfl hrecords fun other f hf => ⟨f, hf, rfl⟩

/-- Whatever comes next means one of these things. -/
theorem Accurate.turns (h : a.Accurate blobs) (e : Event) :
    a.Turns (a.traffic.step sink e) (a.beginning e) (noting a.deeds (a.deed? e)) := by
  have hidle : a.Turns a.traffic a.begun a.deeds :=
    .kept rfl rfl rfl fun site f hf => ⟨f, hf, rfl⟩
  cases e with
  | create site endpoint rack shelf reply => exact turns_create site endpoint rack shelf reply
  | change site what =>
    cases hflight : a.traffic.flight site with
    | some f =>
      simp only [Traffic.step, beginning, deed?, hflight, Option.isNone_some, Bool.false_eq_true,
        if_false, noting]
      exact hidle
    | none =>
      have hturns := h.turns_change hflight what
      simp only [Traffic.step, beginning, hflight, Option.isNone_none, if_true]
      exact hturns
  | reply site reply =>
    simp only [Traffic.step, beginning, deed?, noting]
    cases hflight : a.traffic.flight site with
    | none => exact hidle
    | some f =>
      cases haccepted : f.accepted with
      | true =>
        simp only [haccepted, if_true]
        exact hidle
      | false =>
        simp only [haccepted, Bool.false_eq_true, if_false]
        cases reply with
        | error x => exact h.turns_refuse hflight _
        | ok _ =>
          refine .kept rfl rfl rfl ?_
          intro other f' hf'
          simp only [Function.update_apply] at hf'
          split at hf'
          · next heq =>
            cases hf'
            exact ⟨f, heq ▸ hflight, rfl⟩
          · exact ⟨f', hf', rfl⟩
  | finish site =>
    cases hflight : a.traffic.flight site with
    | none =>
      simp only [Traffic.step, beginning, deed?, hflight, noting]
      exact hidle
    | some f =>
      cases haccepted : f.accepted with
      | true =>
        have hturns := h.turns_finish hflight haccepted
        simp only [Traffic.step, beginning, hflight, haccepted, if_true]
        exact hturns
      | false =>
        obtain ⟨_, _, _, hbegun, _⟩ := h.begun hflight
        simp only [Traffic.step, beginning, deed?, hflight, hbegun, haccepted, Bool.false_eq_true,
          if_false, noting]
        exact hidle
  | flush site =>
    simp only [Traffic.step, beginning, deed?, noting]
    cases hflight : a.traffic.flight site with
    | some f => exact hidle
    | none =>
      cases hfound : a.traffic.registry.entries.find? site with
      | none => exact hidle
      | some e => exact turns_flush hfound

/-! ## Section 3: Every run -/

variable {latest : Site → Option Change} {written : Site → List Change}

theorem Turns.begun (hturns : a.Turns w latest written) (h : a.Accurate blobs) {site : Site}
    {f : Flight} (hflight : w.flight site = some f) :
    ∃ r what plan, latest site = some what ∧ w.record? site = some r ∧ r.plan what = .ok plan ∧
      f.rest = .change site plan := by
  cases hturns with
  | kept hbegun _ hrecords hflights =>
    obtain ⟨f', hf', hrest⟩ := hflights site f hflight
    rw [hbegun, hrecords, hrest]
    exact h.begun hf'
  | @created own endpoint rack shelf hbegun _ hnone hrecords hflight' =>
    rw [hflight'] at hflight
    obtain ⟨r, what, plan, hsite, hrecord, hplanned⟩ := h.begun hflight
    have hne : site ≠ own := by
      intro heq
      rw [heq, hnone] at hrecord
      cases hrecord
    rw [hbegun, hrecords, Function.update_of_ne hne]
    exact ⟨r, what, plan, hsite, hrecord, hplanned⟩
  | @started own what flown hbegun _ hrecords hflight' hplanned =>
    rw [hflight'] at hflight
    rw [hbegun, hrecords]
    by_cases heq : site = own
    · subst heq
      rw [Function.update_self] at hflight ⊢
      obtain ⟨r, plan, hrecord, hplan, hrest⟩ := hplanned f hflight
      exact ⟨r, what, plan, rfl, hrecord, hplan, hrest⟩
    · rw [Function.update_of_ne heq] at hflight ⊢
      exact h.begun hflight
  | @done own what r plan hbegun _ hrecord hplan hrecords hflight' =>
    rw [hflight'] at hflight
    by_cases heq : site = own
    · rw [heq, Function.update_self] at hflight
      cases hflight
    · rw [Function.update_of_ne heq] at hflight
      rw [hbegun site heq, hrecords, Function.update_of_ne heq]
      exact h.begun hflight

theorem Turns.deeds (hturns : a.Turns w latest written) (h : a.Accurate blobs) (site : Site) :
    Record.Led site (written site) (w.record? site) := by
  have hled := h.deeds site
  cases hturns with
  | kept _ hdeeds hrecords _ =>
    rw [hdeeds, hrecords]
    exact hled
  | @created own endpoint rack shelf _ hdeeds hnone hrecords _ =>
    rw [hdeeds, hrecords]
    by_cases heq : site = own
    · subst heq
      rw [hnone] at hled
      rw [Function.update_self, hled.eq_nil]
      exact .created endpoint rack shelf
    · rw [Function.update_of_ne heq]
      exact hled
  | started _ _ hdeeds hrecords _ _ =>
    rw [hdeeds, hrecords]
    exact hled
  | @done own what r plan _ hdeeds hrecord hplan hrecords _ =>
    rw [hdeeds, hrecords]
    by_cases heq : site = own
    · subst heq
      rw [hrecord] at hled
      rw [Function.update_self, Function.update_self]
      exact .carriedOut hled hplan
    · rw [Function.update_of_ne heq, Function.update_of_ne heq]
      exact hled

/-- What is stored is the record of a site as it is. -/
theorem stores_record_of_moves {w w' : Traffic σ} (hmoves : Traffic.Moves sink w w') :
    w'.stored = w.stored ∨
      ∃ site r, w'.record? site = some r ∧ w'.stored = w.stored ++ [(site, r)] := by
  cases hmoves with
  | stored hfree hfound hstore =>
    refine Or.inr ⟨_, _, ?_, rfl⟩
    rw [record?_put, Function.update_self]
  | _ => exact Or.inl rfl

theorem Accurate.event (h : a.Accurate blobs) (hkeeps : sink.Keeps blobs) (e : Event) :
    (a.step sink (.event e)).Accurate blobs := by
  have hmoves : Traffic.Moves sink a.traffic (a.traffic.step sink e) := h.safe.sound.moves e
  have hturns : a.Turns (a.traffic.step sink e) (a.beginning e) (noting a.deeds (a.deed? e)) :=
    h.turns e
  refine ⟨h.safe.moves hkeeps hmoves, hturns.begun h, hturns.deeds h, ?_⟩
  intro site
  simp only [step]
  rcases stores_record_of_moves hmoves with hsame | ⟨own, r, hrecord, hstored⟩
  · have hlast : (a.traffic.step sink e).lastStored site = a.traffic.lastStored site := by
      rw [Traffic.lastStored, hsame, Traffic.lastStored]
    rw [hsame, List.drop_length, hlast]
    exact h.saved site
  · have hlast : (a.traffic.step sink e).lastStored =
        Function.update a.traffic.lastStored own (some r) := by
      funext other
      rw [Traffic.lastStored, hstored]
      exact congrFun (SiteMap.lookup_reverse_concat _ _ _) other
    rw [hstored, List.drop_left, hlast]
    by_cases heq : site = own
    · subst heq
      rw [if_pos (by simp), Function.update_self, ← hrecord]
      exact hturns.deeds h site
    · rw [if_neg (by simpa using heq), Function.update_of_ne heq]
      exact h.saved site

theorem Accurate.restart (h : a.Accurate blobs) (hkeeps : sink.Keeps blobs) :
    (a.step sink .restart).Accurate blobs := by
  refine ⟨h.safe.restart hkeeps, nofun, ?_, h.saved⟩
  intro site
  obtain ⟨report, g, hrestore, _, hfind⟩ := h.safe.restore hkeeps
  have hrecord : (a.traffic.restart sink).record? site = a.traffic.lastStored site := by
    rw [Traffic.record?, Traffic.restart, hrestore, hfind, Option.map_map]
    exact Option.map_id'
  show Record.Led site (a.saved site) ((a.traffic.restart sink).record? site)
  rw [hrecord]
  exact h.saved site

theorem accurate_start {s : σ} (hempty : ∀ site, blobs s site = none) :
    (start s).Accurate blobs where
  safe    := Traffic.safe_start hempty
  begun   := nofun
  deeds _ := .absent
  saved _ := .absent

/-- **The annals are accurate** after every run with any restarts, on a sink that was empty and keeps
    blobs. -/
theorem accurate {s : σ} (hkeeps : sink.Keeps blobs) (hempty : ∀ site, blobs s site = none)
    (occasions : List Occasion) : (occasions.foldl (step sink) (start s)).Accurate blobs := by
  have hrun : ∀ a : Annals σ, a.Accurate blobs → (occasions.foldl (step sink) a).Accurate blobs := by
    induction occasions with
    | nil => exact fun a h => h
    | cons occasion rest ih =>
      intro a h
      cases occasion with
      | event e => exact ih _ (h.event hkeeps e)
      | restart => exact ih _ (h.restart hkeeps)
  exact hrun _ (accurate_start hempty)

end Annals

end ChassisRegistry
