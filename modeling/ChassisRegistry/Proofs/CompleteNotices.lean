import ChassisRegistry.Proofs.Annals
import ChassisRegistry.Proofs.Reflow

/-! # Notices are complete

    A blank serial number that is told of would let nobody in, and tags that
    are not stored would be told of once and never again. Neither comes about:
    whatever was provided, activated and deactivated before, and whatever was
    reloaded from snapshots in between, a notice has a trimmed serial number
    that is not blank and the tags that are stored.

    Main statement: `Annals.complete_notices`. -/

namespace ChassisRegistry

/-! ## Section 1: Calls about stored services -/

namespace Record

variable {r : Record}

/-- A call tells of a card anew, or of an active terminal with what it stores. -/
def Retells (r : Record) (call : Call) : Prop :=
  (∃ card, call = .addCard card) ∨
    ∃ n, call = .activate n ∧ n.site = r.site ∧ n.service.Complete ∧ r.Stores n

theorem Complete.retells (hall : r.Complete) (h : r.Coherent) {call : Call}
    (hcall : call ∈ r.calls) : r.Retells call := by
  rcases List.mem_append.mp hcall with hcard | hterminal
  · obtain ⟨card, _, rfl⟩ := List.mem_map.mp hcard
    exact Or.inl ⟨card, rfl⟩
  · obtain ⟨n, hn, rfl⟩ := List.mem_map.mp hterminal
    obtain ⟨c, _, hactive⟩ := List.mem_filterMap.mp hn
    exact Or.inr ⟨n, rfl, hall.stores_of_activation? h hactive⟩

/-- The calls that a script replies to are kept in their order. -/
theorem left_provisioner (script : Script) (calls : List Call) (sent : List Message) :
    script.provisioner.left calls sent = sent ++ calls.map .call := by
  induction calls generalizing sent with
  | nil => rw [List.map_nil, List.append_nil]; rfl
  | cons call rest ih =>
    have hrest := ih (sent ++ [.call call])
    rw [List.append_assoc] at hrest
    exact hrest

/-- The turn of a site in a reflow sends the calls of its record. -/
theorem Coherent.sent_reflow (h : r.Coherent) (site : Site) (script : Script) (dirty : Bool) :
    ((Visit.reflow site).turn.run script ⟨r, dirty⟩ []).2.2 = r.calls.map .call := by
  rw [Visit.turn, Turn.run_reflow, h.reflow_eq, left_provisioner, List.nil_append]

end Record

/-! ## Section 2: Every run -/

namespace Annals

variable {σ : Type} {sink : Sink σ} {blobs : σ → Site → Option ByteArray} {a : Annals σ}

/-- Whatever is told of a terminal is complete, and is what is stored. -/
structure CompleteNotices (a : Annals σ) : Prop where
  /-- What is written down of a site are the changes that have led to its record. -/
  led : ∀ site, Record.Led site (a.deeds site) (a.traffic.record? site)
  /-- An active terminal has a trimmed serial number and both tags, and blank identifiers only from
      its last activation. -/
  stored : ∀ site r c t, a.traffic.record? site = some r → r.terminal c = .ok t →
    t.active = true → t.service.Complete ∧
      ∃ request, Change.lastActivation? c (a.deeds site) = some request ∧
        request.Identifies t.service
  /-- What is prepared and told of has its tags, so none is taken from the plan. -/
  prepared : ∀ site r c request t, a.traffic.record? site = some r →
    r.prepare c request = .ok t → t.action ≠ .preProvision → t.service.Complete
  /-- An activation on the way tells of what is stored once it is carried out. -/
  activates : ∀ site f n, a.traffic.flight site = some f → f.call = .activate n →
    n.site = site ∧ n.service.Complete ∧ ∃ r plan answer after,
      a.traffic.record? site = some r ∧ f.rest = .change site plan ∧
        r.carryOut plan = (.ok answer, after) ∧ after.Stores n
  /-- A deactivation on the way tells of what is stored. -/
  deactivates : ∀ site f n, a.traffic.flight site = some f → f.call = .deactivate n →
    n.site = site ∧ n.service.Complete ∧ ∃ r, a.traffic.record? site = some r ∧ r.Stores n
  /-- The turn of a site in a reflow tells of what is stored, whatever the replies are. -/
  visits : ∀ site e script, a.traffic.registry.entries.find? site = some e →
    ∀ m ∈ ((Visit.reflow site).turn.run script e []).2.2,
      ∃ call, m = .call call ∧ e.record.Retells call
  /-- So does a reflow of all sites. -/
  passes : ∀ {τ : Type} (p : Provisioner τ) (s : τ) (note : Note),
    note ∈ (a.traffic.registry.reflow p.noting (s, [])).2.2 →
      ∃ site r, a.traffic.record? site = some r ∧ r.Retells note.1

/-- A change on the way that has the notice of a terminal is a transition. -/
theorem transition_of_plan {r : Record} {what : Change} {plan : Plan} {call : Call}
    (hplan : r.plan what = .ok plan) (hcall : plan.call? = some call) {n : TerminalNotice}
    (hn : call = .activate n ∨ call = .deactivate n) :
    ∃ c request t, what = .terminal c request ∧ r.prepare c request = .ok t ∧
      plan = .transition t ∧ t.notice = some n ∧
        t.action = (if call = .activate n then .activate else .deactivate) := by
  cases what with
  | login user password =>
    cases hplan
    cases hcall
    rcases hn with hn | hn <;> cases hn
  | attach driver address hostname =>
    cases hdescribe : r.describeCard driver address hostname with
    | error e => simp [Record.plan, hdescribe, Except.map] at hplan
    | ok notice =>
      simp only [Record.plan, hdescribe, Except.map, Except.ok.injEq] at hplan
      subst hplan
      cases hcall
      rcases hn with hn | hn <;> cases hn
  | terminal c request =>
    cases hprepare : r.prepare c request with
    | error e => simp [Record.plan, hprepare, Except.map] at hplan
    | ok t =>
      simp only [Record.plan, hprepare, Except.map, Except.ok.injEq] at hplan
      subst hplan
      refine ⟨c, request, t, rfl, hprepare, rfl, ?_⟩
      simp only [Plan.call?] at hcall
      split at hcall
      · next haction =>
        obtain ⟨m, hm, rfl⟩ := Option.map_eq_some_iff.mp hcall
        rcases hn with hn | hn
        · cases hn
          exact ⟨hm, by rw [if_pos rfl, haction]⟩
        · cases hn
      · next haction =>
        obtain ⟨m, hm, rfl⟩ := Option.map_eq_some_iff.mp hcall
        rcases hn with hn | hn
        · cases hn
        · cases hn
          exact ⟨hm, by rw [if_neg (by simp), haction]⟩
      · cases hcall

/-- Of a site in order everything that is on the way and tells of a terminal is known. -/
theorem Accurate.told_on_the_way (h : a.Accurate blobs) {site : Site} {f : Flight}
    (hflight : a.traffic.flight site = some f) {n : TerminalNotice}
    (hn : f.call = .activate n ∨ f.call = .deactivate n) :
    n.site = site ∧ n.service.Complete ∧ ∃ r plan answer after,
      a.traffic.record? site = some r ∧ f.rest = .change site plan ∧
        r.carryOut plan = (.ok answer, after) ∧
        (f.call = .activate n → after.Stores n) ∧ (f.call = .deactivate n → r.Stores n) := by
  obtain ⟨e, what, plan, hfound, hplan, hcall, hrest⟩ := h.safe.sound.planned hflight
  have hcoherent := h.safe.sound.coherent hfound
  have hrecord := record?_of_find? hfound
  have hled := h.deeds site
  rw [hrecord] at hled
  obtain ⟨c, request, t, rfl, hprepare, rfl, hnotice, haction⟩ := transition_of_plan hplan hcall hn
  have htold : t.action ≠ .preProvision := by
    rw [haction]
    split <;> simp
  obtain ⟨m, hm, hsite, _, hservice, hcomplete, hactivates, hdeactivates⟩ :=
    hled.complete_record.exists_told hcoherent hprepare htold
  obtain rfl : n = m := Option.some.inj (hnotice.symm.trans hm)
  obtain ⟨answer, hcarry⟩ := hcoherent.carryOut_plan hplan
  refine ⟨hsite.trans (h.safe.sound.named hfound), hservice ▸ hcomplete, e.record, _, answer, _,
    hrecord, hrest, hcarry, ?_, ?_⟩
  · intro hactivate
    exact hactivates (by rw [haction, if_pos hactivate])
  · intro hdeactivate
    exact hdeactivates (by rw [haction, hdeactivate, if_neg (by simp)])

theorem Accurate.completeNotices (h : a.Accurate blobs) : a.CompleteNotices := by
  have hled : ∀ {site r}, a.traffic.record? site = some r → Record.Led site (a.deeds site) (some r) :=
    fun {site r} hr => hr ▸ h.deeds site
  have hretells : ∀ {site e}, a.traffic.registry.entries.find? site = some e →
      ∀ call ∈ e.record.calls, e.record.Retells call := by
    intro site e hfound call hcall
    have hrecord := hled (record?_of_find? hfound)
    exact hrecord.complete_record.retells hrecord.coherent hcall
  refine {
    led         := h.deeds
    stored      := ?_
    prepared    := ?_
    activates   := ?_
    deactivates := ?_
    visits      := ?_
    passes      := ?_ }
  · intro site r c t hr hterminal hactive
    have hcell := (hled hr).coherent.cell_of_terminal hterminal
    rw [Cell.ofTerminal, hactive] at hcell
    exact (hled hr).complete hcell
  · intro site r c request t hr hprepare htold
    obtain ⟨_, _, _, _, _, hcomplete, _⟩ :=
      (hled hr).complete_record.exists_told (hled hr).coherent hprepare htold
    exact hcomplete
  · intro site f n hflight hn
    obtain ⟨hsite, hcomplete, r, plan, answer, after, hr, hrest, hcarry, hstores, _⟩ :=
      h.told_on_the_way hflight (Or.inl hn)
    exact ⟨hsite, hcomplete, r, plan, answer, after, hr, hrest, hcarry, hstores hn⟩
  · intro site f n hflight hn
    obtain ⟨hsite, hcomplete, r, _, _, _, hr, _, _, _, hstores⟩ :=
      h.told_on_the_way hflight (Or.inr hn)
    exact ⟨hsite, hcomplete, r, hr, hstores hn⟩
  · intro site e script hfound m hm
    rw [(h.safe.sound.coherent hfound).sent_reflow] at hm
    obtain ⟨call, hcall, rfl⟩ := List.mem_map.mp hm
    exact ⟨call, rfl, hretells hfound call hcall⟩
  · intro τ p s note hnote
    have hentry : ∀ e ∈ a.traffic.registry.entries.entries,
        a.traffic.registry.entries.find? e.1 = some e.2 :=
      fun e he => SiteMap.lookup_of_mem a.traffic.registry.entries.nodup he
    rw [Registry.reflow_eq fun e he => h.safe.sound.coherent (hentry e he),
      Provisioner.left_noting, List.nil_append] at hnote
    have hcall : note.1 ∈ a.traffic.registry.calls := by
      have hmem := List.mem_map_of_mem (f := Prod.fst) hnote
      rwa [Provisioner.map_fst_notes] at hmem
    obtain ⟨e, he, hcall⟩ := List.mem_flatMap.mp hcall
    exact ⟨e.1, e.2.record, record?_of_find? (hentry e he), hretells (hentry e he) _ hcall⟩

/-- **Notices are complete**: in every state of every run with any restarts, on a sink that was
    empty and keeps blobs, whatever is told of a terminal has a trimmed serial number that is not
    blank and the tags that are stored. -/
theorem complete_notices {s : σ} (hkeeps : sink.Keeps blobs)
    (hempty : ∀ site, blobs s site = none) (occasions : List Occasion) :
    (occasions.foldl (step sink) (start s)).CompleteNotices :=
  (accurate hkeeps hempty occasions).completeNotices

/-! ### A terminal that was provided with blanks -/

open Record (oneCard)

/-- A terminal is provided with nothing but blanks and activated by a serial number with blanks
    around it. That is stored, and then a deactivation gets on its way. -/
def providedBlank (c : TerminalCoordinate) : List Occasion :=
  [.event (.create oneCard.site oneCard.endpoint 1 2 (.ok ())),
    .event (.change oneCard.site (.attach .adtran (.v4 ⟨10, 0, 0, 2⟩ 830) "card-1")),
    .event (.reply oneCard.site (.ok ())), .event (.finish oneCard.site),
    .event (.change oneCard.site (.terminal c (.preProvision none none "" " " none none))),
    .event (.change oneCard.site (.terminal c (.activateSerial " sn-1 "))),
    .event (.reply oneCard.site (.ok ())), .event (.finish oneCard.site),
    .event (.flush oneCard.site),
    .event (.change oneCard.site (.terminal c .deactivate))]

/-- The deactivation tells of the trimmed serial number and of the planned tags, which are stored. A
    restart forgets it, and keeps what was done before. -/
theorem complete_notices_providedBlank :
    let c : TerminalCoordinate := ⟨⟨⟨0, by decide⟩, ⟨0, by decide⟩⟩, ⟨0, by decide⟩⟩
    let a := (providedBlank c).foldl (step MemorySink.sink) (start .empty)
    let back := (providedBlank c ++ [Occasion.restart]).foldl (step MemorySink.sink) (start .empty)
    a.CompleteNotices ∧ back.CompleteNotices ∧
      ((a.traffic.flight oneCard.site).bind fun f =>
        match f.call with
        | .deactivate n => some (n.serial, n.serviceTag.number, n.customerTag.number, n.nasPortId)
        | _ => none) = some ("sn-1", 2, 2, "PON 1/2/1/1:1.1.1") ∧
      Change.lastActivation? c (back.deeds oneCard.site) = some (.activateSerial " sn-1 ") := by
  intro c a back
  exact ⟨complete_notices MemorySink.keeps_sink (fun _ => rfl) _,
    complete_notices MemorySink.keeps_sink (fun _ => rfl) _, by decide +kernel, by decide +kernel⟩

end Annals

end ChassisRegistry
