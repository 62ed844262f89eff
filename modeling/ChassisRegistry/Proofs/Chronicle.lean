import ChassisRegistry.Proofs.Durability
import ChassisRegistry.Proofs.Mirror

/-! # What a record stems from

    The calls that made a record are those that were accepted since its site
    was created. A restart undoes some of them: the record of a site is the
    one that was stored last, and what was accepted later is forgotten. A
    chronicle is a registry at work together with the calls on the way to
    each record, cut back at a restart to those before the last store.

    Main statement: `Chronicle.faithful`, the calls of a chronicle tell of
    every record, with the address that it has. -/

namespace ChassisRegistry

/-! ## Section 1: Addresses and subscribers in calls -/

/-- A call about a site goes to this address, and names the subscriber of its terminal. -/
def Call.Genuine (site : Site) (address : SocketAddress) : Call → Prop
  | .login _ => True
  | .addCard n => n.site = site → n.endpoint.address = address
  | .activate n | .deactivate n => n.site = site →
      n.endpoint.address = address ∧ n.subscriber = Identifier.subscriber site n.coordinate

namespace Record

variable {r : Record} {c : TerminalCoordinate}

/-- Notices have the endpoint of the record. -/
theorem of_noticeFor {service : Physical.Service} {n : TerminalNotice}
    (hn : r.noticeFor c service = .ok n) :
    n.site = r.site ∧ n.coordinate = c ∧ n.endpoint = r.endpoint ∧
      n.subscriber = Identifier.subscriber r.site c := by
  unfold noticeFor at hn
  obtain ⟨device, _, hcard⟩ := exists_of_bind hn
  split at hcard
  · cases hcard
  · obtain ⟨tags, _, hresult⟩ := exists_of_bind hcard
    cases hresult
    exact ⟨rfl, rfl, rfl, rfl⟩

/-- A transition that is prepared carries the notice of its position. -/
theorem noticeFor_of_prepare {request : TerminalRequest} {t : Transition} {n : TerminalNotice}
    (hprepare : r.prepare c request = .ok t) (hn : t.notice = some n) :
    r.noticeFor c t.service = .ok n := by
  obtain ⟨_, _, ⟨_, hnone⟩ | ⟨_, n', hnoticed, hcarried⟩⟩ := of_prepare hprepare
  · rw [hn] at hnone
    cases hnone
  · rw [hn, Option.some.injEq] at hcarried
    rw [hcarried]
    exact hnoticed

theorem of_describeCard_notice {driver : CardDriver} {address : SocketAddress} {hostname : String}
    {notice : CardNotice} (hdescribe : r.describeCard driver address hostname = .ok notice) :
    notice.site = r.site ∧ notice.endpoint = r.endpoint := by
  -- The card is told of as it is once it is attached.
  have hmem : notice ∈ (r.withNextCard driver address hostname).cardNotices := by
    simp [cardNotices_withNextCard hdescribe]
  obtain ⟨card, _, rfl⟩ := List.mem_map.mp hmem
  exact ⟨rfl, rfl⟩

/-- The call of a change goes to the address of its record. -/
theorem genuine_of_plan {what : Change} {plan : Plan} {call : Call}
    (hplan : r.plan what = .ok plan) (hcall : plan.call? = some call) {site : Site}
    {address : SocketAddress} (haddress : r.site = site → r.endpoint.address = address) :
    call.Genuine site address := by
  cases what with
  | login user password =>
    cases hplan
    cases hcall
    exact trivial
  | attach driver address' hostname =>
    cases hdescribe : r.describeCard driver address' hostname with
    | error e => simp [Record.plan, hdescribe, Except.map] at hplan
    | ok notice =>
      simp only [Record.plan, hdescribe, Except.map, Except.ok.injEq] at hplan
      subst hplan
      cases hcall
      obtain ⟨hsite, hendpoint⟩ := of_describeCard_notice hdescribe
      intro hnotice
      rw [hendpoint]
      exact haddress (hsite.symm.trans hnotice)
  | terminal c request =>
    cases hprepare : r.prepare c request with
    | error e => simp [Record.plan, hprepare, Except.map] at hplan
    | ok t =>
      simp only [Record.plan, hprepare, Except.map, Except.ok.injEq] at hplan
      subst hplan
      have hnotice : ∀ n, t.notice = some n → n.site = site →
          n.endpoint.address = address ∧
            n.subscriber = Identifier.subscriber site n.coordinate := by
        intro n hn hown
        obtain ⟨hsite, hcoordinate, hendpoint, hsubscriber⟩ :=
          of_noticeFor (noticeFor_of_prepare hprepare hn)
        have hhere : r.site = site := hsite.symm.trans hown
        rw [hendpoint, hsubscriber, hcoordinate, hhere]
        exact ⟨haddress hhere, rfl⟩
      simp only [Plan.call?] at hcall
      split at hcall
      · obtain ⟨n, hn, rfl⟩ := Option.map_eq_some_iff.mp hcall
        exact hnotice n hn
      · obtain ⟨n, hn, rfl⟩ := Option.map_eq_some_iff.mp hcall
        exact hnotice n hn
      · cases hcall

end Record

/-- The calls tell of a record, or of none, and go to its address. -/
structure Known (site : Site) (log : List Call) (r? : Option Record) : Prop where
  told    : Told site log r?
  genuine : ∀ r, r? = some r → ∀ call ∈ log, call.Genuine site r.endpoint.address

namespace Known

variable {σ : Type} {w w' : Traffic σ} {site : Site} {log : List Call} {r : Record}

theorem nil (site : Site) : Known site [] none :=
  ⟨Told.nil site, fun _ hr => by cases hr⟩

/-- Of a site that is not there no call tells anything that could have another address. -/
theorem genuine_of_unknown (h : Told site log none) (address : SocketAddress) :
    ∀ call ∈ log, call.Genuine site address := by
  have hterminal : ∀ call ∈ log, ∀ c, call.terminal? ≠ some (site, c) := by
    intro call hcall c heq
    have hmem : call ∈ callsTo site c log := List.mem_filter.mpr ⟨hcall, by simpa using heq⟩
    rw [h.unknown rfl c] at hmem
    cases hmem
  have hcards : cardsOf site log = [] := by
    have hnone := h.cards ⟨address, "", ""⟩
    simpa using hnone
  intro call hcall
  cases call with
  | login endpoint => exact trivial
  | addCard n =>
    intro hsite
    have hmem : n ∈ cardsOf site log :=
      List.mem_filter.mpr ⟨List.mem_filterMap.mpr ⟨_, hcall, rfl⟩, by simpa using hsite⟩
    rw [hcards] at hmem
    cases hmem
  | activate n =>
    intro hsite
    exact absurd (by simp [Call.terminal?, hsite]) (hterminal _ hcall n.coordinate)
  | deactivate n =>
    intro hsite
    exact absurd (by simp [Call.terminal?, hsite]) (hterminal _ hcall n.coordinate)

/-- A call that is genuine may be added, and the record may change at its place. -/
theorem genuine_concat {call : Call} {address : SocketAddress}
    (h : ∀ call ∈ log, call.Genuine site address) (hcall : call.Genuine site address) :
    ∀ call' ∈ log ++ [call], call'.Genuine site address := by
  intro call' hmem
  rcases List.mem_append.mp hmem with hmem | hmem
  · exact h call' hmem
  · rw [List.mem_singleton.mp hmem]
    exact hcall

/-- Whatever a site sees of a move, the calls go on to tell of it. -/
theorem concerned (h : Known site log (w.foreseen site)) (hconcerns : Traffic.Concerns w w' site) :
    Known site (log ++ w'.log.drop w.log.length) (w'.foreseen site) := by
  refine ⟨h.told.concerned hconcerns, ?_⟩
  intro r hr
  cases hconcerns with
  | nothing hlog hsame =>
    rw [hlog, List.drop_length, List.append_nil]
    exact h.genuine r (hsame ▸ hr)
  | login endpoint hlog hsame =>
    rw [hlog, List.drop_left]
    exact genuine_concat (h.genuine r (hsame ▸ hr)) trivial
  | elsewhere hcoherent hne hplan hcall hlog hsame =>
    rw [hlog, List.drop_left]
    exact genuine_concat (h.genuine r (hsame ▸ hr))
      (Record.genuine_of_plan hplan hcall fun heq => absurd heq hne)
  | created endpoint rack shelf hlog hbefore hafter =>
    rw [hlog, List.drop_left]
    exact genuine_concat (genuine_of_unknown (hbefore ▸ h.told) _) trivial
  | accepted hcoherent hsite hplan hcall hlog hbefore hafter =>
    rw [hafter, Option.some.injEq] at hr
    rw [hlog, List.drop_left, ← hr, (hcoherent.inPlace_after _).address]
    exact genuine_concat (h.genuine _ hbefore)
      (Record.genuine_of_plan hplan hcall fun _ => rfl)
  | silent hcoherent hsite hplan hcall hlog hbefore hafter =>
    rw [hafter, Option.some.injEq] at hr
    rw [hlog, List.drop_length, List.append_nil, ← hr, (hcoherent.inPlace_after _).address]
    exact h.genuine _ hbefore

end Known

/-! ## Section 2: Chronicles -/

/-- A registry at work, with the calls on the way to its records. -/
structure Chronicle (σ : Type) where
  traffic : Traffic σ
  /-- The calls that were accepted on the way to the record of a site. -/
  past    : Site → List Call
  /-- The same of the record that the sink took last. -/
  saved   : Site → List Call

/-- What may come next. -/
inductive Occasion where
  | event (e : Traffic.Event)
  /-- The daemon is started anew and restored from the sink. -/
  | restart

namespace Chronicle

open Traffic (Moves)

variable {σ : Type} {sink : Sink σ} {blobs : σ → Site → Option ByteArray} {k : Chronicle σ}

/-- Nothing has happened yet. -/
def start (s : σ) : Chronicle σ := ⟨.start s, fun _ => [], fun _ => []⟩

/-- The chronicle after what comes next. Calls that are logged are on the way to all records from
    then on; a site that was stored will be taken back to this moment. -/
def step (sink : Sink σ) (k : Chronicle σ) : Occasion → Chronicle σ
  | .event e =>
      let w := k.traffic.step sink e
      let past := fun site => k.past site ++ w.log.drop k.traffic.log.length
      let taken := (w.stored.drop k.traffic.stored.length).map Prod.fst
      ⟨w, past, fun site => if site ∈ taken then past site else k.saved site⟩
  | .restart => ⟨k.traffic.restart sink, k.saved, k.saved⟩

/-- The calls tell of the records, of those in the registry and of those in the sink. -/
structure Faithful (blobs : σ → Site → Option ByteArray) (k : Chronicle σ) : Prop where
  safe  : k.traffic.Safe blobs
  known : ∀ site, Known site (k.past site) (k.traffic.foreseen site)
  saved : ∀ site, Known site (k.saved site) (k.traffic.lastStored site)

/-- A move stores nothing, or the record of a site that is foreseen as it is. -/
theorem stores_of_moves {w w' : Traffic σ} (hmoves : Moves sink w w') :
    w'.stored = w.stored ∨
      ∃ site r, w'.foreseen site = some r ∧ w'.stored = w.stored ++ [(site, r)] := by
  cases hmoves with
  | stored hfree hfound hstore => exact .inr ⟨_, _, Traffic.foreseen_put hfree, rfl⟩
  | _ => exact .inl rfl

theorem Faithful.event (h : k.Faithful blobs) (hkeeps : sink.Keeps blobs) (e : Traffic.Event) :
    (k.step sink (.event e)).Faithful blobs := by
  have hmoves : Traffic.Moves sink k.traffic (k.traffic.step sink e) := h.safe.sound.moves e
  have hknown : ∀ site, Known site (k.past site ++
      (k.traffic.step sink e).log.drop k.traffic.log.length)
        ((k.traffic.step sink e).foreseen site) :=
    fun site => (h.known site).concerned (hmoves.concerns h.safe.sound site)
  refine ⟨h.safe.moves hkeeps hmoves, hknown, ?_⟩
  intro site
  simp only [step]
  rcases stores_of_moves hmoves with hsame | ⟨own, r, hforeseen, hstored⟩
  · have hlast : (k.traffic.step sink e).lastStored site = k.traffic.lastStored site := by
      rw [Traffic.lastStored, hsame, Traffic.lastStored]
    rw [hsame, List.drop_length, hlast]
    exact h.saved site
  · have hlast : (k.traffic.step sink e).lastStored =
        Function.update k.traffic.lastStored own (some r) := by
      funext other
      rw [Traffic.lastStored, hstored]
      exact congrFun (SiteMap.lookup_reverse_concat _ _ _) other
    rw [hstored, List.drop_left, hlast]
    by_cases heq : site = own
    · subst heq
      rw [if_pos (by simp), Function.update_self, ← hforeseen]
      exact hknown site
    · rw [if_neg (by simpa using heq), Function.update_of_ne heq]
      exact h.saved site

/-- After a restart every record is the one that was stored last. -/
theorem Faithful.restart (h : k.Faithful blobs) (hkeeps : sink.Keeps blobs) :
    (k.step sink .restart).Faithful blobs := by
  refine ⟨h.safe.restart hkeeps, ?_, h.saved⟩
  intro site
  obtain ⟨report, g, hrestore, _, hfind⟩ := h.safe.restore hkeeps
  have hforeseen : (k.traffic.restart sink).foreseen site = k.traffic.lastStored site := by
    rw [Traffic.foreseen_of_free rfl, Traffic.restart, hrestore, hfind, Option.map_map]
    exact Option.map_id'
  show Known site (k.saved site) ((k.traffic.restart sink).foreseen site)
  rw [hforeseen]
  exact h.saved site

theorem Faithful.foldl (h : k.Faithful blobs) (hkeeps : sink.Keeps blobs)
    (occasions : List Occasion) : (occasions.foldl (step sink) k).Faithful blobs := by
  induction occasions generalizing k with
  | nil => exact h
  | cons occasion rest ih =>
    cases occasion with
    | event e => exact ih (h.event hkeeps e)
    | restart => exact ih (h.restart hkeeps)

end Chronicle

end ChassisRegistry
