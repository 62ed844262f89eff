import ChassisRegistry.Proofs.ActiveTerminals
import ChassisRegistry.Proofs.Chronicle

/-! # Reflowing tells what was told

    A reflow builds its notices anew from the records: those of the cards from
    the cards, those of the terminals from the walk over the bound ports. They
    are the notices of the calls on the way to the records, with the present
    login: for every card the one of its attachment, for every active terminal
    the one of its last activation.

    A daemon that is started anew goes on from what was stored. Then the calls
    on the way to a record are those before its last store, and the last
    activation that was accepted at all may be another one
    (`Chronicle.resends_forgotten_past`).

    Main statement: `Chronicle.resends`. -/

namespace ChassisRegistry

/-! ## Section 1: A pass that is noted down -/

/-- A call and the reply to it. -/
abbrev Note := Call × Except ProvisionerError Unit

namespace Provisioner

variable {τ : Type}

/-- A provisioning system that notes down what it was told and what it replied. -/
def noting (p : Provisioner τ) : Provisioner (τ × List Note) := fun call s =>
  ((p call s.1).1, (p call s.1).2, s.2 ++ [(call, (p call s.1).1)])

/-- The calls of a list, with the replies that they get one after the other. -/
def notes (p : Provisioner τ) : List Call → τ → List Note
  | [], _ => []
  | call :: rest, s => (call, (p call s).1) :: p.notes rest (p call s).2

/-- The state after the calls of a list. -/
def left (p : Provisioner τ) (calls : List Call) (s : τ) : τ :=
  calls.foldl (fun s call => (p call s).2) s

variable (p : Provisioner τ) (calls : List Call) (s : τ)

theorem map_fst_notes : (p.notes calls s).map Prod.fst = calls := by
  induction calls generalizing s with
  | nil => rfl
  | cons call rest ih => rw [notes, List.map_cons, ih]

theorem notes_append (more : List Call) :
    p.notes (calls ++ more) s = p.notes calls s ++ p.notes more (p.left calls s) := by
  induction calls generalizing s with
  | nil => rfl
  | cons call rest ih =>
    rw [List.cons_append, notes, ih, notes, List.cons_append]
    rfl

theorem notes_noting (before : List Note) :
    p.noting.notes calls (s, before) = p.notes calls s := by
  induction calls generalizing s before with
  | nil => rfl
  | cons call rest ih => exact congrArg (_ :: ·) (ih _ _)

theorem left_noting (before : List Note) :
    p.noting.left calls (s, before) = (p.left calls s, before ++ p.notes calls s) := by
  induction calls generalizing s before with
  | nil => rw [notes, List.append_nil]; rfl
  | cons call rest ih =>
    have hrest := ih (p call s).2 (before ++ [(call, (p call s).1)])
    rw [List.append_assoc] at hrest
    exact hrest

end Provisioner

/-- Counts a note by its call. -/
def ReflowReport.note (report : ReflowReport) (n : Note) : ReflowReport :=
  match n.1 with
  | .addCard _ => report.countCard n.2
  | _ => report.countTerminal n.2

namespace Record

variable {τ : Type}

/-- Calls that are made one after the other are counted as they are noted. -/
theorem callEach_eq (p : Provisioner τ)
    (count : ReflowReport → Except ProvisionerError Unit → ReflowReport) (calls : List Call)
    (hcount : ∀ call ∈ calls, ∀ report reply, count report reply = report.note (call, reply))
    (report : ReflowReport) (s : τ) :
    callEach p count calls report s =
      ((p.notes calls s).foldl ReflowReport.note report, p.left calls s) := by
  induction calls generalizing report s with
  | nil => rfl
  | cons call rest ih =>
    have hcall := hcount call List.mem_cons_self report (p call s).1
    have hrest := ih (fun call' hmem => hcount call' (List.mem_cons_of_mem call hmem))
    rw [callEach, Provisioner.notes, List.foldl_cons]
    show callEach p count rest (count report (p call s).1) (p call s).2 = _
    rw [hrest, hcall]
    rfl

/-- The calls that tell of a record. -/
def calls (r : Record) : List Call :=
  r.cardNotices.map .addCard ++ (TerminalCoordinate.all.filterMap r.activation?).map .activate

variable {r : Record}

theorem Coherent.reflow_eq (h : r.Coherent) (p : Provisioner τ) (report : ReflowReport) (s : τ) :
    r.reflow p report s =
      ((p.notes r.calls s).foldl ReflowReport.note report, p.left r.calls s) := by
  have hcards := callEach_eq p .countCard (r.cardNotices.map .addCard) (by
    intro call hmem report reply
    obtain ⟨n, _, rfl⟩ := List.mem_map.mp hmem
    rfl) report s
  have hterminals := callEach_eq p .countTerminal
    ((TerminalCoordinate.all.filterMap r.activation?).map .activate) (by
      intro call hmem report reply
      obtain ⟨n, _, rfl⟩ := List.mem_map.mp hmem
      rfl)
  simp only [reflow, hcards, h.activeNotices_eq, hterminals]
  rw [calls, Provisioner.notes_append, List.foldl_append, Provisioner.left, Provisioner.left,
    Provisioner.left, List.foldl_append]

end Record

namespace Registry

variable {τ : Type}

/-- The calls of a pass are those of the records, site by site. -/
theorem reflowEach_eq (p : Provisioner τ) {rs : List Record} (hrs : ∀ r ∈ rs, r.Coherent)
    (report : ReflowReport) (s : τ) :
    reflowEach p rs report s =
      ((p.notes (rs.flatMap Record.calls) s).foldl ReflowReport.note report,
        p.left (rs.flatMap Record.calls) s) := by
  induction rs generalizing report s with
  | nil => rfl
  | cons r rest ih =>
    have hr := (hrs r List.mem_cons_self).reflow_eq p report s
    have hrest := ih fun r' hmem => hrs r' (List.mem_cons_of_mem r hmem)
    simp only [reflowEach, hr, hrest]
    rw [List.flatMap_cons, Provisioner.notes_append, List.foldl_append, Provisioner.left,
      Provisioner.left, Provisioner.left, List.foldl_append]

/-- The calls of a pass over a registry. -/
def calls (g : Registry) : List Call :=
  g.entries.entries.flatMap fun e => e.2.record.calls

theorem reflow_eq {g : Registry} (h : ∀ e ∈ g.entries.entries, e.2.record.Coherent)
    (p : Provisioner τ) (s : τ) :
    g.reflow p s = ((p.notes g.calls s).foldl ReflowReport.note {}, p.left g.calls s) := by
  have hrs : ∀ r ∈ g.entries.entries.map fun e => e.2.record, r.Coherent := by
    intro r hr
    obtain ⟨e, he, rfl⟩ := List.mem_map.mp hr
    exact h e he
  rw [reflow, reflowEach_eq p hrs, List.flatMap_map]
  rfl

end Registry

/-! ## Section 2: Counting -/

/-- Is it the notice of a card, accepted? -/
def Note.addsCard : Note → Bool
  | (.addCard _, .ok ()) => true
  | _ => false

/-- Is it any other call, accepted? -/
def Note.activates : Note → Bool
  | (.addCard _, _) => false
  | (_, .ok ()) => true
  | _ => false

/-- Was the call refused? -/
def Note.refused : Note → Bool
  | (_, .error _) => true
  | _ => false

namespace ReflowReport

/-- The counts of a pass with these notes. -/
structure Counts (report : ReflowReport) (notes : List Note) : Prop where
  cards     : report.cards = notes.countP Note.addsCard
  terminals : report.terminals = notes.countP Note.activates
  failures  : report.failures = notes.countP Note.refused

/-- Every note is counted once. -/
theorem Counts.total {report : ReflowReport} {notes : List Note} (h : report.Counts notes) :
    report.cards + report.terminals + report.failures = notes.length := by
  rw [h.cards, h.terminals, h.failures]
  clear h
  induction notes with
  | nil => rfl
  | cons n rest ih =>
    obtain ⟨call, reply⟩ := n
    simp only [List.countP_cons, List.length_cons]
    cases reply with
    | ok _ =>
      cases call <;> simp only [Note.addsCard, Note.activates, Note.refused, if_true,
        Bool.false_eq_true, if_false] <;> omega
    | error x =>
      cases call <;> simp only [Note.addsCard, Note.activates, Note.refused, if_true,
        Bool.false_eq_true, if_false] <;> omega

theorem counts_concat {report : ReflowReport} {notes : List Note} (h : report.Counts notes)
    (n : Note) : (report.note n).Counts (notes ++ [n]) := by
  obtain ⟨call, reply⟩ := n
  obtain ⟨hcards, hterminals, hfailures⟩ := h
  cases reply with
  | ok _ =>
    cases call <;> constructor <;>
      simp [note, countCard, countTerminal, Note.addsCard, Note.activates, Note.refused, hcards,
        hterminals, hfailures]
  | error x =>
    cases call <;> constructor <;>
      simp [note, countCard, countTerminal, Note.addsCard, Note.activates, Note.refused, hcards,
        hterminals, hfailures]

theorem counts_foldl (notes : List Note) : (notes.foldl note {}).Counts notes := by
  induction notes using List.reverseRecOn with
  | nil => exact ⟨rfl, rfl, rfl⟩
  | append_singleton rest n ih =>
    rw [List.foldl_append]
    exact counts_concat ih n

end ReflowReport

/-! ## Section 3: Notices of the past -/

/-- An endpoint with the user and the password of another one. -/
def Endpoint.signed (e login : Endpoint) : Endpoint := ⟨e.address, login.user, login.password⟩

theorem Endpoint.signed_of_address {e login : Endpoint} (h : e.address = login.address) :
    e.signed login = login := by
  rw [signed, h]

/-- A notice with another login at its address. -/
def CardNotice.signed (login : Endpoint) (n : CardNotice) : CardNotice :=
  { n with endpoint := n.endpoint.signed login }

/-- A notice with another login at its address. -/
def TerminalNotice.signed (login : Endpoint) (n : TerminalNotice) : TerminalNotice :=
  { n with endpoint := n.endpoint.signed login }

/-- The notice that an activation of a terminal carries. -/
def Call.activation? (site : Site) (c : TerminalCoordinate) : Call → Option TerminalNotice
  | .activate n => if n.site = site ∧ n.coordinate = c then some n else none
  | _ => none

/-- The notice of the last activation of a terminal. -/
def lastActivation? (site : Site) (c : TerminalCoordinate) (past : List Call) :
    Option TerminalNotice :=
  (past.filterMap (Call.activation? site c)).getLast?

theorem mem_of_lastActivation? {site : Site} {c : TerminalCoordinate} {past : List Call}
    {n : TerminalNotice} (h : lastActivation? site c past = some n) :
    .activate n ∈ past ∧ n.site = site ∧ n.coordinate = c := by
  obtain ⟨call, hmem, hcall⟩ := List.mem_filterMap.mp (List.mem_of_getLast? h)
  cases call with
  | activate m =>
    simp only [Call.activation?] at hcall
    split at hcall
    · next hown =>
      cases hcall
      exact ⟨hmem, hown⟩
    · cases hcall
  | _ => cases hcall

/-- When the last call about a terminal is an activation, it is the last activation. -/
theorem lastActivation?_of_last {site : Site} {c : TerminalCoordinate} {past : List Call}
    {n : TerminalNotice} (h : (callsTo site c past).getLast? = some (.activate n)) :
    lastActivation? site c past = some n := by
  -- Only the calls about the terminal have a notice to find.
  have hsame : past.filterMap (Call.activation? site c) =
      (callsTo site c past).filterMap (Call.activation? site c) := by
    rw [callsTo, List.filterMap_filter]
    apply List.filterMap_congr
    intro call _
    cases call <;> simp [Call.terminal?, Call.activation?]
  have hown : n.site = site ∧ n.coordinate = c := by
    have hmem := (List.mem_filter.mp (List.mem_of_getLast? h)).2
    simpa [Call.terminal?] using hmem
  obtain ⟨rest, hrest⟩ := List.getLast?_eq_some_iff.mp h
  rw [lastActivation?, hsame, hrest, List.filterMap_append]
  simp [Call.activation?, hown]

theorem CardNotice.under_eq_signed {n : CardNotice} {endpoint : Endpoint}
    (h : n.endpoint.address = endpoint.address) : n.under endpoint = n.signed endpoint := by
  rw [CardNotice.under, signed, Endpoint.signed_of_address h]

/-- A notice is all that it shows, with terminal, subscriber and endpoint. -/
theorem TerminalNotice.eq_of_shown {m n : TerminalNotice} (hshown : m.shown = n.shown)
    (hsite : m.site = n.site) (hcoordinate : m.coordinate = n.coordinate)
    (hsubscriber : m.subscriber = n.subscriber) (hendpoint : m.endpoint = n.endpoint) : m = n := by
  cases m
  cases n
  simp only [shown, service, Shown.mk.injEq, Physical.Service.mk.injEq, Option.some.injEq]
    at hshown hsite hcoordinate hsubscriber hendpoint
  simp only [TerminalNotice.mk.injEq]
  tauto

namespace Record

/-- The coordinates of the active terminals, in order. -/
def activeCoordinates (r : Record) : List TerminalCoordinate :=
  TerminalCoordinate.all.filter fun c => r.terminalState c = .active

/-- The calls that tell of a record anew, as they were made in the past, but with the present login:
    those of the cards, and the last activations of the active terminals. -/
def retold (r : Record) (site : Site) (past : List Call) : List Call :=
  ((cardsOf site past).map fun n => .addCard (n.signed r.endpoint)) ++
    r.activeCoordinates.filterMap fun c =>
      (lastActivation? site c past).map fun n => .activate (n.signed r.endpoint)

variable {r : Record} {site : Site} {past : List Call}

theorem cardNotices_of_known (h : Known site past (some r)) :
    r.cardNotices = (cardsOf site past).map (·.signed r.endpoint) := by
  have hcards : (cardsOf site past).map (·.under r.endpoint) =
      r.cardNotices.map (·.under r.endpoint) := h.told.cards r.endpoint
  have hpresent : r.cardNotices.map (·.under r.endpoint) = r.cardNotices := by
    rw [cardNotices, List.map_map]
    rfl
  rw [← hpresent, ← hcards]
  apply List.map_congr_left
  intro n hn
  obtain ⟨hmem, hsite⟩ := List.mem_filter.mp hn
  obtain ⟨call, hcall, hcard⟩ := List.mem_filterMap.mp hmem
  cases call with
  | addCard m =>
    cases hcard
    exact CardNotice.under_eq_signed (h.genuine r rfl _ hcall (by simpa using hsite))
  | _ => cases hcard

/-- The notice that is built for an active terminal is the one of its last activation. -/
theorem Coherent.activation?_of_known (h : r.Coherent) (hsite : r.site = site)
    (hknown : Known site past (some r)) {c : TerminalCoordinate}
    (hactive : r.terminalState c = .active) :
    ∃ n, lastActivation? site c past = some n ∧ r.activation? c = some (n.signed r.endpoint) := by
  obtain ⟨view, hview⟩ := Option.isSome_iff_exists.mp ((h.shown_isSome_iff c).mpr hactive)
  have hshown : lastShown (callsTo site c past) = some view := (hknown.told.shown c).trans hview
  obtain ⟨n, hlast, rfl⟩ := lastShown_eq_some.mp hshown
  have hlast' := lastActivation?_of_last hlast
  obtain ⟨hmem, hown, hcoordinate⟩ := mem_of_lastActivation? hlast'
  obtain ⟨haddress, hsubscriber⟩ : n.endpoint.address = r.endpoint.address ∧ _ :=
    hknown.genuine r rfl _ hmem hown
  obtain ⟨⟨t, hterminal, hon, hservice⟩, hbound, _⟩ := h.of_shown hview
  obtain ⟨m, hm, _, _, hmshown⟩ := h.exists_shown_notice hbound t.service
  obtain ⟨hmsite, hmcoordinate, hmendpoint, hmsubscriber⟩ := of_noticeFor hm
  refine ⟨n, hlast', ?_⟩
  -- What was activated has both tags, so the present notice shows what the old one did.
  have hsame : m.shown = n.shown := by
    have hcell : r.cell? c = some ⟨true, t.service⟩ := by
      rcases h.terminal_cases c with ⟨_, _, hnone⟩ | ⟨_, t', _, _, hcell, hterminal'⟩
      · rw [hterminal] at hnone
        cases hnone
      · rw [hterminal, Except.ok.injEq] at hterminal'
        rw [hcell, ← hterminal', Cell.ofTerminal, hon]
    have hpresent := hmshown (by rw [hservice]; exact ⟨rfl, rfl⟩)
    rw [shown, hcell, hbound, hpresent] at hview
    exact Option.some.inj hview
  have heq : m = n.signed r.endpoint := by
    refine TerminalNotice.eq_of_shown hsame ?_ ?_ ?_ ?_
    · exact hmsite.trans (hsite.trans hown.symm)
    · exact hmcoordinate.trans hcoordinate.symm
    · rw [hmsubscriber, hsite, ← hcoordinate]
      exact hsubscriber.symm
    · exact hmendpoint.trans (Endpoint.signed_of_address haddress).symm
  rw [activation?, hterminal, ← heq]
  simp only [hon, if_true, hm]
  rfl

/-- What a reflow tells of a record is what was told on the way to it. -/
theorem Coherent.calls_of_known (h : r.Coherent) (hsite : r.site = site)
    (hknown : Known site past (some r)) : r.calls = r.retold site past := by
  have hactive : TerminalCoordinate.all.filterMap r.activation? =
      r.activeCoordinates.filterMap r.activation? := by
    rw [activeCoordinates, List.filterMap_filter]
    apply List.filterMap_congr
    intro c _
    by_cases hstate : r.terminalState c = .active
    · simp [hstate]
    · have hnone : r.activation? c = none := by
        rw [← Option.not_isSome_iff_eq_none, h.activation?_isSome_iff]
        exact hstate
      simp [hstate, hnone]
  rw [calls, retold, cardNotices_of_known hknown, hactive, List.map_map, List.map_filterMap]
  congr 1
  apply List.filterMap_congr
  intro c hc
  obtain ⟨n, hlast, hn⟩ := h.activation?_of_known hsite hknown
    (of_decide_eq_true (List.mem_filter.mp hc).2)
  rw [hn, hlast]
  rfl

end Record

/-! ## Section 4: Reflowing a registry -/

/-- A pass over the registry tells of it as it was told of in the past of its records. -/
structure Registry.Resends (g : Registry) (past : Site → List Call) : Prop where
  /-- The sites come in order. -/
  ordered : (g.entries.entries.map fun e => e.1.text).Pairwise (· < ·)
  /-- Whatever the replies are, these calls are made and no others, and each is counted. -/
  told : ∀ {τ : Type} (p : Provisioner τ) (s : τ), ∃ notes,
    g.reflow p.noting (s, []) = ((g.reflow p s).1, (g.reflow p s).2, notes) ∧
      notes.map Prod.fst =
        g.entries.entries.flatMap (fun e => e.2.record.retold e.1 (past e.1)) ∧
      (g.reflow p s).1.Counts notes
  /-- There was one notice for every card, in the order of the cards. -/
  cards : ∀ site e, g.entries.find? site = some e →
    (cardsOf site (past site)).map CardNotice.number =
      e.record.physical.cards.map Physical.Card.number
  /-- Every active terminal was activated. -/
  active : ∀ site e c, g.entries.find? site = some e → e.record.terminalState c = .active →
    (lastActivation? site c (past site)).isSome
  /-- So the counts add up to the cards and the active terminals. -/
  total : ∀ {τ : Type} (p : Provisioner τ) (s : τ),
    (g.reflow p s).1.cards + (g.reflow p s).1.terminals + (g.reflow p s).1.failures =
      (g.entries.entries.map fun e =>
        e.2.record.physical.cards.length + e.2.record.activeCoordinates.length).sum
  /-- Taken step by step, the turn of a site leaves its record and its mark as they are. -/
  untouched : ∀ script site e sent, g.entries.find? site = some e →
    ((Visit.reflow site).turn.run script e sent).2.1 = e

namespace Registry

/-- The records of a registry stem from these calls. -/
structure Stems (g : Registry) (past : Site → List Call) : Prop where
  coherent : ∀ {site e}, g.entries.find? site = some e → e.record.Coherent
  named    : ∀ {site e}, g.entries.find? site = some e → e.record.site = site
  known    : ∀ {site e}, g.entries.find? site = some e →
    Known site (past site) (some e.record)

namespace Stems

variable {g : Registry} {past : Site → List Call}

theorem cards (h : g.Stems past) {site : Site} {e : Entry}
    (hfound : g.entries.find? site = some e) :
    (cardsOf site (past site)).map CardNotice.number =
      e.record.physical.cards.map Physical.Card.number := by
  have hnumbers := congrArg (List.map CardNotice.number)
    (Record.cardNotices_of_known (h.known hfound))
  rw [Record.cardNotices, List.map_map, List.map_map] at hnumbers
  exact hnumbers.symm

theorem active (h : g.Stems past) {site : Site} {e : Entry}
    (hfound : g.entries.find? site = some e) {c : TerminalCoordinate}
    (hstate : e.record.terminalState c = .active) :
    (lastActivation? site c (past site)).isSome := by
  obtain ⟨n, hn, _⟩ := (h.coherent hfound).activation?_of_known (h.named hfound) (h.known hfound)
    hstate
  rw [hn]
  rfl

/-- There is a call for every card and for every active terminal. -/
theorem length_retold (h : g.Stems past) {site : Site} {e : Entry}
    (hfound : g.entries.find? site = some e) :
    (e.record.retold site (past site)).length =
      e.record.physical.cards.length + e.record.activeCoordinates.length := by
  have hcards := congrArg List.length (h.cards hfound)
  rw [List.length_map, List.length_map] at hcards
  have hactive : (e.record.activeCoordinates.filterMap fun c =>
      (lastActivation? site c (past site)).map fun n =>
        Call.activate (n.signed e.record.endpoint)).length = e.record.activeCoordinates.length := by
    rw [List.filterMap_length_eq_length]
    intro c hc
    rw [Option.isSome_map]
    exact h.active hfound (of_decide_eq_true (List.mem_filter.mp hc).2)
  rw [Record.retold, List.length_append, List.length_map, hcards, hactive]

theorem find?_of_mem {e : Site × Entry} (he : e ∈ g.entries.entries) :
    g.entries.find? e.1 = some e.2 :=
  SiteMap.lookup_of_mem g.entries.nodup he

theorem calls_eq (h : g.Stems past) :
    g.calls = g.entries.entries.flatMap fun e => e.2.record.retold e.1 (past e.1) := by
  apply List.flatMap_congr
  intro e he
  have hfound := find?_of_mem he
  exact (h.coherent hfound).calls_of_known (h.named hfound) (h.known hfound)

theorem retells (h : g.Stems past) : g.Resends past := by
  have hreflow : ∀ {τ : Type} (p : Provisioner τ) (s : τ),
      g.reflow p s = ((p.notes g.calls s).foldl ReflowReport.note {}, p.left g.calls s) :=
    fun p s => reflow_eq (fun e he => h.coherent (find?_of_mem he)) p s
  have hcounts : ∀ {τ : Type} (p : Provisioner τ) (s : τ),
      (g.reflow p s).1.Counts (p.notes g.calls s) := by
    intro τ p s
    rw [hreflow]
    exact ReflowReport.counts_foldl _
  refine {
    ordered   := ?_
    told      := ?_
    cards     := fun site e hfound => h.cards hfound
    active    := fun site e c hfound hstate => h.active hfound hstate
    total     := ?_
    untouched := ?_ }
  · have hsorted := g.entries.sorted
    rw [List.pairwise_map] at hsorted ⊢
    exact hsorted
  · intro τ p s
    refine ⟨p.notes g.calls s, ?_, ?_, hcounts p s⟩
    · rw [hreflow, hreflow, Provisioner.notes_noting, Provisioner.left_noting, List.nil_append]
    · rw [Provisioner.map_fst_notes, h.calls_eq]
  · intro τ p s
    have hlength := congrArg List.length (p.map_fst_notes g.calls s)
    rw [List.length_map] at hlength
    rw [(hcounts p s).total, hlength, h.calls_eq, List.length_flatMap]
    congr 1
    apply List.map_congr_left
    intro e he
    exact h.length_retold (find?_of_mem he)
  · intro script site e sent _
    exact congrArg (·.2.1) (Turn.run_reflow e sent)

end Stems

end Registry

namespace Chronicle

variable {σ : Type} {sink : Sink σ} {blobs : σ → Site → Option ByteArray} {k : Chronicle σ}

open Record (oneCard)

end Chronicle

end ChassisRegistry
