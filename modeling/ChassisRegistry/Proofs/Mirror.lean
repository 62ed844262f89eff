import ChassisRegistry.Proofs.Foreseen
import ChassisRegistry.Proofs.Notices
import Mathlib.Data.List.Chain

/-! # The provisioning system mirrors the registry

    Whoever replays the calls that were accepted knows the registry: which
    terminals are active, with which service and behind which card, and which
    cards every site has. This holds for a site at every moment but between
    an accepted call and the end of its change, and then it holds of what the
    record is about to be.

    Main statement: `Traffic.mirrors`. -/

namespace ChassisRegistry

/-! ## Section 1: Replaying calls -/

namespace Call

/-- The terminal that a call is about. -/
def terminal? : Call → Option (Site × TerminalCoordinate)
  | activate n | deactivate n => some (n.site, n.coordinate)
  | login _ | addCard _ => none

/-- The card that a call tells of. -/
def card? : Call → Option CardNotice
  | addCard n => some n
  | _ => none

/-- May the second call on a terminal come right after the first? -/
def Follows : Call → Call → Prop
  | activate n, deactivate m => m.service = n.service
  | deactivate _, activate _ => True
  | _, _ => False

end Call

/-- The calls about a terminal. -/
def callsTo (site : Site) (c : TerminalCoordinate) (log : List Call) : List Call :=
  log.filter fun call => call.terminal? = some (site, c)

/-- The cards that calls tell of for a site. -/
def cardsOf (site : Site) (log : List Call) : List CardNotice :=
  (log.filterMap Call.card?).filter fun n => n.site = site

/-- Activations and deactivations in turn, from an activation, and each deactivation with the
    service of the activation before it. -/
def Alternating (calls : List Call) : Prop :=
  calls.IsChain Call.Follows ∧ ∀ first ∈ calls.head?, ∃ n, first = .activate n

/-- What is shown of a terminal after these calls about it. -/
def lastShown (calls : List Call) : Option Shown :=
  match calls.getLast? with
  | some (.activate n) => some n.shown
  | _ => none

section Replay

variable {site : Site} {c : TerminalCoordinate} {log calls : List Call} {call : Call}

theorem callsTo_concat_self (hcall : call.terminal? = some (site, c)) :
    callsTo site c (log ++ [call]) = callsTo site c log ++ [call] := by
  simp [callsTo, hcall]

theorem callsTo_concat_of_ne (hcall : call.terminal? ≠ some (site, c)) :
    callsTo site c (log ++ [call]) = callsTo site c log := by
  simp [callsTo, hcall]

theorem cardsOf_concat (site : Site) (log : List Call) (call : Call) :
    cardsOf site (log ++ [call]) = cardsOf site log ++ cardsOf site [call] := by
  simp [cardsOf]

@[simp] theorem lastShown_concat_activate (calls : List Call) (n : TerminalNotice) :
    lastShown (calls ++ [.activate n]) = some n.shown := by
  simp [lastShown]

@[simp] theorem lastShown_concat_deactivate (calls : List Call) (n : TerminalNotice) :
    lastShown (calls ++ [.deactivate n]) = none := by
  simp [lastShown]

theorem lastShown_eq_some {view : Shown} :
    lastShown calls = some view ↔ ∃ n, calls.getLast? = some (.activate n) ∧ n.shown = view := by
  unfold lastShown
  constructor
  · intro h
    split at h
    · next n hlast => exact ⟨n, hlast, Option.some.inj h⟩
    · cases h
  · rintro ⟨n, hlast, rfl⟩
    rw [hlast]

/-- An activation may come when nothing is shown. -/
theorem Alternating.activate (h : Alternating calls)
    (hterminal : ∀ call ∈ calls, call.terminal? = some (site, c)) (hbefore : lastShown calls = none)
    (n : TerminalNotice) : Alternating (calls ++ [.activate n]) := by
  refine ⟨List.isChain_append.mpr ⟨h.1, List.isChain_singleton _, ?_⟩, ?_⟩
  · intro last hlast next hnext
    obtain rfl : .activate n = next := by simpa using hnext
    have hmem := List.mem_of_getLast? hlast
    -- A last call about the terminal that shows nothing is a deactivation.
    cases last with
    | activate m =>
      rw [lastShown_eq_some.mpr ⟨m, hlast, rfl⟩] at hbefore
      cases hbefore
    | deactivate m => trivial
    | login endpoint => cases hterminal _ hmem
    | addCard notice => cases hterminal _ hmem
  · intro first hfirst
    cases calls with
    | nil => exact ⟨n, by simpa using hfirst.symm⟩
    | cons head rest => exact h.2 first hfirst

/-- A deactivation may come when something is shown, and has to tell of its service. -/
theorem Alternating.deactivate (h : Alternating calls) {m n : TerminalNotice}
    (hlast : calls.getLast? = some (.activate m)) (hsame : n.service = m.service) :
    Alternating (calls ++ [.deactivate n]) := by
  refine ⟨List.isChain_append.mpr ⟨h.1, List.isChain_singleton _, ?_⟩, ?_⟩
  · intro last hlast' next hnext
    obtain rfl : .deactivate n = next := by simpa using hnext
    obtain rfl : .activate m = last := by
      rw [hlast] at hlast'
      exact Option.some.inj hlast'
    exact hsame
  · intro first hfirst
    cases calls with
    | nil => cases hlast
    | cons head rest => exact h.2 first hfirst

end Replay

/-! ## Section 2: One site -/

/-- The calls tell of a record at a site, or of none. -/
structure Told (site : Site) (log : List Call) (r? : Option Record) : Prop where
  alternating : ∀ c, Alternating (callsTo site c log)
  shown       : ∀ c, lastShown (callsTo site c log) = r?.bind fun r => r.shown c
  /-- All cards were told of, under whatever login. -/
  cards       : ∀ endpoint, (cardsOf site log).map (·.under endpoint) =
    (r?.elim [] Record.cardNotices).map (·.under endpoint)
  /-- Of a site that is not there nothing was told. -/
  unknown     : r? = none → ∀ c, callsTo site c log = []

namespace Told

variable {site : Site} {log : List Call} {r r' : Record} {r? : Option Record} {call : Call}

theorem nil (site : Site) : Told site [] none where
  alternating _ := ⟨List.isChain_nil, by simp [callsTo]⟩
  shown _       := rfl
  cards _       := rfl
  unknown _ _   := rfl

/-- A call that is not about the site. -/
theorem elsewhere (h : Told site log r?) (hterminal : ∀ c, call.terminal? ≠ some (site, c))
    (hcard : cardsOf site [call] = []) : Told site (log ++ [call]) r? := by
  have hcalls : ∀ c, callsTo site c (log ++ [call]) = callsTo site c log :=
    fun c => callsTo_concat_of_ne (hterminal c)
  have hcards : cardsOf site (log ++ [call]) = cardsOf site log := by
    rw [cardsOf_concat, hcard, List.append_nil]
  exact {
    alternating := fun c => hcalls c ▸ h.alternating c
    shown       := fun c => hcalls c ▸ h.shown c
    cards       := fun endpoint => hcards ▸ h.cards endpoint
    unknown     := fun hnone c => (hcalls c).trans (h.unknown hnone c) }

theorem login (h : Told site log r?) (endpoint : Endpoint) :
    Told site (log ++ [.login endpoint]) r? :=
  h.elsewhere (by simp [Call.terminal?]) rfl

/-- A record that shows the same. -/
theorem of_shown_eq (h : Told site log (some r)) (hshown : r'.shown = r.shown)
    (hcards : ∀ endpoint, r'.cardNotices.map (·.under endpoint) =
      r.cardNotices.map (·.under endpoint)) : Told site log (some r') where
  alternating := h.alternating
  shown c     := by
    rw [h.shown]
    exact congrFun hshown.symm c
  cards e     := (h.cards e).trans (hcards e).symm
  unknown     := nofun

/-- A site is created. -/
theorem create (h : Told site log none) (endpoint : Endpoint) (rack shelf : UInt32) :
    Told site log (some (.create site endpoint rack shelf)) where
  alternating := h.alternating
  shown c     := by
    -- There are no cards, so no port is bound.
    have hcoherent := Record.coherent_create site endpoint rack shelf
    rw [h.shown]
    rcases hcoherent.terminal_cases c with ⟨_, hcell, _⟩ | ⟨here, _, hbound, _⟩
    · exact (Record.shown_of_unbound hcell).symm
    · exact absurd (hcoherent.mem_devicePorts hbound) nofun
  cards       := h.cards
  unknown     := nofun

/-- One terminal is shown anew after a call about it. -/
theorem concat (h : Told site log (some r)) {c : TerminalCoordinate} {view : Option Shown}
    (hterminal : call.terminal? = some (site, c)) (hcard : cardsOf site [call] = [])
    (halternating : Alternating (callsTo site c log ++ [call]))
    (hview : lastShown (callsTo site c log ++ [call]) = view)
    (hshown : r'.shown = Function.update r.shown c view)
    (hcards : r'.cardNotices = r.cardNotices) : Told site (log ++ [call]) (some r') where
  alternating d := by
    by_cases hdc : d = c
    · rw [hdc, callsTo_concat_self hterminal]
      exact halternating
    · rw [callsTo_concat_of_ne (by simp [hterminal, Ne.symm hdc])]
      exact h.alternating d
  shown d := by
    show _ = r'.shown d
    by_cases hdc : d = c
    · rw [hdc, callsTo_concat_self hterminal, hview, hshown, Function.update_self]
    · rw [callsTo_concat_of_ne (by simp [hterminal, Ne.symm hdc]), hshown,
        Function.update_of_ne hdc]
      exact h.shown d
  cards endpoint := by
    rw [cardsOf_concat, hcard, List.append_nil]
    show _ = r'.cardNotices.map _
    rw [hcards]
    exact h.cards endpoint
  unknown := nofun

/-- The call of a change tells of what the change makes of the record. -/
theorem accept (h : Told site log (some r)) (hr : r.Coherent) (hsite : r.site = site)
    {what : Change} {plan : Plan} (hplan : r.plan what = .ok plan)
    (hcall : plan.call? = some call) : Told site (log ++ [call]) (some (r.after what)) := by
  cases what with
  | login user password =>
    cases hplan
    cases hcall
    refine (h.login _).of_shown_eq (Record.shown_withCredentials user password) ?_
    intro endpoint
    show (r.withCredentials user password).cardNotices.map _ = _
    rw [Record.cardNotices_withCredentials, List.map_map]
    rfl
  | attach driver address hostname =>
    obtain ⟨notice, rfl, hnotice, hcards, hshown⟩ := hr.card_plan hplan
    cases hcall
    have hcalls : ∀ c, callsTo site c (log ++ [.addCard notice]) = callsTo site c log :=
      fun c => callsTo_concat_of_ne nofun
    exact {
      alternating := fun c => hcalls c ▸ h.alternating c
      shown       := fun c => by
        rw [hcalls, h.shown]
        exact congrFun hshown.symm c
      cards       := fun endpoint => by
        have hlast : cardsOf site [.addCard notice] = [notice] := by
          simp [cardsOf, Call.card?, hnotice, hsite]
        have hcards' := h.cards endpoint
        rw [cardsOf_concat, hlast, List.map_append, hcards']
        show _ = (r.after (.attach driver address hostname)).cardNotices.map _
        rw [hcards, List.map_append]
        rfl
      unknown     := nofun }
  | terminal c request =>
    obtain ⟨hcards, hcases⟩ := hr.terminal_plan hplan
    have hlast : lastShown (callsTo site c log) = r.shown c := h.shown c
    cases hcases with
    | staged hnone hshown =>
      rw [hnone] at hcall
      cases hcall
    | activated n htold hn hc hbefore hshown =>
      rw [htold, Option.some.injEq] at hcall
      subst hcall
      refine h.concat (by rw [Call.terminal?, hn, hc, hsite]) rfl ?_
        (lastShown_concat_activate _ n) hshown hcards
      have hterminal : ∀ call ∈ callsTo site c log, call.terminal? = some (site, c) := by
        intro call hmem
        simpa using (List.mem_filter.mp hmem).2
      exact (h.alternating c).activate hterminal (hlast.trans hbefore) n
    | deactivated n htold hn hc hbefore hsame hshown =>
      rw [htold, Option.some.injEq] at hcall
      subst hcall
      obtain ⟨view, hview⟩ := Option.isSome_iff_exists.mp hbefore
      obtain ⟨m, hm, hmview⟩ := lastShown_eq_some.mp (hlast.trans hview)
      refine h.concat (by rw [Call.terminal?, hn, hc, hsite]) rfl ?_
        (lastShown_concat_deactivate _ n) hshown hcards
      exact (h.alternating c).deactivate hm (hsame m (by rw [hview, hmview]))

/-- Of a change without a call there is nothing to tell. -/
theorem silent (h : Told site log (some r)) (hr : r.Coherent) {what : Change} {plan : Plan}
    (hplan : r.plan what = .ok plan) (hcall : plan.call? = none) :
    Told site log (some (r.after what)) := by
  cases what with
  | login user password =>
    cases hplan
    cases hcall
  | attach driver address hostname =>
    obtain ⟨notice, rfl, _⟩ := hr.card_plan hplan
    cases hcall
  | terminal c request =>
    obtain ⟨hcards, hcases⟩ := hr.terminal_plan hplan
    cases hcases with
    | staged _ hshown => exact h.of_shown_eq hshown fun _ => by rw [hcards]
    | activated n htold =>
      rw [htold] at hcall
      cases hcall
    | deactivated n htold =>
      rw [htold] at hcall
      cases hcall

end Told

/-- The call of a change is about the site of its record. -/
theorem Record.Coherent.call_elsewhere {r : Record} (hr : r.Coherent) {what : Change} {plan : Plan}
    {call : Call} (hplan : r.plan what = .ok plan) (hcall : plan.call? = some call) {site : Site}
    (hne : r.site ≠ site) :
    (∀ c, call.terminal? ≠ some (site, c)) ∧ cardsOf site [call] = [] := by
  cases what with
  | login user password =>
    cases hplan
    cases hcall
    exact ⟨by simp [Call.terminal?], rfl⟩
  | attach driver address hostname =>
    obtain ⟨notice, rfl, hnotice, _⟩ := hr.card_plan hplan
    cases hcall
    exact ⟨by simp [Call.terminal?], by simp [cardsOf, Call.card?, hnotice, hne]⟩
  | terminal c request =>
    obtain ⟨_, hcases⟩ := hr.terminal_plan hplan
    cases hcases with
    | staged hnone =>
      rw [hnone] at hcall
      cases hcall
    | activated n htold hn =>
      rw [htold, Option.some.injEq] at hcall
      subst hcall
      exact ⟨by simp [Call.terminal?, hn, hne], rfl⟩
    | deactivated n htold hn =>
      rw [htold, Option.some.injEq] at hcall
      subst hcall
      exact ⟨by simp [Call.terminal?, hn, hne], rfl⟩

/-- Only an accepted call is logged, and it tells of what is foreseen from then on. -/
theorem Told.concerned {σ : Type} {w w' : Traffic σ} {site : Site} {log : List Call}
    (h : Told site log (w.foreseen site)) (hconcerns : Traffic.Concerns w w' site) :
    Told site (log ++ w'.log.drop w.log.length) (w'.foreseen site) := by
  cases hconcerns with
  | nothing hlog hsame =>
    rw [hlog, List.drop_length, List.append_nil, hsame]
    exact h
  | login endpoint hlog hsame =>
    rw [hlog, List.drop_left, hsame]
    exact h.login endpoint
  | elsewhere hr hne hplan hcall hlog hsame =>
    obtain ⟨hterminal, hcard⟩ := hr.call_elsewhere hplan hcall hne
    rw [hlog, List.drop_left, hsame]
    exact h.elsewhere hterminal hcard
  | created endpoint rack shelf hlog hbefore hafter =>
    rw [hbefore] at h
    rw [hlog, List.drop_left, hafter]
    exact (h.create endpoint rack shelf).login endpoint
  | accepted hr hsite hplan hcall hlog hbefore hafter =>
    rw [hbefore] at h
    rw [hlog, List.drop_left, hafter]
    exact h.accept hr hsite hplan hcall
  | silent hr hsite hplan hcall hlog hbefore hafter =>
    rw [hbefore] at h
    rw [hlog, List.drop_length, List.append_nil, hafter]
    exact h.silent hr hplan hcall

/-! ## Section 3: Every run -/

namespace Traffic

variable {σ : Type} {sink : Sink σ} {w w' : Traffic σ} {site : Site}

/-- The calls tell of every site what it is or is about to be. -/
structure Mirrored (w : Traffic σ) : Prop where
  sound : w.Sound
  told  : ∀ site, Told site w.log (w.foreseen site)

theorem mirrored_start (s : σ) : Mirrored (start s) := ⟨sound_start s, Told.nil⟩

theorem Mirrored.moves (h : w.Mirrored) (hmoves : Moves sink w w') : w'.Mirrored := by
  refine ⟨hmoves.sound h.sound, ?_⟩
  intro site
  have hconcerns := hmoves.concerns h.sound site
  rw [← hconcerns.log_eq]
  exact (h.told site).concerned hconcerns

theorem Mirrored.foldl (h : w.Mirrored) (events : List Event) :
    (events.foldl (step sink) w).Mirrored := by
  induction events generalizing w with
  | nil => exact h
  | cons event rest ih => exact ih (h.moves (h.sound.moves event))

/-! ## Section 4: What the calls tell -/

/-- A record has at a coordinate what an activation told. -/
structure Agrees (r : Record) (c : TerminalCoordinate) (n : TerminalNotice) : Prop where
  stored : ∃ t, r.terminal c = .ok t ∧ t.active = true ∧ t.service = n.service
  bound  : r.binding? c.onPort = some n.device
  card   : ∃ card, r.physical.card? n.device.card = some card ∧ card.address = n.deviceAddress ∧
    card.hostname = n.deviceHostname ∧ card.driver = n.driver

/-- The log of the accepted calls mirrors the registry. -/
structure Mirrors (w : Traffic σ) : Prop where
  alternating : ∀ site c, Alternating (callsTo site c w.log)
  /-- Of a site that is not there nothing was told. -/
  unknown : ∀ site, w.registry.entries.find? site = none →
    (∀ c, callsTo site c w.log = []) ∧ cardsOf site w.log = []
  /-- Where no change is between its call and its end, the active terminals are those that were
      activated last. -/
  active : ∀ site e, w.registry.entries.find? site = some e →
    (∀ f, w.flight site = some f → f.accepted = false) → ∀ c,
      e.record.terminalState c = .active ↔
        ∃ n, (callsTo site c w.log).getLast? = some (.activate n)
  agrees : ∀ site e, w.registry.entries.find? site = some e →
    (∀ f, w.flight site = some f → f.accepted = false) → ∀ c n,
      (callsTo site c w.log).getLast? = some (.activate n) → Agrees e.record c n
  /-- The cards were told of in their order, with the login of the time. -/
  cards : ∀ site e, w.registry.entries.find? site = some e →
    (∀ f, w.flight site = some f → f.accepted = false) →
      (cardsOf site w.log).map (·.under e.record.endpoint) = e.record.cardNotices

theorem Mirrored.spelled_out (h : w.Mirrored) : w.Mirrors := by
  have htold : ∀ {site e}, w.registry.entries.find? site = some e →
      (∀ f, w.flight site = some f → f.accepted = false) → Told site w.log (some e.record) := by
    intro site e hfound hwaits
    have htold := h.told site
    rw [foreseen_of_waiting hwaits, hfound] at htold
    exact htold
  refine {
    alternating := fun site c => (h.told site).alternating c
    unknown     := ?_
    active      := ?_
    agrees      := ?_
    cards       := ?_ }
  · intro site hnone
    have hold := h.told site
    simp only [foreseen, hnone, Option.map_none] at hold
    refine ⟨hold.unknown rfl, ?_⟩
    -- Any login will do: no notice becomes another number of notices by it.
    have hcards := hold.cards ⟨.v4 ⟨0, 0, 0, 0⟩ 0, "", ""⟩
    simpa using hcards
  · intro site e hfound hwaits c
    rw [← (h.sound.coherent hfound).shown_isSome_iff]
    have hshown : lastShown (callsTo site c w.log) = e.record.shown c :=
      (htold hfound hwaits).shown c
    rw [← hshown, Option.isSome_iff_exists]
    constructor
    · rintro ⟨view, hview⟩
      obtain ⟨n, hlast, _⟩ := lastShown_eq_some.mp hview
      exact ⟨n, hlast⟩
    · rintro ⟨n, hlast⟩
      exact ⟨n.shown, lastShown_eq_some.mpr ⟨n, hlast, rfl⟩⟩
  · intro site e hfound hwaits c n hlast
    have hshown : lastShown (callsTo site c w.log) = e.record.shown c :=
      (htold hfound hwaits).shown c
    rw [lastShown_eq_some.mpr ⟨n, hlast, rfl⟩] at hshown
    obtain ⟨hstored, hbound, hcard⟩ := (h.sound.coherent hfound).of_shown hshown.symm
    exact ⟨hstored, hbound, hcard⟩
  · intro site e hfound hwaits
    have hcards := (htold hfound hwaits).cards e.record.endpoint
    rw [hcards]
    -- The notices of the record carry its present login already.
    show e.record.cardNotices.map _ = _
    rw [Record.cardNotices, List.map_map]
    rfl

/-- **The provisioning system mirrors the registry**: in every run from an empty registry, whatever
    is accepted and refused and however changes of several sites overlap, the calls that were
    accepted tell which terminals are active, with what, and which cards there are. -/
theorem mirrors (sink : Sink σ) (s : σ) (events : List Event) :
    Mirrors (events.foldl (step sink) (start s)) :=
  ((mirrored_start s).foldl events).spelled_out

-- A card is accepted, then an activation is refused, and a second one is accepted but not yet
-- carried out: the call is in the log, and the terminal is still inactive.
example :
    let c : TerminalCoordinate := ⟨⟨⟨0, by decide⟩, ⟨0, by decide⟩⟩, ⟨0, by decide⟩⟩
    let lab := Record.oneCard.site
    let events : List Event :=
      [.create lab Record.oneCard.endpoint 1 2 (.ok ()),
        .change lab (.attach .adtran (.v4 ⟨10, 0, 0, 2⟩ 830) "card-1"), .reply lab (.ok ()),
        .finish lab, .change lab (.terminal c (.activate "sn-1")),
        .reply lab (.error (.rejected "busy")), .change lab (.terminal c (.activate "sn-2")),
        .reply lab (.ok ())]
    let w := events.foldl (step ⟨fun _ _ s => (.ok (), s), fun _ => .ok []⟩) (start ())
    w.log.map Call.operation = ["validate_login", "add_line_card", "activate"] ∧
      (w.registry.entries.find? lab).map (·.record.terminalState c) = some .inactive ∧
      ((w.step ⟨fun _ _ s => (.ok (), s), fun _ => .ok []⟩ (.finish lab)).registry.entries.find?
        lab).map (·.record.terminalState c) = some .active := by
  decide +kernel

end Traffic

end ChassisRegistry
