import ChassisRegistry.Proofs.OneByOne
import ChassisRegistry.Proofs.TerminalMachine

/-! # Activations of one terminal

    Several visits that activate the same terminal, one after the other: the
    first one finds it inactive, has its call accepted and succeeds; every
    later one is told that the terminal is already active, and calls nobody
    (`Workload.oneByOne_activations`). -/

namespace ChassisRegistry

/-! ## Section 1: Activating a terminal of a record -/

/-- The serial number of an activation. -/
def TerminalRequest.serial? : TerminalRequest → Option String
  | activate serial | activateExplicit serial _ _ _ | activateSerial serial => some serial
  | preProvision _ _ _ _ _ _ | deactivate => none

/-- The visit activates a terminal, under a serial number that is not blank. -/
def Visit.Activates (c : TerminalCoordinate) : Visit → Prop
  | change _ (.terminal d request) =>
      d = c ∧ ∃ serial, request.serial? = some serial ∧ Text.allBlank serial = false
  | _ => False

namespace Visit.Activates

variable {v : Visit} {c : TerminalCoordinate}

/-- An activation is admitted at a site that is there. -/
theorem screen_eq (h : v.Activates c) {g : Registry} {e : Entry}
    (hfound : g.entries.find? v.site = some e) : v.screen g = .ok () := by
  rw [Visit.screen_of_some hfound]
  cases v with
  | change site what =>
    cases what with
    | login _ _ => exact absurd h id
    | _ => rfl
  | _ => rfl

theorem exists_request (h : v.Activates c) :
    ∃ request serial, v.turn = .change (.terminal c request) ∧
      request.serial? = some serial ∧ Text.allBlank serial = false := by
  cases v with
  | change site what =>
    cases what with
    | terminal d request =>
      obtain ⟨rfl, serial, hserial, hblank⟩ := h
      exact ⟨request, serial, rfl, hserial, hblank⟩
    | _ => exact absurd h id
  | _ => exact absurd h id

end Visit.Activates

namespace Machine

variable {m : Machine} {c : TerminalCoordinate} {request : TerminalRequest} {serial : String}

theorem respond_inactive {service : Physical.Service} (hcell : m.cells c = some ⟨false, service⟩)
    (hserial : request.serial? = some serial) (hblank : Text.allBlank serial = false) :
    request.action = .activate ∧ ∃ service', m.respond c request = .ok ⟨true, service'⟩ := by
  have hactivated : ∀ fill, activated serial fill = .ok ⟨true, fill (Text.trim serial)⟩ := by
    intro fill
    rw [activated, hblank]
    rfl
  cases request with
  | preProvision _ _ _ _ _ _ | deactivate => cases hserial
  | _ =>
    cases hserial
    refine ⟨rfl, ?_⟩
    simp only [respond, hcell, hactivated]
    exact ⟨_, rfl⟩

theorem respond_active {service : Physical.Service} (hcell : m.cells c = some ⟨true, service⟩)
    (hserial : request.serial? = some serial) :
    m.respond c request = .error (.alreadyActive m.site c) := by
  cases request with
  | deactivate => cases hserial
  | _ => simp only [respond, hcell]

end Machine

namespace Record

variable {r : Record} {c : TerminalCoordinate} {request : TerminalRequest} {serial : String}

/-- The state of a terminal tells whether its cell is active. -/
theorem Coherent.exists_cell (h : r.Coherent) (active : Bool)
    (hstate : r.terminalState c = if active then .active else .inactive) :
    ∃ service, r.machine.cells c = some ⟨active, service⟩ := by
  rw [h.terminalState_eq] at hstate
  show ∃ service, r.cell? c = _
  cases hcell : r.cell? c with
  | none =>
    rw [hcell] at hstate
    cases active <;> cases hstate
  | some cell =>
    obtain ⟨present, service⟩ := cell
    rw [hcell] at hstate
    refine ⟨service, ?_⟩
    cases active <;> cases present <;> first | rfl | cases hstate

/-- An inactive terminal is activated with one call. -/
theorem Coherent.plan_inactive (h : r.Coherent) (hstate : r.terminalState c = .inactive)
    (hserial : request.serial? = some serial) (hblank : Text.allBlank serial = false) :
    ∃ plan notice r', r.plan (.terminal c request) = .ok plan ∧
      plan.call? = some (.activate notice) ∧
      r.carryOut plan = (.ok (.state .active), r') ∧
      r'.Coherent ∧ r'.terminalState c = .active ∧ r'.site = r.site := by
  obtain ⟨staged, hcell⟩ := h.exists_cell false hstate
  obtain ⟨haction, service, hrespond⟩ := Machine.respond_inactive hcell hserial hblank
  obtain ⟨here, t, hbound, ht, htold, hprepare, hcommit⟩ := h.prepare_commit hrespond
  -- Other than a service that is staged, an activation comes with a notice, which is its call.
  obtain ⟨notice, hnotice⟩ := Option.isSome_iff_exists.mp (htold (by rw [haction]; nofun))
  have hwritten := h.of_commit hcommit
  refine ⟨.transition t, notice, _, ?_, ?_, ?_, hwritten, ?_, rfl⟩
  · simp only [plan, hprepare]
    rfl
  · simp only [Plan.call?, ht, haction, hnotice]
    rfl
  · simp only [carryOut, hcommit]
    rfl
  · rw [hwritten.terminalState_eq, h.cell?_writeCell hbound, Function.update_self]
    rfl

/-- An active terminal is not activated. -/
theorem Coherent.plan_active (h : r.Coherent) (hstate : r.terminalState c = .active)
    (hserial : request.serial? = some serial) :
    r.plan (.terminal c request) = .error (.alreadyActive r.site c) := by
  obtain ⟨staged, hcell⟩ := h.exists_cell true hstate
  simp only [plan, h.prepare_refused (Machine.respond_active hcell hserial)]
  rfl

end Record

/-! ## Section 2: Turns -/

namespace Turn

variable {script : Script} {what : Change} {e : Entry} {sent : List Message}

theorem run_change_of_error {x : ChassisError} (hplan : e.record.plan what = .error x) :
    (change what).run script e sent = (.error (.chassis x), e, sent) := by
  simp only [change, run, id, hplan]

theorem run_change_of_call {plan : Plan} {call : Call} {answer : Answer} {r' : Record}
    (hplan : e.record.plan what = .ok plan) (hcall : plan.call? = some call)
    (haccept : script sent (.call call) = .ok ())
    (hcarry : e.record.carryOut plan = (.ok answer, r')) :
    (change what).run script e sent =
      (.ok (.answer answer), ⟨r', true⟩, sent ++ [.call call]) := by
  have hreply : Registry.replyTo call (script sent (.call call)) = .ok () := by
    rw [haccept]
    rfl
  simp only [change, run, id, hplan, hcall, hreply, run_commit, Entry.resume, hcarry]
  rfl

end Turn

/-! ## Section 3: One visit -/

namespace Workload

variable {ι : Type} [DecidableEq ι] {load : Workload ι} {b : Ledger ι} {g : Registry} {s : Site}
  {c : TerminalCoordinate} {t : ι}

/-- The terminal of a site is active. -/
structure ActiveAt (b : Ledger ι) (s : Site) (c : TerminalCoordinate) (e : Entry) : Prop where
  entry    : b.registry.entries.find? s = some e
  coherent : e.record.Coherent
  state    : e.record.terminalState c = .active

/-- The first activation succeeds with one call. -/
theorem perform_first {e : Entry} (hvisit : (load.visit t).Activates c) (hsite : load.site t = s)
    (haccept : ∀ sent call, load.script t sent (.call call) = .ok ())
    (hfound : b.registry.entries.find? s = some e) (hcoherent : e.record.Coherent)
    (hstate : e.record.terminalState c = .inactive) :
    (∃ e', ActiveAt (load.perform b t) s c e' ∧ e'.record.site = e.record.site) ∧
      (load.perform b t).answer t = some (.ok (.answer (.state .active))) ∧
      ∃ notice, (load.perform b t).sent s = b.sent s ++ [.call (.activate notice)] := by
  subst hsite
  obtain ⟨request, serial, hturn, hserial, hblank⟩ := hvisit.exists_request
  obtain ⟨plan, notice, r', hplan, hcall, hcarry, hcoherent', hactive, hname⟩ :=
    hcoherent.plan_inactive hstate hserial hblank
  have hrun : (Turn.change (.terminal c request)).run (load.script t) e [] =
      (.ok (.answer (.state .active)), ⟨r', true⟩, [.call (.activate notice)]) :=
    Turn.run_change_of_call hplan hcall (haccept [] (.activate notice)) hcarry
  rw [← hturn] at hrun
  rw [perform_of_admitted (hvisit.screen_eq hfound) hfound hrun]
  refine ⟨⟨⟨r', true⟩, ⟨SiteMap.find?_insert_self _ _ _, hcoherent', hactive⟩, hname⟩,
    Function.update_self _ _ _, notice, Function.update_self _ _ _⟩

/-- A later activation is refused and changes nothing. -/
theorem perform_later {e : Entry} (hvisit : (load.visit t).Activates c) (hsite : load.site t = s)
    (hactive : ActiveAt b s c e) :
    ActiveAt (load.perform b t) s c e ∧
      (load.perform b t).answer t = some (.error (.chassis (.alreadyActive e.record.site c))) ∧
      (load.perform b t).sent s = b.sent s := by
  subst hsite
  obtain ⟨request, serial, hturn, hserial, _⟩ := hvisit.exists_request
  have hrun : (Turn.change (.terminal c request)).run (load.script t) e [] =
      (.error (.chassis (.alreadyActive e.record.site c)), e, []) :=
    Turn.run_change_of_error (hactive.coherent.plan_active hactive.state hserial)
  rw [← hturn] at hrun
  rw [perform_of_admitted (hvisit.screen_eq hactive.entry) hactive.entry hrun]
  refine ⟨⟨SiteMap.find?_insert_self _ _ _, hactive.coherent, hactive.state⟩,
    Function.update_self _ _ _, ?_⟩
  simp only [Function.update_self, List.append_nil]

/-! ## Section 4: One after the other -/

theorem foldl_later {e : Entry} (rest : List ι)
    (hrest : ∀ t ∈ rest, load.site t = s ∧ (load.visit t).Activates c)
    (hactive : ActiveAt b s c e) :
    (rest.foldl load.perform b).sent s = b.sent s ∧
      (∀ t ∈ rest, (rest.foldl load.perform b).answer t =
        some (.error (.chassis (.alreadyActive e.record.site c)))) ∧
      ∀ u, u ∉ rest → (rest.foldl load.perform b).answer u = b.answer u := by
  -- The terminal stays active from visit to visit. An answer is kept, as later visits answer for
  -- themselves; should a visit come twice, its last answer is the same.
  induction rest generalizing b with
  | nil => exact ⟨rfl, fun t ht => absurd ht List.not_mem_nil, fun _ _ => rfl⟩
  | cons first rest ih =>
    obtain ⟨hsite, hvisit⟩ := hrest first List.mem_cons_self
    obtain ⟨hactive', hanswer, hsent⟩ := perform_later hvisit hsite hactive
    obtain ⟨hsent', hrefused, hothers⟩ :=
      ih (fun t ht => hrest t (List.mem_cons_of_mem _ ht)) hactive'
    rw [List.foldl_cons]
    refine ⟨hsent'.trans hsent, ?_, ?_⟩
    · intro t ht
      by_cases hmem : t ∈ rest
      · exact hrefused t hmem
      · have hfirst : t = first := (List.mem_cons.mp ht).resolve_right hmem
        rw [hothers t hmem, hfirst]
        exact hanswer
    · intro u hu
      rw [hothers u fun hmem => hu (List.mem_cons_of_mem _ hmem)]
      exact perform_answer_of_ne fun heq => hu (heq ▸ List.mem_cons_self)

/-- **Activations**: of activations of one inactive terminal the first succeeds, with one call,
    and all others find it active. -/
theorem oneByOne_activations {e : Entry} {first : ι} {rest : List ι}
    (hfound : g.entries.find? s = some e) (hcoherent : e.record.Coherent)
    (hstate : e.record.terminalState c = .inactive)
    (hvisits : ∀ t ∈ first :: rest, load.site t = s ∧ (load.visit t).Activates c)
    (haccept : ∀ sent call, load.script first sent (.call call) = .ok ()) (hnew : first ∉ rest) :
    (load.oneByOne g (first :: rest)).answer first = some (.ok (.answer (.state .active))) ∧
      (∀ t ∈ rest, (load.oneByOne g (first :: rest)).answer t =
        some (.error (.chassis (.alreadyActive e.record.site c)))) ∧
      ∃ notice, (load.oneByOne g (first :: rest)).sent s = [.call (.activate notice)] := by
  obtain ⟨hsite, hvisit⟩ := hvisits first List.mem_cons_self
  obtain ⟨⟨e', hactive, hname⟩, hanswer, notice, hsent⟩ :=
    perform_first (b := ⟨g, fun _ => none, fun _ => []⟩) hvisit hsite haccept hfound hcoherent
      hstate
  obtain ⟨hsent', hrefused, hothers⟩ :=
    foldl_later rest (fun t ht => hvisits t (List.mem_cons_of_mem _ ht)) hactive
  rw [oneByOne, List.foldl_cons]
  refine ⟨(hothers first hnew).trans hanswer, ?_, notice, hsent'.trans hsent⟩
  intro t ht
  rw [hrefused t ht, hname]

end Workload

end ChassisRegistry
