import ChassisRegistry.Proofs.Discretion

/-! # Secrecy

    Two runs are compared that differ in nothing but the passwords that come in:
    the same operations, one after the other, and the same answers from the
    provisioning system and the sink. In between the daemon may be started anew;
    then the sites are gone, and what the sink has kept can be restored.

    After each operation the two runs look alike. Results, reports and errors
    are the same, snapshots apart; so is what is shown of the calls that were
    made and of the records that are there; and the registries are the same but
    for the stored passwords.

    Main statement: `Situation.alike_observe`. -/

namespace ChassisRegistry

/-! ## Section 1: Runs -/

/-- What has gone out of a registry: the calls, and the blobs that were offered to the sink, in
    order. Blobs that were there at the beginning come first. -/
structure Outgoings where
  calls : List Call
  blobs : List (Site × ByteArray)

/-- The answers that an operation gets. A call or a store is answered by the number of those
    before it; a load gives back blobs that were offered, chosen by their places. -/
structure Answers where
  call  : Nat → Except ProvisionerError Unit
  store : Nat → Except SinkError Unit
  load  : Except SinkError (List Nat)

/-- The outside that gives these answers and keeps what goes out. It stands for any provisioning
    system and for any sinks that give back what they were offered: a sink that keeps one blob per
    site, one that loses some, and several sinks are among them, as it is the load that chooses. -/
def Answers.outside (answers : Answers) : Outside Outgoings where
  provisioner call out :=
    (answers.call out.calls.length, { out with calls := out.calls ++ [call] })
  sink := {
    store := fun site bytes out =>
      (answers.store out.blobs.length, { out with blobs := out.blobs ++ [(site, bytes)] })
    load := fun out => answers.load.map fun places => places.filterMap fun i => out.blobs[i]? }

/-- A step of a run: an operation and the answers that it gets. -/
structure Step where
  /-- Is the daemon started anew before? -/
  anew    : Bool
  duty    : Duty
  answers : Answers

/-- A registry, and what has gone out of it. -/
structure Situation where
  registry : Registry
  out      : Outgoings

/-- What is seen of a step: how the operation ends, and the situation after it. -/
structure Observation where
  result : Duty.Result
  after  : Situation

namespace Situation

/-- There is no site yet, and the sink has these blobs. -/
def start (blobs : List (Site × ByteArray)) : Situation := ⟨.empty, ⟨[], blobs⟩⟩

/-- The registry that a step begins with. -/
def registryFor (w : Situation) (step : Step) : Registry :=
  if step.anew then .empty else w.registry

/-- Takes a step. -/
def take (w : Situation) (step : Step) : Observation :=
  let (result, registry, out) := step.duty.alone step.answers.outside (w.registryFor step) w.out
  ⟨result, registry, out⟩

/-- Takes steps, one after the other. -/
def observe (w : Situation) : List Step → List Observation
  | [] => []
  | step :: rest => w.take step :: (w.take step).after.observe rest

end Situation

/-! ## Section 2: What can be told of a run -/

/-- A step without its password, if one comes with it. -/
def Step.masked (step : Step) : Step := { step with duty := step.duty.masked }

/-- What has gone out, without the passwords. -/
def Outgoings.masked (out : Outgoings) : Outgoings where
  calls := out.calls.map Call.masked
  blobs := out.blobs.map fun x => (x.1, Snapshot.masked x.2)

/-- A situation without the passwords. -/
def Situation.masked (w : Situation) : Situation := ⟨w.registry.masked, w.out.masked⟩

/-- The endpoint that a call goes to. -/
def Call.endpoint : Call → Endpoint
  | login endpoint => endpoint
  | addCard notice => notice.endpoint
  | activate notice | deactivate notice => notice.endpoint

/-- The serialized form of the notice in a call. -/
def Call.notice? : Call → Option Json.Value
  | login _ => none
  | addCard notice => some notice.toJson
  | activate notice | deactivate notice => some notice.toJson

/-- What is shown of a call: its name, its notice, and its endpoint for display. -/
def Call.visible (c : Call) : String × Option Json.Value × String :=
  (c.operation, c.notice?, c.endpoint.display)

/-- What is shown of a record: the notices of its cards and of its active terminals, and its
    endpoint for display. -/
def Record.visible (r : Record) : List Json.Value × Except ChassisError (List Json.Value) × String :=
  (r.cardNotices.map CardNotice.toJson, r.activeNotices.map (List.map TerminalNotice.toJson),
    r.endpoint.display)

/-- What is shown of the records of a registry. -/
def Registry.visible (g : Registry) :
    List (List Json.Value × Except ChassisError (List Json.Value) × String) :=
  g.entries.entries.map fun x => x.2.record.visible

/-- Nothing but stored passwords and snapshots tells two observations apart. -/
structure Observation.Alike (a b : Observation) : Prop where
  /-- The operations end in the same way: with the same value or the same error. -/
  result   : a.result.withoutSnapshot = b.result.withoutSnapshot
  /-- The same sites are there, with the same records and marks. -/
  registry : a.after.registry.masked = b.after.registry.masked
  /-- The same calls were made, and the same is shown of them. -/
  calls    : a.after.out.calls.map Call.visible = b.after.out.calls.map Call.visible
  /-- The same is shown of the records. -/
  records  : a.after.registry.visible = b.after.registry.visible

theorem Call.visible_masked (c : Call) : c.masked.visible = c.visible := by
  have hnotice : c.masked.notice? = c.notice? := by
    cases c with
    | login endpoint => rfl
    | addCard notice => exact congrArg some notice.toJson_masked
    | activate notice => exact congrArg some notice.toJson_masked
    | deactivate notice => exact congrArg some notice.toJson_masked
  have hendpoint : c.masked.endpoint = c.endpoint.masked := by
    cases c <;> rfl
  unfold visible
  rw [c.operation_masked, hnotice, hendpoint, Endpoint.display_masked]

theorem Record.visible_masked (r : Record) : r.masked.visible = r.visible := by
  have hcards : r.masked.cardNotices.map CardNotice.toJson =
      r.cardNotices.map CardNotice.toJson := by
    rw [cardNotices_masked, List.map_map]
    exact List.map_congr_left fun n _ => n.toJson_masked
  have hterminals : r.masked.activeNotices.map (List.map TerminalNotice.toJson) =
      r.activeNotices.map (List.map TerminalNotice.toJson) := by
    rw [activeNotices_masked]
    cases r.activeNotices with
    | error x => rfl
    | ok notices =>
      simp only [Except.map, List.map_map]
      exact congrArg _ (List.map_congr_left fun n _ => n.toJson_masked)
  unfold visible
  rw [hcards, hterminals, endpoint_masked, Endpoint.display_masked]

theorem Registry.visible_masked (g : Registry) : g.masked.visible = g.visible := by
  have hentry : ∀ x : Site × Entry, x.2.masked.record.visible = x.2.record.visible :=
    fun x => x.2.record.visible_masked
  simp only [visible, masked, SiteMap.map, List.map_map, Function.comp_def, hentry]

/-- Steps that end alike in situations that are the same when masked are observed alike. -/
theorem Observation.alike_of_masked {a b : Observation}
    (hresult : a.result.withoutSnapshot = b.result.withoutSnapshot)
    (hafter : a.after.masked = b.after.masked) : a.Alike b := by
  have hregistry : a.after.registry.masked = b.after.registry.masked :=
    congrArg Situation.registry hafter
  have hcalls : a.after.out.calls.map Call.masked = b.after.out.calls.map Call.masked :=
    congrArg (fun w => w.out.calls) hafter
  have hvisible : ∀ calls : List Call,
      (calls.map Call.masked).map Call.visible = calls.map Call.visible := by
    intro calls
    rw [List.map_map]
    exact List.map_congr_left fun c _ => c.visible_masked
  exact {
    result   := hresult
    registry := hregistry
    calls    := by rw [← hvisible, hcalls, hvisible]
    records  := by rw [← Registry.visible_masked, hregistry, Registry.visible_masked] }

/-! ## Section 3: One step -/

/-- Answers that are given by number and by place do not look at passwords. -/
theorem Answers.blind_outside (answers : Answers) :
    answers.outside.Blind Outgoings.masked where
  call c out := by
    simp only [outside, Outgoings.masked, List.length_map, List.map_append, List.map_cons,
      List.map_nil]
  store site bytes out := by
    simp only [outside, Outgoings.masked, List.length_map, List.map_append, List.map_cons,
      List.map_nil]
  load out := by
    simp only [outside]
    cases answers.load with
    | error x => rfl
    | ok places =>
      simp only [Except.map, Outgoings.masked, List.map_filterMap, List.getElem?_map]

variable {σ : Type} {o : Outside σ} {g : Registry} {s : σ}

theorem Registry.Sound.flushEntry (h : g.Sound) (report : FlushReport) {site : Site} {e : Entry}
    (hown : e.Own site) : (flushEntry o.sink report g s site e).2.1.Sound := by
  rcases offer_cases o.sink site e s with
    hclean | ⟨s', hdirty, hstore⟩ | ⟨x, s', hdirty, hstore⟩
  · rw [flushEntry_clean hclean]
    exact h
  · rw [flushEntry_stored hdirty hstore]
    exact h.put ⟨hown.coherent, hown.named⟩
  · rw [flushEntry_failed hdirty hstore]
    exact h

theorem Registry.Sound.flushEach (h : g.Sound) {xs : List (Site × Entry)}
    (hown : ∀ x ∈ xs, x.2.Own x.1) (report : FlushReport) :
    (flushEach o.sink xs report g s).2.1.Sound := by
  induction xs generalizing report g s with
  | nil => exact h
  | cons head rest ih =>
    obtain ⟨hhead, hrest⟩ := List.forall_mem_cons.mp hown
    exact ih (h.flushEntry report hhead) hrest _

/-- Every operation keeps a registry well. -/
theorem Registry.Sound.alone (h : g.Sound) (d : Duty) : (d.alone o g s).2.1.Sound := by
  cases d with
  | request r =>
    obtain ⟨result, g', s', log, ⟨hserve, _⟩, hserved⟩ := h.exists_served r o.provisioner s
    simp only [Duty.alone, hserve]
    cases hserved with
    | refused x hnot => exact h
    | existing hrequest hfound => exact h
    | denied hallows hreply => exact h
    | carried answer hown hallows hreply => exact h.put hown
    | silent answer hown hallows => exact h.put hown
  | ask q => exact h
  | sites => exact h
  | dirtySites => exact h
  | inventories => exact h
  | reflow => exact h
  | flush => exact h.flushEach h.own_of_mem {}
  | restore =>
    simp only [Duty.alone, Registry.restore]
    cases o.sink.load s with
    | error x => exact h
    | ok blobs => exact h.restoreEach blobs {}

namespace Situation

variable {w w₁ w₂ : Situation}

theorem sound_registryFor (h : w.registry.Sound) (step : Step) : (w.registryFor step).Sound := by
  unfold registryFor
  split
  · exact Registry.sound_empty
  · exact h

theorem sound_take (h : w.registry.Sound) (step : Step) :
    (w.take step).after.registry.Sound :=
  (sound_registryFor h step).alone step.duty

theorem registryFor_masked (w : Situation) (step : Step) :
    w.masked.registryFor step.masked = (w.registryFor step).masked := by
  unfold registryFor
  show (if step.anew then Registry.empty else w.registry.masked) = _
  split <;> rfl

/-- A step, masked and taken in the masked situation, ends in the same way. -/
theorem take_masked (h : w.registry.Sound) (step : Step) :
    (w.masked.take step.masked).result.withoutSnapshot =
        (w.take step).result.withoutSnapshot ∧
      (w.masked.take step.masked).after = (w.take step).after.masked := by
  have halone := step.duty.alone_masked step.answers.blind_outside (s := w.out)
    (sound_registryFor h step)
  rw [← registryFor_masked] at halone
  obtain ⟨hresult, hafter⟩ := halone
  refine ⟨hresult, ?_⟩
  have hregistry := congrArg Prod.fst hafter
  have hout := congrArg Prod.snd hafter
  exact congrArg₂ Situation.mk hregistry hout

/-- Steps that differ in their passwords are observed alike in situations that do. -/
theorem alike_take (h₁ : w₁.registry.Sound) (h₂ : w₂.registry.Sound) (hw : w₁.masked = w₂.masked)
    {step₁ step₂ : Step} (hstep : step₁.masked = step₂.masked) :
    (w₁.take step₁).Alike (w₂.take step₂) ∧
      (w₁.take step₁).after.masked = (w₂.take step₂).after.masked := by
  obtain ⟨hresult₁, hafter₁⟩ := take_masked h₁ step₁
  obtain ⟨hresult₂, hafter₂⟩ := take_masked h₂ step₂
  have hresult : (w₁.take step₁).result.withoutSnapshot = (w₂.take step₂).result.withoutSnapshot := by
    rw [← hresult₁, hw, hstep, hresult₂]
  have hafter : (w₁.take step₁).after.masked = (w₂.take step₂).after.masked := by
    rw [← hafter₁, hw, hstep, hafter₂]
  exact ⟨Observation.alike_of_masked hresult hafter, hafter⟩

/-! ## Section 4: Two runs -/

/-- Runs from situations that differ in passwords are observed alike. -/
theorem alike_observe_of_masked {steps₁ steps₂ : List Step} (h₁ : w₁.registry.Sound)
    (h₂ : w₂.registry.Sound) (hw : w₁.masked = w₂.masked)
    (hsteps : steps₁.map Step.masked = steps₂.map Step.masked) :
    List.Forall₂ Observation.Alike (w₁.observe steps₁) (w₂.observe steps₂) := by
  induction steps₁ generalizing w₁ w₂ steps₂ with
  | nil =>
    cases steps₂ with
    | nil => exact .nil
    | cons step₂ rest₂ => cases hsteps
  | cons step₁ rest₁ ih =>
    cases steps₂ with
    | nil => cases hsteps
    | cons step₂ rest₂ =>
      rw [List.map_cons, List.map_cons, List.cons.injEq] at hsteps
      obtain ⟨hstep, hrest⟩ := hsteps
      obtain ⟨halike, hafter⟩ := alike_take h₁ h₂ hw hstep
      exact .cons halike (ih (sound_take h₁ step₁) (sound_take h₂ step₂) hafter hrest)

/-- **Secrecy**: two runs of the same operations with the same answers from outside, which differ
    in nothing but the passwords that come in, each empty in both runs or in neither, are observed
    alike after every step. -/
theorem alike_observe (blobs : List (Site × ByteArray)) {steps₁ steps₂ : List Step}
    (hsteps : steps₁.map Step.masked = steps₂.map Step.masked) :
    List.Forall₂ Observation.Alike ((start blobs).observe steps₁) ((start blobs).observe steps₂) :=
  alike_observe_of_masked Registry.sound_empty Registry.sound_empty rfl hsteps

/-- A site is created, gets a card, has a terminal activated, and is stored; then it gets another
    login and is stored again; and then the daemon is started anew, takes in what was stored last,
    and tells of it. Everything is accepted. -/
def renewal (c : TerminalCoordinate) (first second : String) : List Step :=
  let site := Record.oneCard.site
  let answers : Answers := ⟨fun _ => .ok (), fun _ => .ok (), .ok [1]⟩
  [ ⟨false, .request (.create site ⟨.v4 ⟨10, 0, 0, 1⟩ 8080, "olt", first⟩ 1 2), answers⟩,
    ⟨false, .request (.change site (.attach .adtran (.v4 ⟨10, 0, 0, 2⟩ 830) "card-1")), answers⟩,
    ⟨false, .request (.change site (.terminal c (.activate "ONT1"))), answers⟩,
    ⟨false, .flush, answers⟩,
    ⟨false, .request (.change site (.login "olt" second)), answers⟩,
    ⟨false, .flush, answers⟩,
    ⟨true, .restore, answers⟩,
    ⟨false, .ask (.inventory site), answers⟩,
    ⟨false, .reflow, answers⟩ ]

/-- Whoever sees the two runs does not see which passwords were in use, not even after the passwords
    have gone through the sink and come back. -/
theorem alike_observe_renewal :
    let c : TerminalCoordinate := ⟨⟨⟨0, by decide⟩, ⟨0, by decide⟩⟩, ⟨0, by decide⟩⟩
    let steps₁ := renewal c "rosebud" "swordfish"
    let steps₂ := renewal c "mellon" "tulip"
    steps₁.map Step.duty ≠ steps₂.map Step.duty ∧
      steps₁.map Step.masked = steps₂.map Step.masked ∧
      List.Forall₂ Observation.Alike ((start []).observe steps₁) ((start []).observe steps₂) :=
  ⟨by decide, rfl, alike_observe [] rfl⟩

end Situation

end ChassisRegistry
