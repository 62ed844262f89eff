import ChassisRegistry.Proofs.SiteMap
import ChassisRegistry.Registry.Query
import ChassisRegistry.Report.Notices

/-! # Passwords

    A password comes in with a creation or a change of the login. From there it
    goes into the record of the site, and from the record into every notice and
    every call. Nothing on the way looks at more of it than whether it is empty.

    To say so, a password is masked: an empty one stays, and of any other one
    nothing is left but that there is one. Masking first and working then comes
    to the same as working first and masking then, for every operation of a
    record, and what a record shows of itself does not change when it is masked.

    Main statements: `Record.find_masked`, `Record.plan_masked`,
    `Record.carryOut_masked`. -/

namespace ChassisRegistry

/-! ## Section 1: Masks -/

/-- What is left of a password: whether it is empty. -/
def Endpoint.concealed (password : String) : String :=
  if password = "" then "" else "*"

/-- An endpoint without its password. -/
def Endpoint.masked (e : Endpoint) : Endpoint :=
  { e with password := concealed e.password }

/-- A card notice without its password. -/
def CardNotice.masked (n : CardNotice) : CardNotice :=
  { n with endpoint := n.endpoint.masked }

/-- A terminal notice without its password. -/
def TerminalNotice.masked (n : TerminalNotice) : TerminalNotice :=
  { n with endpoint := n.endpoint.masked }

/-- A transition without the password in its notice. -/
def Transition.masked (t : Transition) : Transition :=
  { t with notice := t.notice.map TerminalNotice.masked }

/-- A change without its password, if one comes with it. -/
def Change.masked : Change → Change
  | login user password => .login user (Endpoint.concealed password)
  | attach driver address hostname => .attach driver address hostname
  | terminal coordinate request => .terminal coordinate request

/-- A plan without its password. -/
def Plan.masked : Plan → Plan
  | login endpoint => .login endpoint.masked
  | card notice => .card notice.masked
  | transition t => .transition t.masked

/-- A call without its password. -/
def Call.masked : Call → Call
  | login endpoint => .login endpoint.masked
  | addCard notice => .addCard notice.masked
  | activate notice => .activate notice.masked
  | deactivate notice => .deactivate notice.masked

/-- A physical half without its password. -/
def Physical.Chassis.masked (c : Physical.Chassis) : Physical.Chassis :=
  { c with endpoint := c.endpoint.masked }

/-- A record without its password. -/
def Record.masked (r : Record) : Record :=
  { r with physical := r.physical.masked }

theorem Endpoint.concealed_eq_empty_iff {password : String} :
    concealed password = "" ↔ password = "" := by
  unfold concealed
  split
  · next hempty => simp [hempty]
  · next hempty => simp [hempty]

/-! ## Section 2: What is shown -/

/-- The display form of an endpoint does not show its password. -/
theorem Endpoint.display_masked (e : Endpoint) : e.masked.display = e.display := rfl

/-- The serialized form of a card notice does not show the password. -/
theorem CardNotice.toJson_masked (n : CardNotice) : n.masked.toJson = n.toJson := rfl

/-- The serialized form of a terminal notice does not show the password. -/
theorem TerminalNotice.toJson_masked (n : TerminalNotice) : n.masked.toJson = n.toJson := rfl

/-- The name of a call does not hang on the password. -/
theorem Call.operation_masked (c : Call) : c.masked.operation = c.operation := by
  cases c <;> rfl

/-- A refusal names the call, but not its password. -/
theorem ChassisError.ofRefusal_masked (c : Call) (e : ProvisionerError) :
    ChassisError.ofRefusal c.masked e = ChassisError.ofRefusal c e := by
  unfold ofRefusal
  rw [c.operation_masked]

/-- What was found out, without the text of a snapshot. -/
def Finding.withoutSnapshot : Finding → Finding
  | snapshot _ => .snapshot ""
  | state s => .state s
  | card c => .card c
  | inventory i => .inventory i

namespace Record

variable (r : Record)

@[simp] theorem endpoint_masked : r.masked.endpoint = r.endpoint.masked := rfl

@[simp] theorem logical_masked : r.masked.logical = r.logical := rfl

@[simp] theorem binding_masked (c : TerminalCoordinate) : r.masked.binding c = r.binding c := rfl

@[simp] theorem terminal_masked (c : TerminalCoordinate) : r.masked.terminal c = r.terminal c := rfl

theorem terminalState_masked (c : TerminalCoordinate) :
    r.masked.terminalState c = r.terminalState c := rfl

theorem card_masked (number : Nat) : r.masked.card number = r.card number := rfl

theorem inventory_masked : r.masked.inventory = r.inventory := rfl

/-- **Questions**: what is found out about a record does not hang on the password, the text of its
    snapshot apart. -/
theorem find_masked (q : Query) :
    (r.masked.find q).map Finding.withoutSnapshot = (r.find q).map Finding.withoutSnapshot := by
  cases q with
  | terminalState site c => simp only [find, terminalState_masked]
  | card site number => simp only [find, card_masked]
  | inventory site => simp only [find, inventory_masked]
  | snapshot site => simp only [find, Except.map, Finding.withoutSnapshot]

/-! ## Section 3: Plans -/

theorem describeCard_masked (driver : CardDriver) (address : SocketAddress) (hostname : String) :
    r.masked.describeCard driver address hostname =
      (r.describeCard driver address hostname).map CardNotice.masked := by
  unfold describeCard
  rw [logical_masked]
  split
  · rfl
  · split
    · rfl
    · have hnumber : r.masked.physical.nextNumber = r.physical.nextNumber := rfl
      rw [hnumber]
      cases r.physical.nextNumber <;> rfl

theorem resolve_masked (c : TerminalCoordinate) (request : TerminalRequest) :
    r.masked.resolve c request = r.resolve c request := by
  cases request <;> rfl

theorem noticeFor_masked (c : TerminalCoordinate) (service : Physical.Service) :
    r.masked.noticeFor c service = (r.noticeFor c service).map TerminalNotice.masked := by
  have hcard : ∀ number, r.masked.physical.card? number = r.physical.card? number := fun _ => rfl
  have htags : r.masked.plannedTags c = r.plannedTags c := rfl
  simp only [noticeFor, binding_masked, hcard, htags, bind, Except.bind]
  cases r.binding c with
  | error e => rfl
  | ok device =>
    simp only
    cases r.physical.card? device.card with
    | none => rfl
    | some card => cases r.plannedTags c <;> rfl

theorem prepare_masked (c : TerminalCoordinate) (request : TerminalRequest) :
    r.masked.prepare c request = (r.prepare c request).map Transition.masked := by
  unfold prepare
  rw [resolve_masked]
  cases r.resolve c request with
  | error e => rfl
  | ok found =>
    obtain ⟨action, service⟩ := found
    simp only [bind, Except.bind, noticeFor_masked]
    cases action with
    | preProvision => rfl
    | activate => cases r.noticeFor c service <;> rfl
    | deactivate => cases r.noticeFor c service <;> rfl

/-- **Plans**: a change without its password is planned as the change is. -/
theorem plan_masked (what : Change) : r.masked.plan what.masked = (r.plan what).map Plan.masked := by
  cases what with
  | login user password => rfl
  | attach driver address hostname =>
    simp only [Change.masked, plan, describeCard_masked]
    cases r.describeCard driver address hostname <;> rfl
  | terminal c request =>
    simp only [Change.masked, plan, prepare_masked]
    cases r.prepare c request <;> rfl

end Record

theorem Plan.call?_masked (plan : Plan) : plan.masked.call? = plan.call?.map Call.masked := by
  cases plan with
  | login endpoint => rfl
  | card notice => rfl
  | transition t =>
    obtain ⟨site, coordinate, action, service, notice⟩ := t
    cases action <;> cases notice <;> rfl

/-! ## Section 4: Carrying out -/

namespace Record

variable (r : Record)

theorem installCard_masked (notice : CardNotice) :
    r.masked.installCard notice.masked =
      ((r.installCard notice).1, (r.installCard notice).2.masked) := by
  unfold installCard
  by_cases hsite : notice.site ≠ r.site
  · rw [if_pos hsite, if_pos (show notice.masked.site ≠ r.masked.site from hsite)]
    rfl
  · rw [if_neg hsite, if_neg (show ¬ notice.masked.site ≠ r.masked.site from hsite)]
    have hcard : r.masked.physical.nextCard notice.masked.driver notice.masked.address
        notice.masked.hostname =
      r.physical.nextCard notice.driver notice.address notice.hostname := rfl
    rw [hcard]
    cases r.physical.nextCard notice.driver notice.address notice.hostname with
    | error e => rfl
    | ok card =>
      simp only
      -- The card is there from here on, so both records have it, whatever comes.
      by_cases hnumber : card.number ≠ notice.number
      · rw [if_pos hnumber, if_pos (show card.number ≠ notice.masked.number from hnumber)]
        rfl
      · rw [if_neg hnumber, if_neg (show ¬ card.number ≠ notice.masked.number from hnumber),
          logical_masked]
        rcases r.logical.bindEach card.devicePorts with ⟨result, logical⟩
        cases result <;> rfl

theorem modifyTerminal_masked (here : DevicePort) (index : Nat)
    (f : Physical.Terminal → Physical.Terminal) :
    r.masked.physical.modifyTerminal here index f =
      (r.physical.modifyTerminal here index f).map Physical.Chassis.masked := by
  have hcards : r.masked.physical.cards = r.physical.cards := rfl
  unfold Physical.Chassis.modifyTerminal
  rw [hcards]
  split
  · next i j _ _ =>
    -- Only the result shows whose cards they are, so the look-ups on the way are the same.
    rcases r.physical.cards[i]? with _ | card
    · rfl
    · rcases hport : card.ports[j]? with _ | port
      · simp [hport]
      · rcases hterminal : port.terminals[index]? with _ | t
        · simp [hport, hterminal]
        · simp only [hport, hterminal, Option.bind_eq_bind, Option.bind_some]
          rfl
  · rfl

theorem commit_masked (t : Transition) :
    r.masked.commit t.masked = ((r.commit t).1, (r.commit t).2.masked) := by
  unfold commit
  by_cases hsite : t.site ≠ r.site
  · rw [if_pos hsite, if_pos (show t.masked.site ≠ r.masked.site from hsite)]
    rfl
  · have happly : t.masked.apply = t.apply := rfl
    have hcoordinate : t.masked.coordinate = t.coordinate := rfl
    rw [if_neg hsite, if_neg (show ¬ t.masked.site ≠ r.masked.site from hsite), binding_masked,
      hcoordinate]
    cases r.binding t.coordinate with
    | error e => rfl
    | ok here =>
      simp only [modifyTerminal_masked, happly]
      cases r.physical.modifyTerminal here t.coordinate.terminalIndex.val t.apply <;> rfl

/-- **Carrying out**: a plan without its password is carried out as the plan is. -/
theorem carryOut_masked (plan : Plan) :
    r.masked.carryOut plan.masked = ((r.carryOut plan).1, (r.carryOut plan).2.masked) := by
  cases plan with
  | login endpoint => rfl
  | card notice => simp only [Plan.masked, carryOut, installCard_masked]
  | transition t => simp only [Plan.masked, carryOut, commit_masked]

/-! ## Section 5: Notices of a record -/

theorem cardNotices_masked : r.masked.cardNotices = r.cardNotices.map CardNotice.masked := by
  unfold cardNotices
  rw [List.map_map]
  rfl

theorem activeNotice_masked (slot port terminal : Nat) :
    r.masked.activeNotice slot port terminal =
      (r.activeNotice slot port terminal).map (Option.map TerminalNotice.masked) := by
  unfold activeNotice
  cases TerminalCoordinate.ofNumbers slot port terminal with
  | error e => rfl
  | ok c =>
    simp only [terminal_masked, noticeFor_masked]
    cases r.terminal c with
    | error e => rfl
    | ok t =>
      cases hactive : t.active with
      | false => simp [hactive, Except.map]
      | true =>
        simp only [hactive, if_true]
        cases r.noticeFor c t.service <;> rfl

theorem noticesOf_masked (positions : List (Nat × Nat × Nat)) :
    r.masked.noticesOf positions =
      (r.noticesOf positions).map (List.map TerminalNotice.masked) := by
  induction positions with
  | nil => rfl
  | cons head rest ih =>
    obtain ⟨slot, port, terminal⟩ := head
    simp only [noticesOf, activeNotice_masked, ih]
    cases r.activeNotice slot port terminal with
    | error e => rfl
    | ok notice =>
      simp only [Except.map]
      cases r.noticesOf rest with
      | error e => rfl
      | ok notices => cases notice <;> rfl

theorem activeNotices_masked :
    r.masked.activeNotices = r.activeNotices.map (List.map TerminalNotice.masked) :=
  r.noticesOf_masked r.boundPositions

end Record

end ChassisRegistry
