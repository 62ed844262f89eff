import ChassisRegistry.Registry.Basic

/-! # Reflowing

    Tells the provisioning system again of every line card and every active
    terminal, site by site. Refused calls are counted, and the pass goes on. -/

namespace ChassisRegistry

/-- How the calls of a reflow fared. -/
structure ReflowReport where
  cards     : Nat := 0
  terminals : Nat := 0
  failures  : Nat := 0
  deriving DecidableEq, Repr

namespace ReflowReport

/-- Counts a reply to the notice of a card. -/
def countCard (report : ReflowReport) : Except ProvisionerError Unit → ReflowReport
  | .ok () => { report with cards := report.cards + 1 }
  | .error _ => { report with failures := report.failures + 1 }

/-- Counts a reply to the notice of a terminal. -/
def countTerminal (report : ReflowReport) : Except ProvisionerError Unit → ReflowReport
  | .ok () => { report with terminals := report.terminals + 1 }
  | .error _ => { report with failures := report.failures + 1 }

end ReflowReport

namespace Record

variable {σ : Type}

/-- Makes calls, one after the other, and counts the replies. -/
def callEach (p : Provisioner σ)
    (count : ReflowReport → Except ProvisionerError Unit → ReflowReport) :
    List Call → ReflowReport → σ → ReflowReport × σ
  | [], report, s => (report, s)
  | call :: rest, report, s =>
      let (reply, s) := p call s
      callEach p count rest (count report reply) s

/-- Tells of the cards of a record and then of its active terminals. -/
def reflow (r : Record) (p : Provisioner σ) (report : ReflowReport) (s : σ) : ReflowReport × σ :=
  let (report, s) := callEach p .countCard (r.cardNotices.map .addCard) report s
  match r.activeNotices with
  | .error _ => ({ report with failures := report.failures + 1 }, s)
  | .ok notices => callEach p .countTerminal (notices.map .activate) report s

end Record

namespace Registry

variable {σ : Type}

/-- Tells of the sites, one after the other. -/
def reflowEach (p : Provisioner σ) : List Record → ReflowReport → σ → ReflowReport × σ
  | [], report, s => (report, s)
  | r :: rest, report, s =>
      let (report, s) := r.reflow p report s
      reflowEach p rest report s

/-- Tells of all sites. -/
def reflow (g : Registry) (p : Provisioner σ) (s : σ) : ReflowReport × σ :=
  reflowEach p (g.entries.entries.map fun e => e.2.record) {} s

end Registry

end ChassisRegistry
