import ChassisRegistry.Inventory
import ChassisRegistry.Registry.Basic
import ChassisRegistry.Snapshot

/-! # Questions to the registry

    Questions read one record or all of them, in the order of the sites, and
    change nothing. -/

namespace ChassisRegistry

/-- A question about one site. -/
inductive Query where
  | terminalState (site : Site) (coordinate : TerminalCoordinate)
  | card (site : Site) (number : Nat)
  | inventory (site : Site)
  | snapshot (site : Site)
  deriving DecidableEq

/-- The site that a question is about. -/
def Query.site : Query → Site
  | terminalState site _ | card site _ | inventory site | snapshot site => site

/-- What is found out. -/
inductive Finding where
  | state (s : TerminalState)
  | card (c : Physical.Card)
  | inventory (i : Inventory)
  | snapshot (text : String)

/-- Answers a question from the record of its site. -/
def Record.find (r : Record) : Query → Except ChassisError Finding
  | .terminalState _ c => .ok (.state (r.terminalState c))
  | .card _ number => (r.card number).map .card
  | .inventory _ => .ok (.inventory r.inventory)
  | .snapshot _ => .ok (.snapshot (Snapshot.write r))

namespace Registry

/-- Answers a question. -/
def ask (g : Registry) (q : Query) : Except RegistryError Finding := do
  let e ← g.entry q.site
  (e.record.find q).mapError .chassis

/-- The sites, in order. -/
def sites (g : Registry) : List Site := g.entries.sites

/-- The sites with changes that no sink has taken yet, in order. -/
def dirtySites (g : Registry) : List Site :=
  (g.entries.entries.filter fun e => e.2.dirty).map Prod.fst

/-- The inventories of all sites, in order. -/
def inventories (g : Registry) : List Inventory :=
  g.entries.entries.map fun e => e.2.record.inventory

end Registry

end ChassisRegistry
