import ChassisRegistry.Toml.Value

/-! # How tables come to be

    A document builds its tables entry by entry, and no entry may take back
    what an earlier one has said. A table comes to be on the way to another
    one's header, on the way of a dotted key, or with a header of its own; a
    table of the first kind may still be given its header, and one of the
    second kind may still be given entries by other dotted keys. Values are
    closed, tables between braces among them. -/

namespace ChassisRegistry.Toml

/-- A dotted key: the keys of the tables on the way, and the last key. -/
structure Key where
  way  : List String
  last : String

/-- What a line of a document says. -/
inductive Statement where
  /-- The header of a table. -/
  | table (key : Key)
  /-- The header of one more table of a sequence. -/
  | row (key : Key)
  | entry (key : Key) (v : Value)

/-! ## Drafts -/

/-- How a table came to be. -/
inductive Origin where
  /-- On the way to the header of another table. -/
  | implied
  /-- On the way of a dotted key. -/
  | dotted
  /-- With a header of its own. -/
  | header

/-- A part of a document that is not complete. -/
inductive Draft where
  | value (v : Value)
  | table (origin : Origin) (entries : List (String × Draft))
  /-- A sequence of tables with headers, the last one first. -/
  | rows (tables : List (List (String × Draft)))

/-- The entries of a table that is not complete. -/
abbrev Entries := List (String × Draft)

namespace Entries

/-- Puts a draft under a key: in place of the one that is there, or behind the others. -/
def put (key : String) (d : Draft) : Entries → Entries
  | [] => [(key, d)]
  | (k, old) :: rest => if k = key then (key, d) :: rest else (k, old) :: put key d rest

/-- The table to which a key on the way of a header leads, and how it is put back. A table that is
    not there comes to be; of a sequence of tables the last one is meant. -/
def onHeaderWay : Option Draft → Option (Entries × (Entries → Draft))
  | none => some ([], .table .implied)
  | some (.table origin inner) => some (inner, .table origin)
  | some (.rows (table :: before)) => some (table, fun changed => .rows (changed :: before))
  | some (.rows []) | some (.value _) => none

/-- Changes the table to which a way of headers leads. -/
def atWay (change : Entries → Option Entries) : List String → Entries → Option Entries
  | [], entries => change entries
  | key :: rest, entries => do
      let (inner, back) ← onHeaderWay (entries.lookup key)
      return put key (back (← atWay change rest inner)) entries

/-- Gives a table its header. -/
def openTable (key : String) (entries : Entries) : Option Entries :=
  match entries.lookup key with
  | none => some (put key (.table .header []) entries)
  | some (.table .implied inner) => some (put key (.table .header inner) entries)
  | some _ => none

/-- Adds a table to a sequence of tables. -/
def openRow (key : String) (entries : Entries) : Option Entries :=
  match entries.lookup key with
  | none => some (put key (.rows [[]]) entries)
  | some (.rows tables) => some (put key (.rows ([] :: tables)) entries)
  | some _ => none

/-- The same on the way of a dotted key. The last table on its way has to be one that came to be on
    the way of dotted keys, and none may have a header. -/
def onDottedWay (final : Bool) : Option Draft → Option (Entries × (Entries → Draft))
  | none => some ([], .table .dotted)
  | some (.table .dotted inner) => some (inner, .table .dotted)
  | some (.table .implied inner) => if final then none else some (inner, .table .implied)
  | some (.rows (table :: before)) =>
      if final then none else some (table, fun changed => .rows (changed :: before))
  | some (.rows []) | some (.table .header _) | some (.value _) => none

/-- Gives a dotted key its value. -/
def assign (v : Value) (last : String) : List String → Entries → Option Entries
  | [], entries =>
      match entries.lookup last with
      | none => some (put last (.value v) entries)
      | some _ => none
  | key :: rest, entries => do
      let (inner, back) ← onDottedWay rest.isEmpty (entries.lookup key)
      return put key (back (← assign v last rest inner)) entries

end Entries

/-! ## Complete tables -/

mutual

/-- The value of a draft. -/
def Draft.complete : Draft → Value
  | .value v => v
  | .table _ entries => .table (completeEntries entries)
  | .rows tables => .sequence (completeRows tables).reverse

/-- The entries with the values of their drafts. -/
def completeEntries : List (String × Draft) → List (String × Value)
  | [] => []
  | (key, d) :: rest => (key, d.complete) :: completeEntries rest

/-- The tables with the values of their drafts. -/
def completeRows : List (List (String × Draft)) → List Value
  | [] => []
  | entries :: rest => .table (completeEntries entries) :: completeRows rest

end

/-! ## Documents -/

/-- A document that is not complete: its entries, and the way to the table of the last header. -/
structure Outline where
  entries : Entries
  way     : List String

namespace Outline

/-- Nothing said yet. -/
def start : Outline := ⟨[], []⟩

/-- The document with one more statement. -/
def say (o : Outline) : Statement → Option Outline
  | .table key => do
      let entries ← o.entries.atWay (·.openTable key.last) key.way
      return ⟨entries, key.way ++ [key.last]⟩
  | .row key => do
      let entries ← o.entries.atWay (·.openRow key.last) key.way
      return ⟨entries, key.way ++ [key.last]⟩
  | .entry key v => do
      let entries ← o.entries.atWay (·.assign v key.last key.way) o.way
      return { o with entries }

end Outline

/-- The entries that some statements make. -/
def document? (statements : List Statement) : Option (List (String × Value)) :=
  (statements.foldlM Outline.say .start).map fun o => completeEntries o.entries

/-- The table that some entries between braces make. -/
def tableOf? (entries : List (Key × Value)) : Option Value := do
  let table ← entries.foldlM (fun (t : Entries) e => t.assign e.2 e.1.last e.1.way) []
  return .table (completeEntries table)

end ChassisRegistry.Toml
