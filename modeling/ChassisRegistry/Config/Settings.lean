import ChassisRegistry.Config
import ChassisRegistry.Decimal.Shortest
import ChassisRegistry.Toml.Reader

/-! # Settings

    Reading a configuration off the entries of a TOML document. A setting that
    is not there has its default, and entries of other names are ignored. The
    settings are looked at in the order of their names, and the first that is
    ill-shaped is the error. Whole numbers that TOML does not promise to keep
    are let pass where they do no harm, but a document with such a number that
    makes no configuration counts for no TOML. -/

namespace ChassisRegistry

open Toml (Value)

/-! ## Errors -/

/-- Why a setting is ill-shaped. -/
inductive SettingError where
  | data (e : DataError)
  /-- A choice is a text, or a table with the choice as its only key. -/
  | noChoice
  | emptyChoice
  | manyChoices
  /-- A choice has nothing with it but an empty sequence or table. -/
  | filledSequence
  | filledTable
  | noTable (found : String)
  deriving DecidableEq

namespace SettingError

/-- The wording. -/
def message : SettingError → String
  | data e         => e.message
  | noChoice       => "wanted string or table"
  | emptyChoice    => "wanted exactly 1 element, found 0 elements"
  | manyChoices    => "wanted exactly 1 element, more than 1 element"
  | filledSequence => "expected empty array"
  | filledTable    => "expected empty table"
  | noTable found  => s!"expected table, found {found}"

end SettingError

/-! ## Single settings -/

namespace Settings

/-- A number always has its point in its place, and of two that are equally near the larger size is
    written. -/
def layout : Decimal.Layout := ⟨.up, fun _ => true⟩

/-- A floating point number, as messages show it. -/
def realText : Toml.Real → String
  | .finite x       => layout.text x
  | .infinite true  => "-inf"
  | .infinite false => "inf"
  | .notNumber      => "NaN"

/-- What a value is, as messages show it. A point in time counts as a table. -/
def found : Value → Found
  | .text s     => .text s
  | .integer n  => .integer n
  | .real x     => .real (realText x)
  | .boolean b  => .boolean b
  | .sequence _ => .sequence
  | .moment _ | .table _ => .map

/-- The error for a value of another kind. -/
def wrongKind {α : Type} (v : Value) (wanted : String) : Except SettingError α :=
  .error (.data (.wrongKind (found v) wanted))

/-- A text. -/
def text (wanted : String) : Value → Except SettingError String
  | .text s => .ok s
  | v => wrongKind v wanted

/-- The greatest number of 64 bits. -/
def greatest64 : Nat := 18446744073709551615

/-- A number of 64 bits from 0 on. -/
def nat64 : Value → Except SettingError Nat
  | .integer n =>
      if 0 ≤ n ∧ n ≤ greatest64 then .ok n.toNat else .error (.data (.outsideRange n "u64"))
  | v => wrongKind v "u64"

/-- A truth value. -/
def boolean : Value → Except SettingError Bool
  | .boolean b => .ok b
  | v => wrongKind v "a boolean"

/-- The kind of sink of exactly this name. -/
def choose (name : String) : Except SettingError SinkKind :=
  match SinkKind.named? name with
  | some k => .ok k
  | none => .error (.data (.unknownChoice name (SinkKind.all.map SinkKind.name)))

/-- Refuses what a choice may not have with it. -/
def nothingMore : Value → Except SettingError Unit
  | .sequence [] | .table [] => .ok ()
  | .sequence (_ :: _) => .error .filledSequence
  | .table (_ :: _) => .error .filledTable
  | .text _ => .error (.noTable "string")
  | .integer _ => .error (.noTable "integer")
  | .real _ => .error (.noTable "float")
  | .boolean _ => .error (.noTable "boolean")
  | .moment _ => .error (.noTable "datetime")

/-- A kind of sink: its name, or a table whose only key is the name. -/
def sinkKind : Value → Except SettingError SinkKind
  | .text name => choose name
  | .table [] => .error .emptyChoice
  | .table (_ :: _ :: _) => .error .manyChoices
  | .table [(name, payload)] => do
      let kind ← choose name
      nothingMore payload
      return kind
  | _ => .error .noChoice

/-- The setting of a name, or its default. -/
def get {α : Type} (entries : List (String × Value)) (name : String) (fallback : α)
    (read : Value → Except SettingError α) : Except SettingError α :=
  match entries.lookup name with
  | some v => read v
  | none => .ok fallback

end Settings

/-! ## The configuration -/

/-- The configuration that some entries make. -/
def Config.ofEntries (entries : List (String × Value)) : Except SettingError Config := do
  let fallback : Config := {}
  -- In the order of their names.
  let backupDir ← Settings.get entries "backup_dir" fallback.backupDir (Settings.text "path string")
  let flushInterval ←
    Settings.get entries "flush_interval_secs" fallback.flushInterval Settings.nat64
  let logLevel ← Settings.get entries "log_level" fallback.logLevel (Settings.text "a string")
  let restoreOnStart ←
    Settings.get entries "restore_on_start" fallback.restoreOnStart Settings.boolean
  let sink ← Settings.get entries "sink" fallback.sink Settings.sinkKind
  return { backupDir, sink, flushInterval, restoreOnStart, logLevel }

/-- Why a text makes no configuration. -/
inductive ConfigError where
  | notToml
  | setting (e : SettingError)
  deriving DecidableEq

/-- The configuration that a text makes. -/
def Config.ofText (s : String) : Except ConfigError Config :=
  match Toml.read? s.toList with
  | none => .error .notToml
  | some entries =>
      (ofEntries entries).mapError fun e =>
        if Toml.entriesKeepPromise entries then .setting e else .notToml

end ChassisRegistry
