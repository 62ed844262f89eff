import ChassisRegistry.RegistryError

/-! # Kinds of sinks

    Where the daemon keeps its snapshots. A configuration names a kind
    exactly; an operator may write it with blanks around it, in any case, and
    shortened. -/

namespace ChassisRegistry

/-- A kind of sink. -/
inductive SinkKind where
  /-- One file per site; what is stored survives the daemon. -/
  | directory
  /-- Nothing survives the daemon. -/
  | memory
  deriving DecidableEq, Repr

namespace SinkKind

/-- Every kind, in the order in which messages list them. -/
def all : List SinkKind := [directory, memory]

/-- The name of a kind. -/
def name : SinkKind → String
  | directory => "directory"
  | memory    => "memory"

/-- What an operator may write for a kind instead of its name. -/
def short : SinkKind → String
  | directory => "dir"
  | memory    => "mem"

/-- The kind of exactly this name. -/
def named? (s : String) : Option SinkKind :=
  all.find? fun k => k.name == s

/-- The kind that an operator writes. -/
def parse (given : String) : Except RegistryError SinkKind :=
  let word := Text.keyword given
  match all.find? fun k => k.name == word || k.short == word with
  | some k => .ok k
  | none   => .error (.config "sink" s!"unknown sink kind '{word}'")

theorem named?_name (k : SinkKind) : named? k.name = some k := by
  cases k <;> decide

end SinkKind

end ChassisRegistry
