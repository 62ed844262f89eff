import ChassisRegistry.Config
import ChassisRegistry.Decimal.Digits

/-! # The command line

    Arguments are taken one after the other. An option has two dashes and a
    name, or one dash and a letter; its value stands behind an equals sign,
    right behind the letter, or in the next argument, unless that begins with
    a dash and more. No option may be given twice, and there are no other
    arguments. A request for help or for the version is granted as soon as it
    is met; what stands before it has to be right. -/

namespace ChassisRegistry

/-- What the command line sets; what it does not set is left to the configuration. -/
structure Options where
  config        : Option String := none
  backupDir     : Option String := none
  sink          : Option SinkKind := none
  flushInterval : Option Nat := none
  noRestore     : Bool := false
  logLevel      : Option String := none
  deriving DecidableEq, Repr

/-- What the command line asks for. -/
inductive Invocation where
  | serve (o : Options)
  | help
  | version
  | refused
  deriving DecidableEq, Repr

namespace CommandLine

/-! ## Options -/

/-- An option with a value. -/
inductive Setting where
  | config
  | backupDir
  | sink
  | flushInterval
  | logLevel
  deriving DecidableEq, Repr

/-- Anything that an argument can name. -/
inductive Switch where
  | help
  | version
  | noRestore
  | setting (s : Setting)
  deriving DecidableEq, Repr

/-- The name behind two dashes. -/
def Switch.ofName? (name : List Char) : Option Switch :=
  match String.ofList name with
  | "help"           => some .help
  | "version"        => some .version
  | "no-restore"     => some .noRestore
  | "config"         => some (.setting .config)
  | "backup-dir"     => some (.setting .backupDir)
  | "sink"           => some (.setting .sink)
  | "flush-interval" => some (.setting .flushInterval)
  | "log-level"      => some (.setting .logLevel)
  | _                => none

/-- The letter behind one dash. -/
def Switch.ofLetter? : Char → Option Switch
  | 'h' => some .help
  | 'V' => some .version
  | 'c' => some (.setting .config)
  | 'b' => some (.setting .backupDir)
  | 'i' => some (.setting .flushInterval)
  | 'l' => some (.setting .logLevel)
  | _   => none

/-! ## Values -/

/-- Fills what is not filled yet. -/
def once {α : Type} (old new : Option α) : Option (Option α) :=
  match old with
  | some _ => none
  | none => new.map some

/-- A path has at least one character. -/
def path? (given : String) : Option String := if given.isEmpty then none else some given

/-- A number of 64 bits; a plus may stand before it. -/
def interval? (given : String) : Option Nat := do
  let cs := given.toList
  let n ← Decimal.toNat? (if cs.head? = some '+' then cs.tail else cs)
  if n ≤ 18446744073709551615 then some n else none

/-- The options with one more set, if it was not set before and the value is of use. -/
def Setting.fill (s : Setting) (o : Options) (given : String) : Option Options :=
  match s with
  | .config        => (once o.config (path? given)).map fun v => { o with config := v }
  | .backupDir     => (once o.backupDir (path? given)).map fun v => { o with backupDir := v }
  | .sink          =>
      (once o.sink (SinkKind.parse given).toOption).map fun v => { o with sink := v }
  | .flushInterval =>
      (once o.flushInterval (interval? given)).map fun v => { o with flushInterval := v }
  | .logLevel      => (once o.logLevel (some given)).map fun v => { o with logLevel := v }

/-! ## Arguments -/

/-- An argument: what it names, and the value that it has with it. -/
structure Argument where
  switch : Switch
  value  : Option String

/-- The text behind an equals sign at the front, or the text as it is. -/
def withoutEquals : List Char → List Char
  | '=' :: rest => rest
  | cs => cs

/-- Takes an argument apart. Behind a letter without a value nothing else is looked at: its switch
    ends the reading. -/
def Argument.parse? (arg : String) : Option Argument :=
  match arg.toList with
  | '-' :: '-' :: long => do
      let switch ← Switch.ofName? (long.takeWhile (· != '='))
      return ⟨switch, match long.dropWhile (· != '=') with
        | _ :: value => some (String.ofList value)
        | [] => none⟩
  | '-' :: letter :: rest => do
      match ← Switch.ofLetter? letter, rest with
      | .setting s, _ :: _ => return ⟨.setting s, some (String.ofList (withoutEquals rest))⟩
      | switch, _ => return ⟨switch, none⟩
  | _ => none

/-- May the argument be the value of the one before it? -/
def isValue (arg : String) : Bool := !(arg.toList.head? == some '-') || arg == "-"

/-- Takes arguments one after the other. -/
def readEach (o : Options) : List String → Invocation
  | [] => .serve o
  | arg :: rest =>
      -- Behind two dashes alone everything would be another argument, and there is none.
      if arg = "--" then if rest.isEmpty then .serve o else .refused
      else
        match Argument.parse? arg with
        | none => .refused
        | some ⟨.help, none⟩ => .help
        | some ⟨.version, none⟩ => .version
        | some ⟨.noRestore, none⟩ =>
            if o.noRestore then .refused else readEach { o with noRestore := true } rest
        | some ⟨.setting s, some value⟩ =>
            match s.fill o value with
            | some o => readEach o rest
            | none => .refused
        | some ⟨.setting s, none⟩ =>
            -- The value is the next argument, if it does not look like an option.
            match rest with
            | [] => .refused
            | value :: rest =>
                if isValue value then
                  match s.fill o value with
                  | some o => readEach o rest
                  | none => .refused
                else .refused
        | some ⟨_, some _⟩ => .refused

/-- What the arguments ask for. -/
def read (args : List String) : Invocation := readEach {} args

end CommandLine

/-! ## Effect -/

/-- The configuration with what the command line sets. -/
def Options.apply (o : Options) (c : Config) : Config :=
  { backupDir      := o.backupDir.getD c.backupDir
    sink           := o.sink.getD c.sink
    flushInterval  := o.flushInterval.getD c.flushInterval
    restoreOnStart := !o.noRestore && c.restoreOnStart
    logLevel       := o.logLevel.getD c.logLevel }

end ChassisRegistry
