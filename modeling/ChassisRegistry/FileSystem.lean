import ChassisRegistry.FileError
import ChassisRegistry.FileSystem.Tree

/-! # Files and directories

    A tree of files, and the directory in which a program works. The program
    names files by paths; a path is followed from the root or from the working
    directory, name by name, and two points lead back up.

    Operations fail as an operating system lets them fail. A path with a zero
    byte is refused, then one that is too long. On the way only directories
    may be met, and a name has at most 255 bytes. -/

namespace ChassisRegistry

/-- Files, as a program sees them. -/
structure FileSystem where
  root    : Node
  workDir : Location := []

namespace FileSystem

/-- No files. -/
def empty : FileSystem := { root := .directory [] }

/-! ## Following paths -/

/-- Refuses what is no path before anything is looked at. -/
def screen (p : Path) : Except FileError Unit :=
  if p.bytes.contains 0 then .error .zeroInName
  else if p.bytes = [] then .error .missing
  else if Path.longest < p.bytes.length then .error .nameTooLong
  else .ok ()

/-- Goes on by one name, which takes a directory to go on from. -/
def step (fs : FileSystem) (place : Location) (name : FileName) : Except FileError Location :=
  match fs.root.entriesAt? place with
  | none => .error .notDirectory
  | some entries =>
      if name = FileName.here then .ok place
      else if name = FileName.above then .ok place.dropLast
      else if FileName.longest < name.length then .error .nameTooLong
      else
        match Node.child? name entries with
        | some _ => .ok (place ++ [name])
        | none => .error .missing

/-- Where a path begins. -/
def origin (fs : FileSystem) (p : Path) : Location := if p.isAbsolute then [] else fs.workDir

/-- The place to which names lead. -/
def walk (fs : FileSystem) (start : Location) (names : List FileName) :
    Except FileError Location :=
  names.foldlM fs.step start

/-- The node that a path means. -/
def find (fs : FileSystem) (p : Path) : Except FileError Node := do
  screen p
  match fs.root.at? (← fs.walk (fs.origin p) p.names) with
  | some (.directory entries) => return .directory entries
  | some (.file content) =>
      if p.asksDirectory then .error .notDirectory else return .file content
  | none => .error .missing

/-- Does the path mean a directory? -/
def isDirectory (fs : FileSystem) (p : Path) : Bool :=
  match fs.find p with
  | .ok (.directory _) => true
  | _ => false

/-- The content of a file. -/
def readFile (fs : FileSystem) (p : Path) : Except FileError ByteArray := do
  match ← fs.find p with
  | .file content => return content
  | .directory _ => .error .isDirectory

/-- The entries of a directory, as the system lists them. -/
def listDirectory (fs : FileSystem) (p : Path) : Except FileError DirectoryEntries := do
  match ← fs.find p with
  | .directory entries => return entries
  | .file _ => .error .notDirectory

/-! ## Entries -/

/-- An entry that is there or could be: its directory, what that holds, and its name. -/
structure Entry where
  directory : Location
  entries   : DirectoryEntries
  name      : FileName

namespace Entry

/-- What is under the name. -/
def node? (e : Entry) : Option Node := Node.child? e.name e.entries

/-- Does a file of this name have to stay outside, since a directory has it? -/
def isTaken (e : Entry) : Bool :=
  match e.node? with
  | some (.directory _) => true
  | _ => false

end Entry

/-- The entry that a path means. A path that ends in the name of the directory itself or of the one
    above means none. -/
def entry (fs : FileSystem) (p : Path) : Except FileError (Option Entry) := do
  screen p
  let directory ← fs.walk (fs.origin p) p.names.dropLast
  match fs.root.entriesAt? directory, p.names.getLast? with
  | none, _ => .error .notDirectory
  | some _, none => return none
  | some entries, some name =>
      if name = FileName.here ∨ name = FileName.above then return none
      else if FileName.longest < name.length then .error .nameTooLong
      else return some { directory, entries, name }

/-- Puts a node in the place of an entry. -/
def put (fs : FileSystem) (e : Entry) (node : Node) : FileSystem :=
  { fs with root := fs.root.changeAt (Node.place e.name node) e.directory }

/-- Takes an entry away. -/
def remove (fs : FileSystem) (e : Entry) : FileSystem :=
  { fs with root := fs.root.changeAt (Node.withoutEntry e.name) e.directory }

/-! ## Changes -/

/-- Makes a directory in one that is there. -/
def makeDirectory (fs : FileSystem) (p : Path) : Except FileError FileSystem := do
  match ← fs.entry p with
  | none => .error .alreadyThere
  | some e =>
      match e.node? with
      | some _ => .error .alreadyThere
      | none => return fs.put e (.directory [])

/-- Makes a directory, unless it is there. -/
def ensureDirectory (fs : FileSystem) (p : Path) : Except FileError FileSystem :=
  match fs.makeDirectory p with
  | .error .alreadyThere => if fs.isDirectory p then .ok fs else .error .alreadyThere
  | result => result

/-- Makes the directory of the first path; where one is missing, those of the paths behind it are
    made before. Those made before a failure stay. -/
def ensureEach (fs : FileSystem) : List Path → Except FileError Unit × FileSystem
  | [] => (.ok (), fs)
  | p :: above =>
      match fs.ensureDirectory p with
      | .ok fs => (.ok (), fs)
      | .error .missing =>
          match fs.ensureEach above with
          | (.error e, fs) => (.error e, fs)
          | (.ok (), fs) =>
              match fs.ensureDirectory p with
              | .ok fs => (.ok (), fs)
              | .error e => (.error e, fs)
      | .error e => (.error e, fs)

/-- Makes a directory and those above it. The path of no bytes asks for nothing. -/
def makeDirectories (fs : FileSystem) (p : Path) : Except FileError Unit × FileSystem :=
  if p.bytes = [] then (.ok (), fs) else fs.ensureEach (p :: p.ancestors)

/-- Writes a whole file. -/
def write (fs : FileSystem) (p : Path) (content : ByteArray) : Except FileError FileSystem := do
  match ← fs.entry p with
  | none => .error .isDirectory
  | some e =>
      if p.asksDirectory ∨ e.isTaken then .error .isDirectory
      else return fs.put e (.file content)

/-- Gives a file another name; a file that has this name is replaced. -/
def rename (fs : FileSystem) (source target : Path) : Except FileError FileSystem := do
  let content ← fs.readFile source
  match ← fs.entry source, ← fs.entry target with
  | some old, some new =>
      if target.asksDirectory then .error .notDirectory
      else if new.isTaken then .error .isDirectory
      -- A file that gets its own name stays.
      else if old.directory = new.directory ∧ old.name = new.name then return fs
      else return (fs.put new (.file content)).remove old
  | _, _ => .error .isDirectory

/-! ## Actions -/

/-- A single change to files. -/
inductive Action where
  /-- Makes a directory and those above it. -/
  | makeDirectory (p : Path)
  /-- Writes a whole file. -/
  | write (p : Path) (content : ByteArray)
  /-- Gives a file another name. -/
  | rename (source target : Path)

/-- Tries a change that is made as a whole or not at all. -/
def attempt (fs : FileSystem) : Except FileError FileSystem → Except FileError Unit × FileSystem
  | .ok fs => (.ok (), fs)
  | .error e => (.error e, fs)

/-- Makes a change. -/
def perform (fs : FileSystem) : Action → Except FileError Unit × FileSystem
  | .makeDirectory p => fs.makeDirectories p
  | .write p content => fs.attempt (fs.write p content)
  | .rename source target => fs.attempt (fs.rename source target)

/-- Makes changes one after the other, up to the first that fails. -/
def performEach (fs : FileSystem) : List Action → Except FileError Unit × FileSystem
  | [] => (.ok (), fs)
  | action :: rest =>
      match fs.perform action with
      | (.error e, fs) => (.error e, fs)
      | (.ok (), fs) => fs.performEach rest

end FileSystem

end ChassisRegistry
