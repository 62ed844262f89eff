import ChassisRegistry.FileSystem
import ChassisRegistry.Sink
import ChassisRegistry.SiteMap

/-! # The sink in a directory

    One file per site, named after it. A blob is first written to a file of
    its own, with `.tmp` behind the name, and then renamed, so that the file
    of a site always holds a whole blob. Sites whose names could be taken for
    something else are refused: those that begin with a point, hold a slash, a
    backslash or a zero byte, or end in `.tmp`.

    Loading takes every other file of the directory whose name is a site's,
    blanks around it aside. -/

namespace ChassisRegistry

/-- Where the sink keeps its files: the path, and how messages show it. -/
structure DirectorySink where
  path  : Path
  shown : String

namespace DirectorySink

/-- What stands behind the name of a file that is not yet whole. -/
def unfinished : String := ".tmp"

/-- Can the site be the name of a file? -/
def isKey (site : Site) : Bool :=
  !(site.text.toList.head? == some '.') &&
    !(site.text.toList.any fun c => c == '/' || c == '\\' || c.toNat == 0) &&
    !(site.text.toList.reverse.take 4 == unfinished.toList.reverse)

/-! ## Storing -/

/-- The changes that store a blob. -/
def storing (d : DirectorySink) (site : Site) (blob : ByteArray) : List FileSystem.Action :=
  let whole := d.path.child (.ofText site.text)
  let begun := d.path.child (.ofText (site.text ++ unfinished))
  [.makeDirectory d.path, .write begun blob, .rename begun whole]

/-- Stores a blob. -/
def store (d : DirectorySink) (site : Site) (blob : ByteArray) (fs : FileSystem) :
    Except SinkError Unit × FileSystem :=
  if isKey site then
    match fs.performEach (d.storing site blob) with
    | (.ok (), fs) => (.ok (), fs)
    | (.error e, fs) => (.error (.io site.text e), fs)
  else (.error (.badKey site.text), fs)

/-! ## Loading -/

/-- Does a file of this name hold a blob? -/
def isBlobName (name : String) : Bool :=
  !(name.toList.head? == some '.') &&
    !(name.toList.reverse.take 4 == unfinished.toList.reverse)

/-- The site and the blob of an entry, if it is a blob's. -/
def blobOf? (entry : FileName × Node) : Option (Site × ByteArray) :=
  match entry.2, FileName.text? entry.1 with
  | .file content, some name =>
      if isBlobName name then (Site.parse name).toOption.map fun site => (site, content) else none
  | _, _ => none

/-- The blobs of some entries; of two for one site the later counts. -/
def blobsOf (entries : List (FileName × Node)) : SiteMap ByteArray :=
  (entries.filterMap blobOf?).foldl (fun m b => m.insert b.1 b.2) .empty

/-- All blobs. A directory that is not there has none. -/
def load (d : DirectorySink) (fs : FileSystem) : Except SinkError (List (Site × ByteArray)) :=
  match fs.listDirectory d.path with
  | .ok entries => .ok (blobsOf entries).entries
  -- Before the first store.
  | .error .missing => .ok []
  | .error e => .error (.io d.shown e)

/-- The sink as such. -/
def sink (d : DirectorySink) : Sink FileSystem where
  store := d.store
  load  := d.load

end DirectorySink

end ChassisRegistry
